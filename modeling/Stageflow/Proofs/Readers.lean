import Stageflow.Json.Decoder
import Stageflow.Proofs.JsonText
import Stageflow.Proofs.Names

/-!
# Reading written values

A value whose objects have their members in order is made of its document again, unless more
brackets are open than may be. A reader of some type finds in the text of a value what it finds in
the document of the value, and a structure is read member by member.
-/

namespace Stageflow

open Json

namespace Json

/-- The members of every object are in ascending order of their names. -/
inductive Ordered : Json → Prop
  | null : Ordered null
  | bool (b : Bool) : Ordered (bool b)
  | number (n : Number) : Ordered (number n)
  | string (s : String) : Ordered (string s)
  | array {items : List Json} (h : ∀ v ∈ items, Ordered v) : Ordered (array items)
  | object {members : Table Json} (ascending : members.Ascending)
      (h : ∀ p ∈ members, Ordered p.2) : Ordered (object members)

theorem depth_le_depthOfItems {v : Json} {vs : List Json} (h : v ∈ vs) :
    v.depth ≤ depthOfItems vs := by
  induction vs with
  | nil => cases h
  | cons u us ih =>
    rw [depthOfItems]
    rcases List.mem_cons.mp h with rfl | later
    · exact Nat.le_max_left ..
    · exact Nat.le_trans (ih later) (Nat.le_max_right ..)

theorem depth_le_depthOfMembers {p : Name × Json} {ms : List (Name × Json)} (h : p ∈ ms) :
    p.2.depth ≤ depthOfMembers ms := by
  induction ms with
  | nil => cases h
  | cons q ms ih =>
    rw [depthOfMembers]
    rcases List.mem_cons.mp h with rfl | later
    · exact Nat.le_max_left ..
    · exact Nat.le_trans (ih later) (Nat.le_max_right ..)

end Json

namespace Document

theorem toItems_ofItems {vs : List Json} {levels : Nat}
    (h : ∀ v ∈ vs, (ofValue v).toValue levels = .ok v) :
    toItems levels (ofItems vs) = .ok vs := by
  induction vs with
  | nil => rfl
  | cons v vs ih =>
    obtain ⟨first, others⟩ := List.forall_mem_cons.mp h
    rw [ofItems, toItems, first, ih others]
    rfl

theorem toMembers_ofMembers {ms : List (Name × Json)} {levels : Nat}
    (h : ∀ p ∈ ms, (ofValue p.2).toValue levels = .ok p.2) :
    toMembers levels (ofMembers ms) = .ok ms := by
  induction ms with
  | nil => rfl
  | cons p ms ih =>
    obtain ⟨first, others⟩ := List.forall_mem_cons.mp h
    rw [ofMembers, toMembers, first, ih others]
    rfl

/-- A value is made of its document again, if no more brackets are open than may be. -/
theorem toValue_ofValue {v : Json} (h : v.Ordered) (levels : Nat) (shallow : v.depth ≤ levels) :
    (ofValue v).toValue levels = .ok v := by
  induction h generalizing levels with
  | null => rfl
  | bool b => rfl
  | number n => rfl
  | string s => rfl
  | array h ih =>
    rw [Json.depth] at shallow
    obtain ⟨levels, rfl⟩ : ∃ n, levels = n + 1 := ⟨levels - 1, by omega⟩
    have items := toItems_ofItems fun u hu =>
      ih u hu levels (Nat.le_trans (depth_le_depthOfItems hu) (by omega))
    rw [ofValue, toValue, items]
    rfl
  | object ascending h ih =>
    rw [Json.depth] at shallow
    obtain ⟨levels, rfl⟩ : ∃ n, levels = n + 1 := ⟨levels - 1, by omega⟩
    have members := toMembers_ofMembers fun p hp =>
      ih p hp levels (Nat.le_trans (depth_le_depthOfMembers hp) (by omega))
    rw [ofValue, toValue, members, Except.map, Json.ofMembers, ascending.ofList_eq]

end Document

namespace Decoder

variable {α : Type} {item : Decoder α} {levels : Nat}

/-- A reader finds something in a value, wherever its document comes from, if so many brackets may
be opened. -/
def Finds (item : Decoder α) (levels : Nat) (v : Json) (a : α) : Prop :=
  ∀ m, item m levels (.ofValue v) = .ok a

theorem finds_string (levels : Nat) (s : String) : string.Finds levels (.string s) s := fun _ => rfl

theorem finds_value {v : Json} (ordered : v.Ordered) (shallow : v.depth ≤ levels) :
    value.Finds levels v v :=
  fun _ => Document.toValue_ofValue ordered levels shallow

/-- A list is found if each of its items is. -/
theorem finds_list {f : α → Json} {as : List α} (h : ∀ a ∈ as, item.Finds levels (f a) a) :
    (list item).Finds (levels + 1) (.array (as.map f)) as := by
  intro m
  rw [Document.ofValue, list]
  induction as with
  | nil => rfl
  | cons a as ih =>
    obtain ⟨first, others⟩ := List.forall_mem_cons.mp h
    rw [List.map_cons, Document.ofItems, items, first m, ih others]
    rfl

theorem entries_ofMembers {f : α → Json} {t : Table α}
    (h : ∀ p ∈ t, item.Finds levels (f p.2) p.2) (m : Medium) :
    entries item m levels (Document.ofMembers (t.mapValues f)) = .ok t := by
  induction t with
  | nil => rfl
  | cons p t ih =>
    obtain ⟨first, others⟩ := List.forall_mem_cons.mp h
    rw [Table.mapValues, List.map_cons, Document.ofMembers, entries, first m, ← Table.mapValues,
      ih others]
    rfl

/-- A table is found if each of its values is. -/
theorem finds_table {f : α → Json} {t : Table α} (ascending : t.Ascending)
    (h : ∀ p ∈ t, item.Finds levels (f p.2) p.2) :
    (table item).Finds (levels + 1) (.object (t.mapValues f)) t := by
  intro m
  rw [Document.ofValue, table, entries_ofMembers h m, Except.map, ascending.ofList_eq]

/-- The text of a value is read as its document. -/
theorem parse_text (item : Decoder α) {v : Json} (h : v.Exact) :
    parse item v.text = item .text maxDepth (.ofValue v) := by
  rw [parse, Document.read_text h]
  dsimp only
  cases item .text maxDepth (.ofValue v) <;> rfl

end Decoder

theorem Field.read_of {σ α : Type} {label : Name} {item : Decoder α} {set : α → σ → σ}
    {optional : Bool} {m : Medium} {levels : Nat} {d : Document} {a : α}
    (read : item m levels d = .ok a) :
    (Field.of label item set optional).read m levels d = .ok (set a) := by
  change (item m levels d).map set = .ok (set a)
  rw [read, Except.map]

namespace Form

variable {σ : Type} {form : Form σ} {field : Field σ} {f : σ → σ} {m : Medium} {levels : Nat}
  {k : Name} {d : Document} {seen : List Name} {s : σ}

/-- A member of a field that has not come before is read into that field. -/
theorem readMembers_field (found : form.fields.find? (·.label = k) = some field)
    (fresh : k ∉ seen) (read : field.read m levels d = .ok f) (ds : List (Document × Document)) :
    readMembers form m levels ((.string (some k), d) :: ds) seen s =
      readMembers form m levels ds (k :: seen) (f s) := by
  rw [readMembers, found]
  dsimp only
  rw [if_neg fresh, read]
  rfl

end Form

end Stageflow
