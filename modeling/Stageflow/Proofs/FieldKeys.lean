import Mathlib.Algebra.Ring.Nat
import Stageflow.Proofs.Groups
import Stageflow.Proofs.JsonText

/-!
# Keys by the value of a field

Joins and counts by a field take its value for the key: a string as it is, any other value as its
text.

* `Operators.fieldKey_eq_iff`: a string and a value of another kind share a key if the string is the
  text of that value; otherwise only equal values share one.
* `Operators.countBy_tallies`: a count by a field tells the key of each group, unless the field is
  `count` itself.
-/

namespace Stageflow

/-! ## Values as keys -/

namespace Json

variable {v w : Json}

/-- The key that a value is. -/
def key : Json → String
  | string s => s
  | v => v.text

/-- A string is the text of a value that is no string. -/
def Spells (v w : Json) : Prop := v = string w.text ∧ ∀ s, w ≠ string s

theorem key_eq_text (other : ∀ s, v ≠ string s) : v.key = v.text := by
  cases v with
  | string s => exact absurd rfl (other s)
  | _ => rfl

theorem Spells.key_eq (h : v.Spells w) : v.key = w.key := by
  obtain ⟨rfl, other⟩ := h
  rw [key_eq_text other, key]

/-- Values share a key if they are one value, or if one is a string that spells the other. -/
theorem key_eq_iff (hv : v.Exact) (hw : w.Exact) :
    v.key = w.key ↔ v = w ∨ v.Spells w ∨ w.Spells v := by
  constructor
  · intro same
    by_cases first : ∃ s, v = string s
    · obtain ⟨s, rfl⟩ := first
      by_cases second : ∃ t, w = string t
      · obtain ⟨t, rfl⟩ := second
        exact .inl (congrArg string same)
      · have other : ∀ t, w ≠ string t := not_exists.mp second
        rw [key_eq_text other] at same
        exact .inr (.inl ⟨congrArg string same, other⟩)
    · have other : ∀ s, v ≠ string s := not_exists.mp first
      rw [key_eq_text other] at same
      by_cases second : ∃ t, w = string t
      · obtain ⟨t, rfl⟩ := second
        exact .inr (.inr ⟨congrArg string same.symm, other⟩)
      · rw [key_eq_text (not_exists.mp second)] at same
        exact .inl (Document.eq_of_text hv hw same)
  · rintro (rfl | spelled | spelled)
    · rfl
    · exact spelled.key_eq
    · exact spelled.key_eq.symm

end Json

namespace Operators

variable {field : Name} {v w : Json}

theorem fieldKey_of {record : Json} (found : record.field? field = some v) :
    fieldKey field record = .ok v.key := by
  rw [fieldKey, found]
  cases v <;> rfl

/-- **Keys by a field tell its values, but for strings that spell other values.** Records that have
the field get a key. If their values are without floating point numbers, the keys are equal if the
values are, or if one value is a string and the text of the other, which is no string. -/
theorem fieldKey_eq_iff {a b : Json} (ha : a.field? field = some v) (hb : b.field? field = some w)
    (hv : v.Exact) (hw : w.Exact) :
    ∃ k l, fieldKey field a = .ok k ∧ fieldKey field b = .ok l ∧
      (k = l ↔ v = w ∨ v.Spells w ∨ w.Spells v) :=
  ⟨v.key, w.key, fieldKey_of ha, fieldKey_of hb, Json.key_eq_iff hv hw⟩

/-- A record with a number in its field `k`. -/
def numbered : Json := .object [("k", .int 1)]

/-- A record with a text in its field `k`. -/
def texted (s : String) : Json := .object [("k", .string s)]

theorem fieldKey_eq_iff_texted :
    ∃ k l, fieldKey "k" numbered = .ok k ∧ fieldKey "k" (texted "2") = .ok l ∧ k ≠ l := by
  have number : numbered.field? "k" = some (.int 1) := rfl
  have text : (texted "2").field? "k" = some (.string "2") := rfl
  have one : (Json.int 1).Exact := .int ⟨by decide, by decide⟩
  obtain ⟨k, l, first, second, same⟩ := fieldKey_eq_iff number text one (.string "2")
  refine ⟨k, l, first, second, ?_⟩
  rw [Ne, same]
  rintro (alike | ⟨alike, -⟩ | ⟨spelled, -⟩)
  · cases alike
  · cases alike
  · exact absurd (Json.string.inj spelled) (by decide)

/-- A number and the string of its digits are two values and one key. -/
theorem fieldKey_collides :
    numbered.field? "k" = some (.int 1) ∧ (texted "1").field? "k" = some (.string "1") ∧
      (Json.int 1).Exact ∧ (Json.string "1").Exact ∧ Json.int 1 ≠ .string "1" ∧
      fieldKey "k" numbered = .ok "1" ∧ fieldKey "k" (texted "1") = .ok "1" :=
  ⟨rfl, rfl, .int ⟨by decide, by decide⟩, .string "1", nofun, rfl, rfl⟩

end Operators

/-! ## Counts by a field -/

namespace Aggregation

variable {field : Name} {records : List Json} {keys : List String}

/-- The record of a group: the key under the field, and how many records have it. -/
structure Tally (field : Name) (key : String) (n : Nat) (out : Json) : Prop where
  /-- There are these two entries and no others. -/
  entries : ∃ members, out = .object members ∧
    members.Perm [(field, .string key), ("count", .ofNat n)]
  key : out.field? field = some (.string key)
  count : out.field? "count" = some (.ofNat n)

theorem reduce_countBy (other : field ≠ "count") (key : String) (records : List Json) :
    Tally field key records.length ((countBy field).reduce key records) := by
  have names : ([(field, Json.string key), ("count", .ofNat records.length)].map (·.1)).Nodup := by
    simpa using other
  constructor
  · exact ⟨_, rfl, Table.ofList_perm_pairs names⟩
  · exact (Table.get?_ofList names).mpr List.mem_cons_self
  · exact (Table.get?_ofList names).mpr (List.mem_cons_of_mem _ (List.mem_singleton_self _))

/-- Under the name of the count, the key is put in first and does not stay. -/
theorem reduce_countBy_count (key : String) (records : List Json) :
    (countBy "count").reduce key records = .object [("count", .ofNat records.length)] := by
  simp [countBy, Json.ofMembers, Table.ofList, Table.insert]

/-- The sizes of the groups sum up to the number of all records. -/
theorem Groups.sum_length {a : Aggregation} (h : a.Groups records keys) :
    (keys.map fun k => (a.members records k).length).sum = records.length := by
  rw [← h.whole.length_eq, List.length_flatMap]

end Aggregation

namespace Operators

variable {ops : Operators} {stage field : Name}

/-- **A count by a field makes one record for each key.** If every record has the field, the counts
are the sizes of the groups and sum up to the number of records. Each record that is made holds its
key and its count and nothing else; only where the field is `count` the key is lost. -/
theorem countBy_tallies (registered : ops.aggregations.get? stage = some (.countBy field))
    (allowed : ops.faults "aggregate" stage = none) (input : Dataset Json) (hint : Option Nat)
    (defined : ∀ r ∈ input.items, ∃ v, r.field? field = some v) :
    ∃ (keys : List String) (tally : String → Json),
      (Aggregation.countBy field).Groups input.items keys ∧
      (∀ race : Race, (ops.aggregate race stage input hint).result =
        .ok (.of (keys.map fun k => .output none (tally k)))) ∧
      (keys.map fun k =>
        ((Aggregation.countBy field).members input.items k).length).sum = input.items.length ∧
      (field ≠ "count" → ∀ k, Aggregation.Tally field k
        ((Aggregation.countBy field).members input.items k).length (tally k)) ∧
      (field = "count" → ∀ k, tally k = .object [("count",
        .ofNat ((Aggregation.countBy field).members input.items k).length)]) := by
  have keyed : ∀ r ∈ input.items, ∃ k, (Aggregation.countBy field).key r = .ok k := by
    intro r hr
    obtain ⟨v, found⟩ := defined r hr
    exact ⟨v.key, fieldKey_of found⟩
  have paired := withKeys_of_no_failure (failures_eq_nil.mpr keyed)
  obtain ⟨same, keys⟩ := withKeys_ok (paired 0)
  have groups := Aggregation.groups_keyed same keys
  refine ⟨_, fun k => (Aggregation.countBy field).reduce k
    ((Aggregation.countBy field).members input.items k), groups, fun race => ?_,
    groups.sum_length, ?_, ?_⟩
  · rw [aggregate_result ops registered allowed, paired, Except.map,
      Aggregation.map_group same keys fun k members =>
        Tagged.plain ((Aggregation.countBy field).reduce k members)]
    rfl
  · intro other k
    exact Aggregation.reduce_countBy other k _
  · rintro rfl k
    exact Aggregation.reduce_countBy_count k _

theorem countBy_tallies_mixed :
    ∃ (keys : List String) (tally : String → Json),
      (counting.aggregate (fun _ => 0) "s" (.of mixedRecords) (some 2)).result =
        .ok (.of (keys.map fun k => .output none (tally k))) ∧
      (keys.map fun k =>
        ((Aggregation.countBy "k").members mixedRecords k).length).sum = 3 ∧
      ∀ k, Aggregation.Tally "k" k
        ((Aggregation.countBy "k").members mixedRecords k).length (tally k) := by
  have registered : counting.aggregations.get? "s" = some (.countBy "k") := rfl
  have allowed : counting.faults "aggregate" "s" = none := rfl
  have defined : ∀ r ∈ mixedRecords, ∃ v, r.field? "k" = some v := by
    simp only [mixedRecords, List.forall_mem_cons]
    exact ⟨⟨_, rfl⟩, ⟨_, rfl⟩, ⟨_, rfl⟩, List.forall_mem_nil _⟩
  obtain ⟨keys, tally, -, made, total, told, -⟩ :=
    countBy_tallies registered allowed (.of mixedRecords) (some 2) defined
  exact ⟨keys, tally, made _, total, told (by decide)⟩

/-- Counts of records by their field `count`, for a stage `s`. -/
def countingCounts : Operators := { empty with aggregations := [("s", .countBy "count")] }

/-- Records of two keys, under the name of the count. -/
def countRecords : List Json := [.object [("count", .string "a")], .object [("count", .string "b")]]

/-- The records of two groups are the same, and none of them holds its key. -/
theorem countBy_count_loses_keys :
    (∀ r ∈ countRecords, ∃ v, r.field? "count" = some v) ∧
      (∀ race : Race, (countingCounts.aggregate race "s" (.of countRecords) none).result =
        .ok (.of [.plain (.object [("count", .int 1)]), .plain (.object [("count", .int 1)])])) ∧
      ∀ k, (Json.object [("count", .int 1)]).field? "count" ≠ some (.string k) := by
  refine ⟨?_, fun _ => rfl, nofun⟩
  simp only [countRecords, List.forall_mem_cons]
  exact ⟨⟨_, rfl⟩, ⟨_, rfl⟩, List.forall_mem_nil _⟩

end Operators

end Stageflow
