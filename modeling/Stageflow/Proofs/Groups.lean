import Mathlib.Data.List.Lex
import Stageflow.Proofs.Ledgers
import Stageflow.Proofs.Names
import Stageflow.Proofs.Steps
import Stageflow.Operators

/-!
# Groups of an aggregation

An aggregation cuts the records of its stage into one group for each key. Keys are compared by their
characters; that is the order of their octets, so the outputs stand in the order of octets too.
-/

namespace Stageflow

/-! ## The order of octets -/

/-- The octets of a text in UTF-8. -/
def octets (s : String) : List UInt8 := s.toUTF8.data.toList

theorem octets_eq (s : String) : octets s = s.toList.flatMap String.utf8EncodeChar := by
  conv_lhs => rw [← String.ofList_toList (s := s)]
  rw [octets, String.toUTF8_eq_toByteArray, String.toByteArray_ofList, List.utf8Encode,
    List.toList_data_toByteArray]

theorem octet_lt {m n : Nat} (hm : m < 256) (hn : n < 256) :
    UInt8.ofNat m < UInt8.ofNat n ↔ m < n := by
  rw [UInt8.lt_iff_toNat_lt, UInt8.toNat_ofNat', UInt8.toNat_ofNat', Nat.mod_eq_of_lt hm,
    Nat.mod_eq_of_lt hn]

theorem octet_eq {m n : Nat} (hm : m < 256) (hn : n < 256) :
    UInt8.ofNat m = UInt8.ofNat n ↔ m = n := by
  rw [← UInt8.toNat_inj, UInt8.toNat_ofNat', UInt8.toNat_ofNat', Nat.mod_eq_of_lt hm,
    Nat.mod_eq_of_lt hn]

/-- Of two characters, the encodings already differ where both still have octets. -/
theorem encoding_lt {c d : Char} (h : c < d) (cs ds : List UInt8) :
    String.utf8EncodeChar c ++ cs < String.utf8EncodeChar d ++ ds := by
  have before : c.val.toNat < d.val.toNat := h
  have small : d.val.toNat < 0x110000 := by
    have valid : d.val.toNat < 0xd800 ∨ 0xdfff < d.val.toNat ∧ d.val.toNat < 0x110000 := d.valid
    omega
  generalize hm : c.val.toNat = m at before
  generalize hn : d.val.toNat = n at before small
  -- Every octet holds six more bits, so the numbers are told by dividing by 64 again and again.
  have twice (v : Nat) : v / 4096 = v / 64 / 64 := by rw [Nat.div_div_eq_div_mul]
  have thrice (v : Nat) : v / 262144 = v / 64 / 64 / 64 := by
    rw [Nat.div_div_eq_div_mul, Nat.div_div_eq_div_mul]
  simp only [String.utf8EncodeChar, hm, hn, twice, thrice]
  split_ifs
  all_goals
    simp only [List.cons_append, List.nil_append, List.cons_lt_cons_iff]
    simp (disch := omega) only [octet_lt, octet_eq]
    omega

/-- Texts in the order of their characters are in the order of their octets. -/
theorem octets_lt {a b : String} (h : a < b) : octets a < octets b := by
  have run (cs ds : List Char) (h : cs < ds) :
      cs.flatMap String.utf8EncodeChar < ds.flatMap String.utf8EncodeChar := by
    induction cs generalizing ds with
    | nil =>
      cases ds with
      | nil => cases h
      | cons d ds =>
        rw [List.flatMap_nil, List.flatMap_cons]
        cases encoded : String.utf8EncodeChar d with
        | nil => exact absurd encoded String.utf8EncodeChar_ne_nil
        | cons x xs => exact List.nil_lt_cons x _
    | cons c cs ih =>
      cases ds with
      | nil => cases h
      | cons d ds =>
        rw [List.flatMap_cons, List.flatMap_cons]
        rcases List.cons_lt_cons_iff.mp h with first | ⟨rfl, later⟩
        · exact encoding_lt first _ _
        · exact List.append_left_lt (ih ds later)
  rw [octets_eq, octets_eq]
  exact run _ _ (String.lt_iff.mp h)

/-! ## Keys of records -/

namespace Aggregation

variable {a : Aggregation} {records : List Json}

/-- The records of a key, in their order. -/
def members (a : Aggregation) (records : List Json) (key : String) : List Json :=
  records.filter fun r => (a.key r).toOption = some key

/-- The keys of the groups that records are cut into. -/
structure Groups (a : Aggregation) (records : List Json) (keys : List String) : Prop where
  ascending : keys.Pairwise fun k k' => octets k < octets k'
  /-- There is a group for every key that a record has, and for no other. -/
  taken : ∀ k, k ∈ keys ↔ ∃ r ∈ records, a.key r = .ok k
  /-- Every record is in one group. -/
  whole : (keys.flatMap (a.members records)).Perm records

end Aggregation

namespace Operators

variable {key : KeyFunction} {records : List Json} {keyed : List (String × Json)} {pick : Nat}
  {e : Failure}

theorem mem_failures : e ∈ failures key records ↔ ∃ r ∈ records, key r = .error e := by
  rw [failures, List.mem_filterMap]
  refine exists_congr fun r => and_congr_right fun _ => ?_
  cases key r <;> simp

theorem failures_eq_nil : failures key records = [] ↔ ∀ r ∈ records, ∃ k, key r = .ok k := by
  rw [failures, List.filterMap_eq_nil_iff]
  refine forall_congr' fun r => imp_congr_right fun _ => ?_
  cases key r <;> simp

/-- Records get their keys if none of them fails, whatever is picked otherwise. -/
theorem withKeys_of_no_failure (none_failed : failures key records = []) (pick : Nat) :
    withKeys pick key records =
      .ok (records.filterMap fun r => (key r).toOption.map fun k => (k, r)) := by
  simp [withKeys, none_failed]

theorem failures_of_withKeys (paired : withKeys pick key records = .ok keyed) :
    failures key records = [] := by
  unfold withKeys at paired
  dsimp only at paired
  split at paired
  · cases paired
  · next behind =>
    by_contra some_failed
    have inside := Nat.mod_lt pick (List.length_pos_iff.mpr some_failed)
    exact Nat.not_le.mpr inside (List.getElem?_eq_none_iff.mp behind)

theorem withKeys_repick (paired : withKeys pick key records = .ok keyed) (other : Nat) :
    withKeys other key records = .ok keyed := by
  have none_failed := failures_of_withKeys paired
  rw [withKeys_of_no_failure none_failed other, ← withKeys_of_no_failure none_failed pick, paired]

/-- Records that have got their keys are still in their order. -/
theorem withKeys_ok (paired : withKeys pick key records = .ok keyed) :
    keyed.map (·.2) = records ∧ ∀ p ∈ keyed, key p.2 = .ok p.1 := by
  have none_failed := failures_of_withKeys paired
  rw [withKeys_of_no_failure none_failed] at paired
  obtain rfl := Except.ok.inj paired
  have defined := failures_eq_nil.mp none_failed
  clear paired none_failed
  constructor
  · induction records with
    | nil => rfl
    | cons r rs ih =>
      obtain ⟨⟨k, found⟩, others⟩ := List.forall_mem_cons.mp defined
      have taken : (key r).toOption = some k := by rw [found]; rfl
      rw [List.filterMap_cons, taken, Option.map_some, List.map_cons, ih others]
  · intro p hp
    obtain ⟨r, -, taken⟩ := List.mem_filterMap.mp hp
    obtain ⟨k, found, rfl⟩ := Option.map_eq_some_iff.mp taken
    cases outcome : key r with
    | ok k' =>
      rw [outcome] at found
      rw [← Option.some.inj found]
    | error e =>
      rw [outcome] at found
      cases found

/-- The failure that is reported is that of a record. -/
theorem withKeys_error (failed : withKeys pick key records = .error e) :
    ∃ r ∈ records, key r = .error e := by
  unfold withKeys at failed
  dsimp only at failed
  split at failed
  · next f reported =>
    obtain rfl := Except.error.inj failed
    exact mem_failures.mp (List.mem_of_getElem? reported)
  · cases failed

theorem exists_pick {r : Json} (hr : r ∈ records) (missing : key r = .error e) :
    ∃ pick, withKeys pick key records = .error e := by
  obtain ⟨pick, inside, there⟩ := List.getElem_of_mem (mem_failures.mpr ⟨r, hr, missing⟩)
  refine ⟨pick, ?_⟩
  simp [withKeys, Nat.mod_eq_of_lt inside, List.getElem?_eq_getElem inside, there]

end Operators

namespace Aggregation

variable {a : Aggregation} {records : List Json} {keyed : List (String × Json)}

/-- The values of a key among keyed records are the records of that key. -/
theorem valuesOf_keyed (same : keyed.map (·.2) = records)
    (keys : ∀ p ∈ keyed, a.key p.2 = .ok p.1) (k : String) :
    Table.valuesOf keyed k = a.members records k := by
  subst same
  rw [Table.valuesOf, members, List.filter_map]
  congr 1
  refine List.filter_congr fun p hp => ?_
  simp [keys p hp, Except.toOption]

theorem mem_keys_group {k : String} : k ∈ (group keyed).keys ↔ Table.valuesOf keyed k ≠ [] := by
  constructor
  · intro there
    obtain ⟨vs, found⟩ := Table.get?_eq_some_of_mem_keys there
    rw [group, Table.get?_grouped] at found
    split at found
    · cases found
    · assumption
  · intro some_value
    have found : (group keyed).get? k = some (Table.valuesOf keyed k) := by
      rw [group, Table.get?_grouped, if_neg some_value]
    exact List.mem_map_of_mem (Table.mem_of_get? found)

/-- A group holds the records of its key. -/
theorem map_group {β : Type} (same : keyed.map (·.2) = records)
    (keys : ∀ p ∈ keyed, a.key p.2 = .ok p.1) (f : String → List Json → β) :
    (group keyed).map (fun g => f g.1 g.2) =
      (group keyed).keys.map fun k => f k (a.members records k) := by
  rw [Table.keys, List.map_map]
  refine List.map_congr_left fun g hg => ?_
  have found := (Table.grouped_ascending keyed).get?_of_mem hg
  rw [Table.get?_grouped] at found
  split at found
  · cases found
  · rw [Function.comp_apply, ← valuesOf_keyed same keys, Option.some.inj found]

/-- The keys of a table of groups cut the records that were keyed. -/
theorem groups_keyed (same : keyed.map (·.2) = records)
    (keys : ∀ p ∈ keyed, a.key p.2 = .ok p.1) : a.Groups records (group keyed).keys := by
  have ascending := (Table.grouped_ascending keyed).keys
  have taken (k : String) : k ∈ (group keyed).keys ↔ ∃ r ∈ records, a.key r = .ok k := by
    rw [mem_keys_group, valuesOf_keyed same keys, Ne, List.eq_nil_iff_forall_not_mem]
    simp only [members, List.mem_filter, decide_eq_true_eq, not_forall, not_not]
    refine exists_congr fun r => and_congr_right fun _ => ?_
    cases a.key r <;> simp [Except.toOption]
  refine ⟨ascending.imp octets_lt, taken, ?_⟩
  let has (k : String) (r : Json) : Bool := (a.key r).toOption = some k
  have apart : (group keyed).keys.Pairwise fun k k' => ∀ r, has k r → ¬ has k' r := by
    refine ascending.imp fun before r here there => String.ne_of_lt before ?_
    simp only [has, decide_eq_true_eq] at here there
    exact Option.some.inj (here.symm.trans there)
  have left : ∀ r ∈ records, false = !(group keyed).keys.any fun k => has k r := by
    intro r hr
    rw [← same] at hr
    obtain ⟨p, hp, rfl⟩ := List.mem_map.mp hr
    have found := keys p hp
    have listed := (taken p.1).mpr ⟨p.2, same ▸ hr, found⟩
    have covered : (group keyed).keys.any (fun k => has k p.2) = true :=
      List.any_eq_true.mpr ⟨p.1, listed, by simp [has, found, Except.toOption]⟩
    rw [covered, Bool.not_true]
  have parted := perm_parted has (fun _ => false) apart left
  rw [List.filter_false, List.append_nil] at parted
  exact parted.symm

end Aggregation

/-! ## What an aggregation comes to -/

namespace Operators

variable {ops : Operators} {stage : Name} {a : Aggregation}

/-- An aggregation that is registered and may run keys its records, reduces the groups, and counts
what it has read and made. -/
theorem aggregate_eq (registered : ops.aggregations.get? stage = some a)
    (allowed : ops.faults "aggregate" stage = none) (race : Race) (input : Dataset Json)
    (hint : Option Nat) :
    ops.aggregate race stage input hint = (do
      .note (.called (.aggregate stage input.extent hint))
      .note (.partitioned stage (atLeastOne (hint.getD ops.defaultPartitions)))
      let keyed ← .ofExcept
        (withKeys (race (.aggregate stage input.extent hint)) a.key input.items)
      emit stage input.size
        ((Aggregation.group keyed).map fun g => .plain (a.reduce g.1 g.2))) := by
  have permitted : ops.faults (Call.aggregate stage input.extent hint).tag
      (Call.aggregate stage input.extent hint).stage = none := allowed
  simp only [aggregate, invoke, permitted, lookup, registered]
  rfl

/-- Neither the partitions nor what is kept shows in what an aggregation comes to. -/
theorem aggregate_result (ops : Operators) (registered : ops.aggregations.get? stage = some a)
    (allowed : ops.faults "aggregate" stage = none) (race : Race) (input : Dataset Json)
    (hint : Option Nat) :
    (ops.aggregate race stage input hint).result =
      (withKeys (race (.aggregate stage input.extent hint)) a.key input.items).map fun keyed =>
        .of ((Aggregation.group keyed).map fun g => .plain (a.reduce g.1 g.2)) := by
  rw [aggregate_eq registered allowed]
  cases withKeys (race (.aggregate stage input.extent hint)) a.key input.items <;> rfl

/-- Every record without a key may be the one that is reported. -/
theorem aggregate_reports (registered : ops.aggregations.get? stage = some a)
    (allowed : ops.faults "aggregate" stage = none) (input : Dataset Json) (hint : Option Nat)
    {r : Json} (hr : r ∈ input.items) {e : Failure} (missing : a.key r = .error e) :
    ∃ race : Race, (ops.aggregate race stage input hint).result = .error e := by
  obtain ⟨pick, reported⟩ := exists_pick hr missing
  refine ⟨fun _ => pick, ?_⟩
  rw [aggregate_result ops registered allowed, reported]
  rfl

/-- **One output for each group.** If every record has a key, an aggregation emits the reduction of
each group, in the order of the keys' octets, on any number of partitions. A record without a key
fails it before anything is counted; if there are several, any of them may be reported. -/
theorem aggregate_groups (registered : ops.aggregations.get? stage = some a)
    (allowed : ops.faults "aggregate" stage = none) (input : Dataset Json) :
    ((∀ r ∈ input.items, ∃ k, a.key r = .ok k) →
      ∃ keys, a.Groups input.items keys ∧
        ∀ (partitions : Nat) (hint : Option Nat) (race : Race),
          ({ ops with defaultPartitions := partitions }.aggregate race stage input hint).result =
            .ok (.of (keys.map fun k => .output none (a.reduce k (a.members input.items k))))) ∧
    ((∃ r ∈ input.items, ∃ e, a.key r = .error e) → ∀ (hint : Option Nat) (race : Race),
      (∃ r ∈ input.items, ∃ e, a.key r = .error e ∧
        (ops.aggregate race stage input hint).result = .error e) ∧
      ∀ l : Ledger, (l.postAll (ops.aggregate race stage input hint).events).collectors =
        l.collectors) := by
  constructor
  · intro defined
    have paired := withKeys_of_no_failure (failures_eq_nil.mpr defined)
    obtain ⟨same, keys⟩ := withKeys_ok (paired 0)
    refine ⟨_, Aggregation.groups_keyed same keys, fun partitions hint race => ?_⟩
    rw [aggregate_result { ops with defaultPartitions := partitions } registered allowed,
      paired, Except.map,
      Aggregation.map_group same keys fun k members => Tagged.plain (a.reduce k members)]
    rfl
  · rintro ⟨r, hr, e, missing⟩ hint race
    cases paired : withKeys (race (.aggregate stage input.extent hint)) a.key input.items with
    | ok keyed =>
      obtain ⟨k, found⟩ := failures_eq_nil.mp (failures_of_withKeys paired) r hr
      cases found.symm.trans missing
    | error e' =>
      obtain ⟨r', hr', missing'⟩ := withKeys_error paired
      constructor
      · refine ⟨r', hr', e', missing', ?_⟩
        rw [aggregate_result ops registered allowed, paired]
        rfl
      · intro l
        rw [aggregate_eq registered allowed, paired]
        rfl

/-- Counts of records by their field `k`, for a stage `s`. -/
def counting : Operators := { empty with aggregations := [("s", .countBy "k")] }

/-- Records of two keys, the greater one first. -/
def mixedRecords : List Json :=
  [.ofMembers [("k", .string "b")], .ofMembers [("k", .string "a")],
    .ofMembers [("k", .string "b")]]

theorem aggregate_groups_counting :
    (∃ keys, (Aggregation.countBy "k").Groups mixedRecords keys ∧
      (counting.aggregate (fun _ => 0) "s" (.of mixedRecords) (some 0)).result =
        .ok (.of (keys.map fun k => .output none ((Aggregation.countBy "k").reduce k
          ((Aggregation.countBy "k").members mixedRecords k))))) ∧
    ∃ r ∈ mixedRecords ++ [.null], ∃ e, (Aggregation.countBy "k").key r = .error e ∧
      (counting.aggregate (fun _ => 0) "s" (.of (mixedRecords ++ [.null])) none).result =
        .error e := by
  have registered : counting.aggregations.get? "s" = some (.countBy "k") := rfl
  have allowed : counting.faults "aggregate" "s" = none := rfl
  constructor
  · have defined : ∀ r ∈ (Dataset.of mixedRecords).items,
        ∃ k, (Aggregation.countBy "k").key r = .ok k := by
      intro r hr
      simp only [Dataset.of, mixedRecords, List.mem_cons, List.not_mem_nil, or_false] at hr
      rcases hr with rfl | rfl | rfl
      · exact ⟨"b", rfl⟩
      · exact ⟨"a", rfl⟩
      · exact ⟨"b", rfl⟩
    obtain ⟨keys, groups, each⟩ := (aggregate_groups registered allowed _).1 defined
    exact ⟨keys, groups, each 1 (some 0) fun _ => 0⟩
  · refine ((aggregate_groups registered allowed (.of (mixedRecords ++ [.null]))).2 ?_ none _).1
    exact ⟨.null, by simp [Dataset.of], _, rfl⟩

end Operators

end Stageflow
