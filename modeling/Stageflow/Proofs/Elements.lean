import Stageflow.Proofs.Readers
import Stageflow.Record.Json

/-!
# Elements of joined rows

Records are compared by their text, which tells a record without floating point numbers. So the
elements of rows are in a total order in which an absent record is no record, not even `null`. In
JSON the two are written alike:

* `JoinElement.compare_total`: the order, and that elements are equal in it only if they are one;
* `JoinElement.element_read_back`: an element is read back as it was written, but for a `null`.
-/

namespace Stageflow

namespace JoinElement

variable {a b c e : JoinElement}

/-- Every number in the record of an element is a whole one that 64 bits hold. -/
def Exact (e : JoinElement) : Prop := ∀ r ∈ e.record, r.Exact

/-! ## Order -/

/-- Elements are ordered by their stage, then by the text of their record. -/
theorem compare_eq_compareLex (a b : JoinElement) :
    a.compare b = compareLex (compareOn JoinElement.stage)
      (compareOn fun e : JoinElement => e.record.map Json.text) a b := by
  obtain ⟨s, r⟩ := a
  obtain ⟨s', r'⟩ := b
  cases r <;> cases r' <;> rfl

instance : Std.TransCmp JoinElement.compare where
  eq_swap := by
    intro a b
    rw [compare_eq_compareLex, compare_eq_compareLex]
    exact Std.OrientedCmp.eq_swap
  isLE_trans := by
    intro a b c first second
    rw [compare_eq_compareLex] at *
    exact Std.TransCmp.isLE_trans first second

theorem compareText_eq_iff {s t : String} : compareText s t = .eq ↔ s = t := by
  change Ord.compare s t = .eq ↔ s = t
  exact Std.LawfulEqOrd.compare_eq_iff_eq

/-- Records are equal in the order only if they are one record. -/
theorem compareRecord_eq_iff {r r' : Option Json} (hr : ∀ v ∈ r, v.Exact)
    (hr' : ∀ v ∈ r', v.Exact) : compareRecord r r' = .eq ↔ r = r' := by
  cases r with
  | none =>
    cases r' with
    | none => exact iff_of_true rfl rfl
    | some v' => exact iff_of_false nofun nofun
  | some v =>
    cases r' with
    | none => exact iff_of_false nofun nofun
    | some v' =>
      rw [compareRecord, compareText_eq_iff, Option.some_inj]
      exact ⟨Document.eq_of_text (hr v rfl) (hr' v' rfl), congrArg Json.text⟩

theorem compare_eq_iff (ha : a.Exact) (hb : b.Exact) : a.compare b = .eq ↔ a = b := by
  rw [JoinElement.compare, Ordering.then_eq_eq, compareText_eq_iff, compareRecord_eq_iff ha hb]
  obtain ⟨s, r⟩ := a
  obtain ⟨s', r'⟩ := b
  rw [mk.injEq]

/-- An absent record comes before every record of its stage, whatever that holds. -/
theorem compare_absent_present (stage : Name) (r : Json) :
    (absent stage).compare (present stage r) = .lt := by
  have same : compareText stage stage = .eq := compareText_eq_iff.mpr rfl
  rw [JoinElement.compare, absent, present, same]
  rfl

theorem same_absent_present (stage stage' : Name) (r : Json) :
    (absent stage).same (present stage' r) = false := by
  rw [JoinElement.same, JoinElement.compare, absent, present, compareRecord]
  cases compareText stage stage' <;> rfl

/-- **Elements are in total order.** Records without floating point numbers are equal in it only if
they are one value, and so are elements. An absent record comes before every record of its stage,
and it is never taken for a record that is there, not even for `null`. -/
theorem compare_total {r r' : Json} (hr : r.Exact) (hr' : r'.Exact) (ha : a.Exact) (hb : b.Exact)
    (c : JoinElement) :
    (compareRecord (some r) (some r') = .eq ↔ r = r') ∧
    (a.compare b = .eq ↔ a = b) ∧
    a.compare b = (b.compare a).swap ∧
    ((a.compare b).isLE ∨ (b.compare a).isLE) ∧
    ((a.compare b).isLE → (b.compare a).isLE → a = b) ∧
    ((a.compare b).isLE → (b.compare c).isLE → (a.compare c).isLE) ∧
    (∀ stage v, (absent stage).compare (present stage v) = .lt) ∧
    ∀ stage stage' v, (absent stage).same (present stage' v) = false := by
  have swapped : a.compare b = (b.compare a).swap := Std.OrientedCmp.eq_swap
  refine ⟨?_, compare_eq_iff ha hb, swapped, ?_, ?_, ?_, compare_absent_present,
    same_absent_present⟩
  · rw [compareRecord_eq_iff (by simpa using hr) (by simpa using hr'), Option.some_inj]
  · rw [swapped]
    cases b.compare a <;> simp
  · intro before behind
    exact (compare_eq_iff ha hb).mp (Std.OrientedCmp.isLE_antisymm before behind)
  · exact Std.TransCmp.isLE_trans (b := b)

/-- A number and its digits are two records, and `null` is a record. -/
theorem compare_total_alike :
    compareRecord (some (.int 1)) (some (.string "1")) ≠ .eq ∧
      ((absent "x").compare (present "x" .null)).isLE ∧
      ¬ ((present "x" .null).compare (absent "x")).isLE := by
  have exactNumber : (Json.int 1).Exact := .int ⟨by decide, by decide⟩
  have exactAbsent : (absent "x").Exact := nofun
  have exactNull : (present "x" .null).Exact := by
    intro v hv
    obtain rfl := Option.some.inj hv
    exact .null
  obtain ⟨records, -, -, -, antisymm, -, before, -⟩ :=
    compare_total exactNumber (.string "1") exactAbsent exactNull (absent "y")
  have earlier : ((absent "x").compare (present "x" .null)).isLE := by
    rw [before]
    rfl
  refine ⟨?_, earlier, ?_⟩
  · rw [Ne, records]
    intro one
    cases one
  · intro later
    cases antisymm earlier later

/-! ## Elements in JSON -/

/-- The members of every object in the record of an element are in order. -/
def Ordered (e : JoinElement) : Prop := ∀ r ∈ e.record, r.Ordered

theorem toJson_exact (h : e.Exact) : e.toJson.Exact := by
  apply Json.Exact.object
  intro p hp
  rcases List.mem_pair.mp hp with rfl | rfl
  · exact .string e.stage
  · cases found : e.record with
    | none => exact .null
    | some r => exact h r found

/-- What is read as the record of an element: a value, but `null` is no record. -/
theorem readRecord_ofValue {r : Json} (ordered : r.Ordered) {levels : Nat}
    (shallow : r.depth ≤ levels) (some_value : r ≠ .null) :
    Decoder.option Decoder.value .text levels (.ofValue r) = .ok (some r) := by
  have read := Document.toValue_ofValue ordered levels shallow
  cases r with
  | null => exact absurd rfl some_value
  | _ => exact congrArg (Except.map some) read

/-- An element is read from text as soon as its record is. -/
theorem parse_toJson (exact : e.Exact) {r : Option Json}
    (read : Decoder.option Decoder.value .text 126 (.ofValue (e.record.getD .null)) = .ok r) :
    Decoder.parse decoder e.toJson.text = .ok ⟨e.stage, r⟩ := by
  have stage : Decoder.string .text 126 (.string (some e.stage)) = .ok e.stage := rfl
  rw [Decoder.parse_text decoder (toJson_exact exact), Json.maxDepth, toJson, Document.ofValue,
    decoder, Form.decoder, Document.ofMembers, Document.ofValue,
    Form.readMembers_field rfl (by simp) (Field.read_of stage), Document.ofMembers,
    Form.readMembers_field rfl (by simp) (Field.read_of read)]
  rfl

theorem depth_record {r : Json} (found : e.record = some r)
    (shallow : e.toJson.depth ≤ Json.maxDepth) : r.depth ≤ 126 := by
  have member : ("record", r) ∈ [("stage", .string e.stage), ("record", r)] :=
    List.mem_cons_of_mem _ (List.mem_singleton_self _)
  have inside : r.depth ≤ _ := Json.depth_le_depthOfMembers member
  rw [toJson, Json.depth, Json.maxDepth, found, Option.getD_some] at shallow
  omega

/-- **An element is read back as it was written, unless its record is `null`.** Such an element is
written like one without a record, and is read back as one without a record. -/
theorem element_read_back (exact : e.Exact) (ordered : e.Ordered)
    (shallow : e.toJson.depth ≤ Json.maxDepth) :
    (e.record ≠ some .null → Decoder.parse decoder e.toJson.text = .ok e) ∧
      (e.record = some .null → Decoder.parse decoder e.toJson.text = .ok (absent e.stage)) := by
  constructor
  · intro some_value
    apply parse_toJson exact
    cases found : e.record with
    | none => rfl
    | some r =>
      have other : r ≠ .null := fun null => some_value (null ▸ found)
      exact readRecord_ofValue (ordered r found) (depth_record found shallow) other
  · intro null
    apply parse_toJson exact
    rw [null]
    rfl

/-- An element of a stage with a quote in its name, and a record with a list in it. -/
def nestedElement : JoinElement :=
  present "\"x\"" (.object [("a", .array [.null, .int (-1)]), ("b", .string "")])

theorem element_read_back_nested :
    Decoder.parse decoder nestedElement.toJson.text = .ok nestedElement := by
  have minusOne : (Json.int (-1)).Exact := .int ⟨by decide, by decide⟩
  have exact : nestedElement.Exact := by
    intro r hr
    obtain rfl := Option.some.inj hr
    apply Json.Exact.object
    simp only [List.forall_mem_cons]
    exact ⟨.array (by simpa using ⟨.null, minusOne⟩), .string "", nofun⟩
  have ordered : nestedElement.Ordered := by
    intro r hr
    obtain rfl := Option.some.inj hr
    apply Json.Ordered.object
    · have before : "a" < "b" := by decide
      exact .cons (List.forall_mem_singleton.mpr before) (.cons nofun .nil)
    · simp only [List.forall_mem_cons]
      exact ⟨.array (by simpa using ⟨.null, .number _⟩), .string "", nofun⟩
  exact (element_read_back exact ordered (by decide)).1 (by rintro ⟨⟩)

/-- A record of `null` that was there is lost by writing and reading. -/
theorem present_null_read_absent :
    (present "a" .null).Exact ∧ (present "a" .null).toJson.depth ≤ Json.maxDepth ∧
      Decoder.parse decoder (present "a" .null).toJson.text = .ok (absent "a") ∧
      (present "a" .null).isAbsent = false ∧ (absent "a").isAbsent = true := by
  have exact : (present "a" .null).Exact := by
    intro r hr
    obtain rfl := Option.some.inj hr
    exact .null
  exact ⟨exact, by decide, parse_toJson exact rfl, rfl, rfl⟩

end JoinElement

end Stageflow
