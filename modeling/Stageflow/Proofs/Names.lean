import Mathlib.Data.List.Induction
import Mathlib.Data.List.Permutation
import Mathlib.Data.List.Sort
import Stageflow.Table

/-!
# Lists of names

Sorted lists of names depend on nothing but their elements, and the distinct elements of a list keep
the order in which they first appear. Tables made of distinct names hold each pair that they were
made of, whatever order the pairs stood in; groups hold all values of a name in theirs. Lists of
distinct names are taken apart at each of them, and lists of anything into parts that do not
overlap.
-/

namespace Stageflow

theorem mem_distinct {α : Type} [DecidableEq α] {a : α} {xs : List α} :
    a ∈ distinct xs ↔ a ∈ xs := by
  have run : ∀ (xs seen : List α),
      a ∈ xs.foldl (fun seen x => if x ∈ seen then seen else seen ++ [x]) seen ↔
        a ∈ seen ∨ a ∈ xs := by
    intro xs
    induction xs with
    | nil => simp
    | cons x xs ih =>
      intro seen
      rw [List.foldl_cons, ih]
      split <;> grind
  simpa [distinct] using run xs []

theorem distinct_eq_nil {α : Type} [DecidableEq α] {xs : List α} : distinct xs = [] ↔ xs = [] := by
  simp only [List.eq_nil_iff_forall_not_mem, mem_distinct]

theorem distinct_concat {α : Type} [DecidableEq α] (xs : List α) (x : α) :
    distinct (xs ++ [x]) = if x ∈ distinct xs then distinct xs else distinct xs ++ [x] := by
  rw [distinct, List.foldl_concat]
  rfl

/-- Distinct elements stand in the order in which they first appear. -/
theorem distinct_ordered {α : Type} [DecidableEq α] (xs : List α) :
    (distinct xs).Pairwise fun a b => xs.idxOf a < xs.idxOf b := by
  induction xs using List.reverseRecOn with
  | nil => exact .nil
  | append_singleton xs x ih =>
    have within : (distinct xs).Pairwise fun a b => (xs ++ [x]).idxOf a < (xs ++ [x]).idxOf b := by
      refine ih.imp_of_mem fun ha hb before => ?_
      rwa [List.idxOf_append_of_mem (mem_distinct.mp ha),
        List.idxOf_append_of_mem (mem_distinct.mp hb)]
    rw [distinct_concat]
    by_cases known : x ∈ distinct xs
    · rwa [if_pos known]
    · rw [if_neg known, List.pairwise_append]
      refine ⟨within, List.pairwise_singleton _ x, ?_⟩
      intro a ha b hb
      obtain rfl := List.mem_singleton.mp hb
      have earlier := List.idxOf_lt_length_of_mem (mem_distinct.mp ha)
      rw [List.idxOf_append_of_mem (mem_distinct.mp ha),
        List.idxOf_append_of_notMem (mem_distinct.not.mp known)]
      omega

theorem distinct_nodup {α : Type} [DecidableEq α] (xs : List α) : (distinct xs).Nodup := by
  apply (distinct_ordered xs).imp
  rintro a _ before rfl
  exact Nat.lt_irrefl _ before

theorem flatMap_filterMap {α β γ : Type} (f : α → Option β) (g : β → List γ) (as : List α) :
    (as.filterMap f).flatMap g = as.flatMap fun a => (f a).elim [] g := by
  induction as with
  | nil => rfl
  | cons a as ih => cases made : f a <;> simp [made, ih]

/-- Of elements with different images, one stands among others of other images. -/
theorem exists_split_of_nodup {α β : Type} {f : α → β} {as : List α} {a : α}
    (different : (as.map f).Nodup) (ha : a ∈ as) :
    ∃ before after, as = before ++ a :: after ∧ ∀ x ∈ before ++ after, f x ≠ f a := by
  obtain ⟨before, after, rfl⟩ := List.append_of_mem ha
  refine ⟨before, after, rfl, fun x hx same => ?_⟩
  rw [List.map_append, List.map_cons, List.nodup_middle, List.nodup_cons,
    ← List.map_append] at different
  exact different.1 (List.mem_map.mpr ⟨x, hx, same⟩)

section Parts

variable {α κ : Type} {xs : List α}

/-- A part is the same with or without the elements of another one. -/
theorem filter_of_apart {q r : α → Bool} (apart : ∀ x ∈ xs, q x → ¬ r x) :
    (xs.filter fun x => !q x).filter r = xs.filter r := by
  rw [List.filter_filter]
  apply List.filter_congr
  intro x hx
  cases taken : q x with
  | true => simp [apart x hx taken]
  | false => simp

/-- Parts of a list that do not overlap, and what is in none of them, make up the list. -/
theorem perm_parted (accepts : κ → α → Bool) (rest : α → Bool) {ks : List κ}
    (apart : ks.Pairwise fun k l => ∀ x, accepts k x → ¬ accepts l x)
    (left : ∀ x ∈ xs, rest x = !ks.any fun k => accepts k x) :
    xs.Perm ((ks.flatMap fun k => xs.filter (accepts k)) ++ xs.filter rest) := by
  induction ks generalizing xs with
  | nil =>
    have all : xs.filter rest = xs := List.filter_eq_self.mpr fun x hx => by rw [left x hx]; rfl
    rw [all]
    exact .refl xs
  | cons k ks ih =>
    obtain ⟨others, apart⟩ := List.pairwise_cons.mp apart
    let ys := xs.filter fun x => !accepts k x
    have parts : ys.Perm ((ks.flatMap fun l => ys.filter (accepts l)) ++ ys.filter rest) := by
      apply ih apart
      intro x hx
      obtain ⟨listed, refused⟩ := List.mem_filter.mp hx
      rw [Bool.not_eq_true'] at refused
      rw [left x listed, List.any_cons, refused, Bool.false_or]
    have same (l : κ) (hl : l ∈ ks) : ys.filter (accepts l) = xs.filter (accepts l) :=
      filter_of_apart fun x _ => others l hl x
    have same_rest : ys.filter rest = xs.filter rest := by
      apply filter_of_apart
      intro x hx taken
      rw [left x hx, List.any_cons, taken]
      simp
    rw [List.flatMap_congr same, same_rest] at parts
    rw [List.flatMap_cons, List.append_assoc]
    exact (List.filter_append_perm (accepts k) xs).symm.trans (parts.append_left _)

end Parts

namespace Names

theorem insert_ascending {k : Name} {ns : List Name} (h : ns.Pairwise (· < ·)) :
    (insert k ns).Pairwise (· < ·) := by
  induction ns with
  | nil => simp [insert]
  | cons n ns ih =>
    obtain ⟨below, rest⟩ := List.pairwise_cons.mp h
    unfold insert
    split
    · next before =>
      refine List.pairwise_cons.mpr ⟨fun a ha => ?_, h⟩
      rcases List.mem_cons.mp ha with rfl | ha
      · exact before
      · exact String.lt_trans before (below a ha)
    · next behind =>
      split
      · exact h
      · next other =>
        refine List.pairwise_cons.mpr ⟨fun a ha => ?_, ih rest⟩
        rcases mem_insert.mp ha with rfl | ha
        · exact Std.lt_of_le_of_ne (String.not_lt.mp behind) (Ne.symm other)
        · exact below a ha

theorem sorted_ascending (ns : List Name) : (sorted ns).Pairwise (· < ·) := by
  induction ns with
  | nil => exact .nil
  | cons n ns ih => exact insert_ascending ih

theorem sorted_nodup (ns : List Name) : (sorted ns).Nodup :=
  (sorted_ascending ns).imp fun h => String.ne_of_lt h

theorem sorted_congr {ns ms : List Name} (h : ∀ a, a ∈ ns ↔ a ∈ ms) : sorted ns = sorted ms :=
  (sorted_ascending ns).eq_of_mem_iff (sorted_ascending ms) fun {a} => by
    rw [mem_sorted, mem_sorted, h]

end Names

namespace Table

variable {α : Type} {t : Table α} {k : Name} {v : α}

@[simp] theorem get?_nil (k : Name) : get? ([] : Table α) k = none := rfl

theorem get?_cons (p : Name × α) (t : Table α) (k : Name) :
    get? (p :: t) k = if p.1 = k then some p.2 else get? t k := by
  by_cases same : p.1 = k <;> simp [get?, same]

theorem get?_mapValues {β : Type} (f : α → β) (t : Table α) (k : Name) :
    (t.mapValues f).get? k = (t.get? k).map f := by
  simp [get?, mapValues, List.find?_map, Function.comp_def]

theorem get?_map_of_mem {ns : List Name} (f : Name → α) (h : k ∈ ns) :
    get? (ns.map fun n => (n, f n)) k = some (f k) := by
  induction ns with
  | nil => cases h
  | cons n ns ih =>
    rw [List.map_cons, get?_cons]
    by_cases here : n = k
    · rw [if_pos here, here]
    · rw [if_neg here]
      exact ih ((List.mem_cons.mp h).resolve_left (Ne.symm here))

theorem mem_of_get? (h : t.get? k = some v) : (k, v) ∈ t := by
  obtain ⟨p, found, rfl⟩ := Option.map_eq_some_iff.mp h
  have same : p.1 = k := by simpa using List.find?_some found
  exact same ▸ List.mem_of_find?_eq_some found

theorem mem_values_of_get? (h : t.get? k = some v) : v ∈ t.values :=
  List.mem_map.mpr ⟨(k, v), mem_of_get? h, rfl⟩

theorem get?_eq_some_of_mem_keys (h : k ∈ t.keys) : ∃ v, t.get? k = some v := by
  obtain ⟨p, hp, same⟩ := List.mem_map.mp h
  have found : (t.find? (·.1 = k)).isSome := List.find?_isSome.mpr ⟨p, hp, by simpa using same⟩
  obtain ⟨q, hq⟩ := Option.isSome_iff_exists.mp found
  exact ⟨q.2, by rw [get?, hq, Option.map_some]⟩

theorem get?_insert (t : Table α) (k n : Name) (v : α) :
    (t.insert k v).get? n = if k = n then some v else t.get? n := by
  induction t with
  | nil => simp [insert, get?_cons]
  | cons p t ih =>
    unfold insert
    split
    · rw [get?_cons]
    · split
      · next same => rw [get?_cons, get?_cons, same]; split <;> rfl
      · next other =>
        rw [get?_cons, get?_cons, ih]
        split
        · next here => rw [if_neg (here ▸ other)]
        · rfl

theorem get?_update (t : Table α) (k n : Name) (f : Option α → α) :
    (t.update k f).get? n = if k = n then some (f (t.get? k)) else t.get? n :=
  get?_insert t k n _

/-- The values of a name among some pairs, in their order. -/
def valuesOf (ps : List (Name × α)) (k : Name) : List α := (ps.filter (·.1 = k)).map (·.2)

theorem valuesOf_cons (p : Name × α) (ps : List (Name × α)) (k : Name) :
    valuesOf (p :: ps) k = if p.1 = k then p.2 :: valuesOf ps k else valuesOf ps k := by
  by_cases here : p.1 = k <;> simp [valuesOf, here]

theorem valuesOf_concat (ps : List (Name × α)) (p : Name × α) (k : Name) :
    valuesOf (ps ++ [p]) k = if p.1 = k then valuesOf ps k ++ [p.2] else valuesOf ps k := by
  by_cases here : p.1 = k <;> simp [valuesOf, here]

/-- Groups hold the values of their names, and no group is empty. -/
theorem get?_grouped (ps : List (Name × α)) (k : Name) :
    (grouped ps).get? k = if valuesOf ps k = [] then none else some (valuesOf ps k) := by
  -- The fold puts its last pair in last, so the list is taken apart at its end.
  induction ps using List.reverseRecOn with
  | nil => rfl
  | append_singleton ps p ih =>
    have step : grouped (ps ++ [p]) = (grouped ps).update p.1 fun old => old.getD [] ++ [p.2] := by
      simp [grouped]
    rw [step, get?_update, valuesOf_concat]
    by_cases here : p.1 = k
    · subst here
      rw [if_pos rfl, if_pos rfl, ih]
      by_cases fresh : valuesOf ps p.1 = [] <;> simp [fresh]
    · rw [if_neg here, if_neg here, ih]

theorem grouped_ascending (ps : List (Name × α)) : (grouped ps).Ascending := by
  induction ps using List.reverseRecOn with
  | nil => exact .nil
  | append_singleton ps p ih =>
    rw [grouped, List.foldl_concat]
    exact insert_ascending _ _ ih

theorem Ascending.get?_of_mem (h : t.Ascending) (there : (k, v) ∈ t) : t.get? k = some v := by
  induction t with
  | nil => cases there
  | cons p t ih =>
    obtain ⟨below, rest⟩ := List.pairwise_cons.mp h
    rw [get?_cons]
    rcases List.mem_cons.mp there with rfl | later
    · rw [if_pos rfl]
    · rw [if_neg (String.ne_of_lt (below _ later)), ih rest later]

theorem Ascending.keys (h : t.Ascending) : t.keys.Pairwise (· < ·) := List.pairwise_map.mpr h

theorem Ascending.mapValues {β : Type} (h : t.Ascending) (f : α → β) :
    (t.mapValues f).Ascending :=
  List.pairwise_map.mpr h

/-- Entries for different names may be made in either order. -/
theorem insert_comm {k n : Name} {v u : α} (other : k ≠ n) :
    (t.insert k v).insert n u = (t.insert n u).insert k v := by
  induction t with
  | nil => grind [insert]
  | cons p t ih =>
    have ordered : k < n ∨ n < k := by grind
    by_cases before : k < p.1
    · grind [insert]
    · by_cases here : k = p.1 <;> grind [insert]

/-- A table of pairs with distinct names holds each of them. -/
theorem get?_ofList {ps : List (Name × α)} (distinct : (ps.map (·.1)).Nodup) :
    (ofList ps).get? k = some v ↔ (k, v) ∈ ps := by
  have run (t : Table α) (fresh : ∀ p ∈ ps, t.get? p.1 = none) :
      (ps.foldl (fun t p => t.insert p.1 p.2) t).get? k = some v ↔
        (k, v) ∈ ps ∨ t.get? k = some v := by
    induction ps generalizing t with
    | nil => simp
    | cons p ps ih =>
      obtain ⟨first, rest⟩ := List.nodup_cons.mp distinct
      have here := fresh p List.mem_cons_self
      rw [List.foldl_cons, ih rest]
      · rw [get?_insert, List.mem_cons, Prod.ext_iff]
        grind
      · intro q hq
        have other : p.1 ≠ q.1 := fun same => first (List.mem_map.mpr ⟨q, hq, same.symm⟩)
        rw [get?_insert, if_neg other]
        exact fresh q (List.mem_cons_of_mem _ hq)
  simpa [ofList] using run [] (fun _ _ => rfl)

theorem ofList_ascending (ps : List (Name × α)) : (ofList ps).Ascending := by
  have run (t : Table α) (h : t.Ascending) :
      (ps.foldl (fun t p => t.insert p.1 p.2) t).Ascending := by
    induction ps generalizing t with
    | nil => exact h
    | cons p ps ih => exact ih _ (insert_ascending p.1 p.2 h)
  exact run [] .nil

/-- A name after all others is put at the end. -/
theorem insert_last {t : Table α} {k : Name} (v : α) (h : ∀ p ∈ t, p.1 < k) :
    t.insert k v = t ++ [(k, v)] := by
  induction t with
  | nil => rfl
  | cons p t ih =>
    obtain ⟨below, rest⟩ := List.forall_mem_cons.mp h
    rw [insert, if_neg (String.lt_asymm below), if_neg (String.ne_of_lt below).symm, ih rest,
      List.cons_append]

/-- A table is made of its own entries. -/
theorem Ascending.ofList_eq {t : Table α} (h : t.Ascending) : ofList t = t := by
  induction t using List.reverseRecOn with
  | nil => rfl
  | append_singleton t p ih =>
    obtain ⟨front, -, before⟩ := List.pairwise_append.mp h
    rw [ofList, List.foldl_concat, ← ofList, ih front]
    exact insert_last p.2 fun q hq => before q hq p List.mem_cons_self

/-- A table of pairs with distinct names holds them, and no others. -/
theorem ofList_perm_pairs {ps : List (Name × α)} (distinct : (ps.map (·.1)).Nodup) :
    (ofList ps).Perm ps := by
  have ascending := ofList_ascending ps
  have once : (ofList ps).Nodup :=
    ascending.imp fun before same => String.ne_of_lt before (congrArg Prod.fst same)
  apply (List.perm_ext_iff_of_nodup once (List.Nodup.of_map _ distinct)).mpr
  intro p
  constructor
  · intro there
    exact (get?_ofList distinct).mp (ascending.get?_of_mem there)
  · intro there
    exact mem_of_get? ((get?_ofList distinct).mpr there)

theorem mem_keys_ofList {ps : List (Name × α)} (distinct : (ps.map (·.1)).Nodup) :
    k ∈ (ofList ps).keys ↔ k ∈ ps.map (·.1) := by
  constructor
  · intro h
    obtain ⟨v, found⟩ := get?_eq_some_of_mem_keys h
    exact List.mem_map_of_mem ((get?_ofList distinct).mp found)
  · intro h
    obtain ⟨p, hp, rfl⟩ := List.mem_map.mp h
    exact List.mem_map_of_mem (mem_of_get? ((get?_ofList distinct).mpr hp))

/-- A table of pairs with distinct names does not show their order. -/
theorem ofList_perm {ps qs : List (Name × α)} (distinct : (ps.map (·.1)).Nodup)
    (h : ps.Perm qs) : ofList ps = ofList qs := by
  apply h.foldl_eq'
  intro p hp q hq t
  by_cases same : p.1 = q.1
  · rw [List.inj_on_of_nodup_map distinct hp hq same]
  · exact insert_comm same

/-- Pairs are permuted if the values of each name are. -/
theorem perm_of_valuesOf {ps qs : List (Name × α)}
    (h : ∀ k, (valuesOf ps k).Perm (valuesOf qs k)) : ps.Perm qs := by
  classical
  have counted (ps : List (Name × α)) (k : Name) (v : α) :
      ps.count (k, v) = (valuesOf ps k).count v := by
    induction ps with
    | nil => rfl
    | cons p ps ih =>
      rw [valuesOf_cons, List.count_cons, ih]
      by_cases here : p.1 = k
      · rw [if_pos here, List.count_cons]
        simp [here, Prod.ext_iff]
      · rw [if_neg here]
        simp [here, Prod.ext_iff]
  rw [List.perm_iff_count]
  rintro ⟨k, v⟩
  rw [counted, counted]
  exact (h k).count_eq v

end Table

end Stageflow
