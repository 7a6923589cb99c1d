import Stageflow.Journal
import Stageflow.Proofs.Names

/-!
# Ledgers

What events leave in a ledger, by the stages that they are about:

* `Ledger.post_comm`: two events about different stages may change places;
* `Ledger.postAll_congr`: only the order of the events about one stage shows;
* `Ledger.get?_written_postAll`: the records of a stage grow by those that are written to it.
-/

namespace Stageflow

/-- The stage that an event is about. -/
def Event.stage : Event → Name
  | .called c => c.stage
  | .counted stage _ _ | .partitioned stage _ | .split stage _ | .published stage _
  | .wrote stage _ | .collected stage _ => stage

/-- The lists of records that are written to a stage, in the order of the writes. -/
def writesTo (stage : Name) (es : List Event) : List (List Json) :=
  es.filterMap fun
    | .wrote s records => if s = stage then some records else none
    | _ => none

section WritesTo

variable {n : Name} {es es' : List Event}

theorem writesTo_append : writesTo n (es ++ es') = writesTo n es ++ writesTo n es' :=
  List.filterMap_append

theorem writesTo_eq_nil (unwritten : ∀ records, .wrote n records ∉ es) : writesTo n es = [] := by
  refine List.filterMap_eq_nil_iff.mpr fun e he => ?_
  cases e with
  | wrote s records =>
    have other : s ≠ n := by
      rintro rfl
      exact unwritten records he
    exact if_neg other
  | _ => rfl

/-- Only the events about a stage write to it. -/
theorem writesTo_filter : writesTo n (es.filter (·.stage = n)) = writesTo n es := by
  rw [writesTo, List.filterMap_filter]
  refine List.filterMap_congr fun e _ => ?_
  cases e with
  | wrote s records => by_cases here : s = n <;> simp [Event.stage, here]
  | _ => simp

end WritesTo

theorem Collectors.add_comm {cs : Collectors} {s s' : Name} {c c' : Counter} {n n' : Nat}
    (other : s ≠ s') : (cs.add s c n).add s' c' n' = (cs.add s' c' n').add s c n := by
  cases here : cs.get? s <;> cases there : cs.get? s' <;>
    simp [add, here, there, Table.get?_insert, other, other.symm, Table.insert_comm other]

namespace Store

variable {α : Type} {t : Table (List α)} {s n : Name} {xs ys : List α}

theorem get?_append :
    (append t s xs).get? n = if s = n then some ((t.get? n).getD [] ++ xs) else t.get? n := by
  rw [append, Table.update, Table.get?_insert]
  split
  · next same => rw [same]
  · rfl

theorem append_comm (other : s ≠ n) :
    append (append t s xs) n ys = append (append t n ys) s xs := by
  simp [append, Table.update, Table.get?_insert, other, other.symm, Table.insert_comm other]

end Store

namespace Ledger

variable {l : Ledger} {e e' : Event} {es es' : List Event} {n : Name}

theorem postAll_append : l.postAll (es ++ es') = (l.postAll es).postAll es' := List.foldl_append

theorem postAll_cons : l.postAll (e :: es) = (l.post e).postAll es := rfl

/-- Events about different stages may change places. -/
theorem post_comm (other : e.stage ≠ e'.stage) : (l.post e).post e' = (l.post e').post e := by
  -- Events of different kinds change different parts of a ledger.
  cases e <;> cases e' <;> try rfl
  all_goals simp only [post, Event.stage] at other ⊢
  case counted.counted => rw [Collectors.add_comm other]
  case partitioned.partitioned => rw [Table.insert_comm other]
  case split.split => rw [Table.insert_comm other]
  case published.published => rw [Store.publish, Store.publish, Store.append_comm other]; rfl
  case wrote.wrote => rw [Store.write, Store.write, Store.append_comm other]; rfl
  case collected.collected => rw [Store.append_comm other]

theorem postAll_move (others : ∀ x ∈ es, x.stage ≠ e.stage) :
    l.postAll (es ++ e :: es') = l.postAll (e :: (es ++ es')) := by
  induction es generalizing l with
  | nil => rfl
  | cons x es ih =>
    obtain ⟨first, rest⟩ := List.forall_mem_cons.mp others
    rw [List.cons_append, postAll_cons, ih rest, postAll_cons, post_comm first]
    rfl

/-- Only the order of the events about one stage shows. -/
theorem postAll_congr (same : ∀ n, es.filter (·.stage = n) = es'.filter (·.stage = n)) :
    l.postAll es = l.postAll es' := by
  induction es generalizing l es' with
  | nil =>
    have empty : es' = [] := by
      refine List.eq_nil_iff_forall_not_mem.mpr fun e he => ?_
      have listed : e ∈ es'.filter (·.stage = e.stage) := List.mem_filter.mpr ⟨he, by simp⟩
      rw [← same] at listed
      exact List.not_mem_nil listed
    rw [empty]
  | cons e es ih =>
    -- In the other list the first event about this stage is the same. It is moved to the front
    -- there, and what is left of both lists agrees again.
    have about := same e.stage
    rw [List.filter_cons_of_pos (by simp)] at about
    obtain ⟨before, after, rfl, others, -, rest⟩ := List.filter_eq_cons_iff.mp about.symm
    have unlike : ∀ x ∈ before, x.stage ≠ e.stage := by simpa using others
    rw [postAll_move unlike, postAll_cons, postAll_cons]
    refine ih fun n => ?_
    by_cases here : e.stage = n
    · subst here
      rw [List.filter_append, List.filter_eq_nil_iff.mpr others, List.nil_append, rest]
    · have both := same n
      simpa [here] using both

theorem get?_written_post :
    (l.post e).store.written.get? n =
      if writesTo n [e] = [] then l.store.written.get? n
      else some (l.store.recordsOf n ++ (writesTo n [e]).flatten) := by
  cases e with
  | wrote s records =>
    by_cases here : s = n <;>
      simp [post, Store.write, Store.get?_append, writesTo, here, Store.recordsOf]
  | _ => rfl

/-- What a stage has written grows by what is written to it; otherwise it stays as it is. -/
theorem get?_written_postAll :
    (l.postAll es).store.written.get? n =
      if writesTo n es = [] then l.store.written.get? n
      else some (l.store.recordsOf n ++ (writesTo n es).flatten) := by
  induction es generalizing l with
  | nil => rfl
  | cons e es ih =>
    have split : writesTo n (e :: es) = writesTo n [e] ++ writesTo n es := by
      rw [← writesTo_append, List.singleton_append]
    have records : (l.post e).store.recordsOf n =
        l.store.recordsOf n ++ (writesTo n [e]).flatten := by
      rw [Store.recordsOf, get?_written_post]
      by_cases none : writesTo n [e] = []
      · rw [if_pos none, none, List.flatten_nil, List.append_nil, Store.recordsOf]
      · rw [if_neg none, Option.getD_some]
    rw [postAll_cons, ih, records, get?_written_post, split, List.flatten_append,
      List.append_assoc]
    by_cases first : writesTo n [e] = [] <;> by_cases later : writesTo n es = [] <;>
      simp [first, later]

theorem recordsOf_postAll :
    (l.postAll es).store.recordsOf n = l.store.recordsOf n ++ (writesTo n es).flatten := by
  rw [Store.recordsOf, get?_written_postAll]
  split
  · next unwritten => rw [unwritten, List.flatten_nil, List.append_nil, Store.recordsOf]
  · rfl

end Ledger

end Stageflow
