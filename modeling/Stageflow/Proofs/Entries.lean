import Stageflow.Proofs.Contents

/-!
# Entries of a registry

What the registry at the end of a walk tells of its visits:

* `visits_sameFor`: for a stage, it is the registry that its visit has read;
* `schedule_content`: it holds what the visits have made of what they read in it;
* `visits_content`: so the entry of a stage is what its visit has made of what it has read.
-/

namespace Stageflow

theorem Registry.get?_append {r later : Registry} {n : Name} (listed : n ∈ r.stages) :
    get? (r ++ later) n = r.get? n := by
  have found : (r.find? (·.1 = n)).isSome := by
    obtain ⟨x, hx, same⟩ := List.mem_map.mp listed
    exact List.find?_isSome.mpr ⟨x, hx, by simpa using same⟩
  obtain ⟨x, hx⟩ := Option.isSome_iff_exists.mp found
  simp [get?, List.find?_append, hx]

open Journaled

namespace Walk

variable {w w' : Walk} {s : Stage} {r r' : Registry} {n : Name} {g : Graph} {out : Scheduled}

theorem visitAll_append (ns ms : List Name) (done : Scheduled) :
    w.visitAll (ns ++ ms) done = w.visitAll ns done >>= w.visitAll ms := by
  induction ns generalizing done with
  | nil => rfl
  | cons n ns ih =>
    rw [List.cons_append]
    cases found : w.phase.stage? n with
    | none => rw [visitAll_external found, visitAll_external found, ih]
    | some s =>
      rw [visitAll_stage found, visitAll_stage found, bind_assoc]
      congr 1
      funext v
      exact ih _

theorem visitAll_extends {ns : List Name} {done : Scheduled}
    (ran : (w.visitAll ns done).result = .ok out) :
    ∃ later, out.registry = done.registry ++ later := by
  induction ns generalizing done with
  | nil =>
    obtain rfl := Except.ok.inj ran
    exact ⟨[], (List.append_nil _).symm⟩
  | cons n ns ih =>
    cases found : w.phase.stage? n with
    | none =>
      rw [visitAll_external found] at ran
      exact ih ran
    | some s =>
      rw [visitAll_stage found] at ran
      obtain ⟨v, -, rest⟩ := bind_ok_iff.mp ran
      obtain ⟨later, same⟩ := ih rest
      exact ⟨(n, v.emitted) :: later, by simpa [Registry.record] using same⟩

/-- A visit has read of its producers what the registry holds of them at the end. -/
theorem visits_sameFor (accepted : w.phase.Accepted) (shape : w.phase.graph = some g)
    (ran : w.schedule.result = .ok out) (visited : (s, r) ∈ w.visits g.order []) :
    w.SameFor s r out.registry := by
  have reached := reaches_of_mem_visits shape visited
  obtain ⟨before, n, after, tasks, split, found, walked⟩ := split_of_mem_visits ⟨[], []⟩ visited
  -- The walk only adds to the registry after the visit, and the producers are in it by then.
  have whole := schedule_walked shape ran
  rw [split, visitAll_append, bind_of_ok _ walked] at whole
  obtain ⟨later, same⟩ := visitAll_extends whole
  intro m reads known
  have once := reached.count_producer accepted reads known
  have listed : m ∈ r.stages := List.count_pos_iff.mp (by omega)
  rw [same, Registry.get?_append listed]

theorem visits_stage? (accepted : w.phase.Accepted) (visited : (s, r) ∈ w.visits g.order []) :
    w.phase.stage? s.name = some s ∧ s.name ∈ g.order := by
  obtain ⟨before, n, after, tasks, split, found, -⟩ := split_of_mem_visits ⟨[], []⟩ visited
  rw [accepted.name_eq found]
  exact ⟨found, by simp [split]⟩

/-- The registry at the end holds what the visits have made of what they read in it. -/
theorem schedule_content (accepted : w.phase.Accepted) (shape : w.phase.graph = some g)
    (ran : w.schedule.result = .ok out) (listed : n ∈ g.order) (found : w.phase.stage? n = some s) :
    w.admits s out.registry = .ok () ∧ ∃ c, w.content? s out.registry = some c ∧
      out.registry.get? n = some (c.visited w.phase s).emitted ∧
      w.tasksOf out.registry n = (c.visited w.phase s).deferred.toList := by
  obtain ⟨v, visited, entry⟩ := (schedule_explained accepted shape ran).solves n listed s found
  obtain ⟨admitted, c, made, rfl⟩ := visit_ok visited
  exact ⟨admitted, c, made, entry, by simp [tasksOf, found, visited]⟩

/-- Names without a stage have no entry. -/
theorem schedule_external (accepted : w.phase.Accepted) (shape : w.phase.graph = some g)
    (ran : w.schedule.result = .ok out) (external : w.phase.stage? n = none) :
    out.registry.get? n = none := by
  rw [Registry.get?_eq_none, (schedule_explained accepted shape ran).stages, List.mem_filter]
  simp [external]

/-- The entry of a stage is what its visit has made of what it has read. -/
theorem visits_content (accepted : w.phase.Accepted) (shape : w.phase.graph = some g)
    (ran : w.schedule.result = .ok out) (visited : (s, r) ∈ w.visits g.order []) :
    w.admits s r = .ok () ∧ ∃ c, w.content? s r = some c ∧
      (w.visit s r).result = .ok (c.visited w.phase s) ∧
      out.registry.get? s.name = some (c.visited w.phase s).emitted := by
  obtain ⟨found, listed⟩ := visits_stage? accepted visited
  obtain ⟨v, again, entry⟩ := (schedule_explained accepted shape ran).solves s.name listed s found
  rw [← visit_congr (visits_sameFor accepted shape ran visited)] at again
  obtain ⟨admitted, c, made, rfl⟩ := visit_ok again
  exact ⟨admitted, c, made, again, entry⟩

theorem exists_visit (accepted : w.phase.Accepted) (shape : w.phase.graph = some g)
    (ran : w.schedule.result = .ok out) (listed : n ∈ g.order) (found : w.phase.stage? n = some s) :
    ∃ r, (s, r) ∈ w.visits g.order [] := by
  have entered : n ∈ (w.visits g.order []).map (·.1.name) := by
    rw [← schedule_stages accepted shape ran, (schedule_explained accepted shape ran).stages,
      List.mem_filter]
    exact ⟨listed, by simp [found]⟩
  obtain ⟨⟨t, r⟩, visited, rfl⟩ := List.mem_map.mp entered
  obtain rfl := Option.some.inj (found.symm.trans (visits_stage? accepted visited).1)
  exact ⟨r, visited⟩

end Walk

end Stageflow
