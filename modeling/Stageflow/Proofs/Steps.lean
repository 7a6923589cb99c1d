import Stageflow.Journal

/-!
# Steps of a run

The laws by which a step that is made of steps is taken apart: it succeeds if all of them do, and
what it leaves in the journal is what they leave.
-/

namespace Stageflow.Journaled

variable {ε α β : Type}

instance : LawfulMonad (Journaled ε) := by
  refine LawfulMonad.mk' (Journaled ε) ?_ (fun _ _ => rfl) ?_
  · intro α x
    obtain ⟨events, result⟩ := x
    cases result <;> simp [Functor.map]
  · intro α β γ x f g
    obtain ⟨events, result⟩ := x
    cases result with
    | error e => rfl
    | ok a =>
      simp only [bind]
      cases (f a).result <;> simp

@[simp] theorem result_pure (a : α) : (pure a : Journaled ε α).result = .ok a := rfl

@[simp] theorem result_note (e : Event) : (note e : Journaled ε Unit).result = .ok () := rfl

@[simp] theorem result_fail (e : ε) : (fail e : Journaled ε α).result = .error e := rfl

@[simp] theorem result_ofExcept (x : Except ε α) : (ofExcept x).result = x := rfl

theorem bind_of_ok {x : Journaled ε α} {a : α} (f : α → Journaled ε β) (h : x.result = .ok a) :
    x >>= f = ⟨x.events ++ (f a).events, (f a).result⟩ := by
  simp [bind, h]

theorem bind_of_error {x : Journaled ε α} {e : ε} (f : α → Journaled ε β)
    (h : x.result = .error e) : x >>= f = ⟨x.events, .error e⟩ := by
  simp [bind, h]

theorem bind_ok_iff {x : Journaled ε α} {f : α → Journaled ε β} {b : β} :
    (x >>= f).result = .ok b ↔ ∃ a, x.result = .ok a ∧ (f a).result = .ok b := by
  obtain ⟨events, result⟩ := x
  cases result <;> simp [bind]

theorem map_ok_iff {x : Journaled ε α} {f : α → β} {b : β} :
    (f <$> x).result = .ok b ↔ ∃ a, x.result = .ok a ∧ f a = b := by
  rw [map_eq_pure_bind, bind_ok_iff]
  simp

/-! ## What a step leaves in the journal -/

theorem events_bind_pure {x : Journaled ε α} {f : α → β} :
    (x >>= fun a => pure (f a)).events = x.events := by
  cases ran : x.result with
  | ok a =>
    rw [bind_of_ok _ ran]
    exact List.append_nil _
  | error e => rw [bind_of_error _ ran]

theorem events_map {x : Journaled ε α} {f : α → β} : (f <$> x).events = x.events := by
  rw [map_eq_pure_bind, events_bind_pure]

theorem events_blame {x : Journaled Failure α} {stage : Name} :
    (x.blame stage).events = x.events := rfl

/-- Every event of a step has a property. -/
def Leaves (P : Event → Prop) (x : Journaled ε α) : Prop := ∀ e ∈ x.events, P e

section Leaves

variable {P : Event → Prop}

theorem leaves_pure (a : α) : (pure a : Journaled ε α).Leaves P := fun _ he => nomatch he

theorem leaves_fail (e : ε) : (fail e : Journaled ε α).Leaves P := fun _ he => nomatch he

theorem leaves_ofExcept (x : Except ε α) : (ofExcept x).Leaves P := fun _ he => nomatch he

theorem leaves_note {e : Event} (h : P e) : (note e : Journaled ε Unit).Leaves P := by
  intro e' he
  obtain rfl := List.mem_singleton.mp he
  exact h

theorem Leaves.mono {Q : Event → Prop} {x : Journaled ε α} (h : x.Leaves P)
    (weaker : ∀ e, P e → Q e) : x.Leaves Q := fun e he => weaker e (h e he)

theorem Leaves.blame {x : Journaled Failure α} {stage : Name} (h : x.Leaves P) :
    (x.blame stage).Leaves P := h

theorem Leaves.bind {x : Journaled ε α} {f : α → Journaled ε β} (first : x.Leaves P)
    (next : ∀ a, (f a).Leaves P) : (x >>= f).Leaves P := by
  intro e he
  cases ran : x.result with
  | error failure =>
    rw [bind_of_error f ran] at he
    exact first e he
  | ok a =>
    rw [bind_of_ok f ran] at he
    rcases List.mem_append.mp he with before | after
    · exact first e before
    · exact next a e after

theorem Leaves.after {e : Event} {f : Unit → Journaled ε β} (h : P e) (next : (f ()).Leaves P) :
    (note e >>= f).Leaves P := (leaves_note h).bind fun _ => next

theorem Leaves.map {x : Journaled ε α} (f : α → β) (h : x.Leaves P) : (f <$> x).Leaves P := by
  rw [map_eq_pure_bind]
  exact h.bind fun a => leaves_pure (f a)

end Leaves

end Stageflow.Journaled
