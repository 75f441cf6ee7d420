import Mathlib.Data.Option.Basic
import Mathlib.Data.List.Basic

/-! Finite runs of a partial step function: an event that is not enabled, or
whose handler never returns, has no next state. Invariants may speak of the
events still to come; properties of every state reached are traded for
conditions on every step. -/
namespace LiriSession.Library
variable {σ ε : Type}

def run (step : σ → ε → Option σ) (start : σ) (events : List ε) : Option σ :=
  events.foldlM step start

/-- The property holds in the first state and in every state reached from it. -/
def Along (step : σ → ε → Option σ) (holds : σ → Prop) : σ → List ε → Prop
  | state, [] => holds state
  | state, event::events =>
    holds state ∧ ∀ next, step state event = some next → Along step holds next events

/-- Every event that takes place is allowed in the state it arrives in. -/
def Steps (step : σ → ε → Option σ) (allowed : σ → ε → Prop) : σ → List ε → Prop
  | _, [] => True
  | state, event::events => ∀ next, step state event = some next →
    allowed state event ∧ Steps step allowed next events

section
variable (step : σ → ε → Option σ)

theorem run_cons (start : σ) (event : ε) (events : List ε) :
    run step start (event::events) = (step start event).bind (run step · events) := rfl

theorem run_append (start : σ) (first second : List ε) :
    run step start (first++second) = (run step start first).bind (run step · second) := by
  simp only [run,List.foldlM_append]
  rfl

theorem run_cons_some (start final : σ) (event : ε) (events : List ε)
    (ran : run step start (event::events) = some final) :
    ∃ next, step start event = some next ∧ run step next events = some final := by
  rw [run_cons] at ran
  exact Option.bind_eq_some_iff.mp ran

theorem run_steps_invariant (invariant : σ → List ε → Prop) (allowed : σ → ε → Prop)
    (kept : ∀ state event events next, invariant state (event::events) → allowed state event →
      step state event = some next → invariant next events)
    (start final : σ) (events : List ε) (initial : invariant start events)
    (steps : Steps step allowed start events)
    (ran : run step start events = some final) : invariant final [] := by
  induction events generalizing start with
  | nil =>
    cases ran
    exact initial
  | cons event events ih =>
    obtain ⟨next,taken,rest⟩ := run_cons_some step start final event events ran
    obtain ⟨permitted,later⟩ := steps next taken
    exact ih next (kept start event events next initial permitted taken) later rest

theorem steps_cons (allowed : σ → ε → Prop) (state next : σ) (event : ε) (events : List ε)
    (taken : step state event = some next) : Steps step allowed state (event::events) ↔
      allowed state event ∧ Steps step allowed next events := by
  refine ⟨fun steps => steps next taken,?_⟩
  intro both other reached
  rw [taken] at reached
  cases reached
  exact both

theorem steps_of_all (allowed : σ → ε → Prop) (start : σ) (events : List ε)
    (all : ∀ event ∈ events, ∀ state, allowed state event) : Steps step allowed start events := by
  induction events generalizing start with
  | nil => trivial
  | cons event events ih =>
    intro next _
    exact ⟨all event (List.mem_cons_self ..) start,
      ih next fun other member => all other (List.mem_cons_of_mem event member)⟩

theorem run_invariant (invariant : σ → List ε → Prop)
    (kept : ∀ state event events next, invariant state (event::events) →
      step state event = some next → invariant next events)
    (start final : σ) (events : List ε) (initial : invariant start events)
    (ran : run step start events = some final) : invariant final [] :=
  run_steps_invariant step invariant (fun _ _ => True)
    (fun state event events next before _ taken => kept state event events next before taken)
    start final events initial (steps_of_all step _ start events fun _ _ _ => trivial) ran

theorem along_start (holds : σ → Prop) (start : σ) (events : List ε)
    (along : Along step holds start events) : holds start := by
  cases events with
  | nil => exact along
  | cons event events => exact along.1

theorem along_of_steps (invariant : σ → List ε → Prop) (holds : σ → Prop) (allowed : σ → ε → Prop)
    (kept : ∀ state event events next, invariant state (event::events) → allowed state event →
      step state event = some next → invariant next events)
    (enough : ∀ state events, invariant state events → holds state)
    (start : σ) (events : List ε) (initial : invariant start events)
    (steps : Steps step allowed start events) : Along step holds start events := by
  induction events generalizing start with
  | nil => exact enough start [] initial
  | cons event events ih =>
    refine ⟨enough start (event::events) initial,?_⟩
    intro next taken
    obtain ⟨permitted,later⟩ := steps next taken
    exact ih next (kept start event events next initial permitted taken) later

/-- What the invariant makes of each allowed step holds of every step of the run. -/
theorem steps_of_steps (invariant : σ → List ε → Prop) (allowed careful : σ → ε → Prop)
    (kept : ∀ state event events next, invariant state (event::events) → allowed state event →
      step state event = some next → invariant next events)
    (enough : ∀ state event events next, invariant state (event::events) → allowed state event →
      step state event = some next → careful state event)
    (start : σ) (events : List ε) (initial : invariant start events)
    (steps : Steps step allowed start events) : Steps step careful start events := by
  induction events generalizing start with
  | nil => trivial
  | cons event events ih =>
    intro next taken
    obtain ⟨permitted,later⟩ := steps next taken
    exact ⟨enough start event events next initial permitted taken,
      ih next (kept start event events next initial permitted taken) later⟩

theorem along_iff_front (holds : σ → Prop) (start : σ) (events : List ε) :
    Along step holds start events ↔
      ∀ before after final, events = before++after → run step start before = some final →
        holds final := by
  induction events generalizing start with
  | nil =>
    refine ⟨?_,fun all => all [] [] start rfl rfl⟩
    intro initial before after final split ran
    have empty : before = [] := (List.append_eq_nil_iff.mp split.symm).1
    subst empty
    cases ran
    exact initial
  | cons event events ih =>
    refine ⟨?_,?_⟩
    · intro along before after final split ran
      cases before with
      | nil =>
        cases ran
        exact along.1
      | cons first before =>
        obtain ⟨same,rest⟩ := List.cons_eq_cons.mp split
        subst same
        obtain ⟨next,taken,ran⟩ := run_cons_some step start final _ before ran
        exact (ih next).mp (along.2 next taken) before after final rest ran
    · intro all
      refine ⟨all [] _ start rfl rfl,?_⟩
      intro next taken
      apply (ih next).mpr
      intro before after final split ran
      apply all (event::before) after final (by rw [split,List.cons_append])
      rw [run_cons,taken]
      exact ran

/-- If a step keeps the property exactly when it is allowed, a run keeps it in
every state exactly when all of its steps are allowed. -/
theorem along_iff_steps (invariant : σ → List ε → Prop) (holds : σ → Prop) (allowed : σ → ε → Prop)
    (kept : ∀ state event events next, invariant state (event::events) →
      step state event = some next → invariant next events)
    (exact_step : ∀ state event events next, invariant state (event::events) → holds state →
      step state event = some next → (allowed state event ↔ holds next))
    (start : σ) (events : List ε) (initial : invariant start events) (first : holds start) :
    Along step holds start events ↔ Steps step allowed start events := by
  induction events generalizing start with
  | nil => simp [Along,Steps,first]
  | cons event events ih =>
    refine ⟨?_,?_⟩
    · intro along next taken
      have reached := along_start step holds next events (along.2 next taken)
      have after := kept start event events next initial taken
      have permitted := (exact_step start event events next initial first taken).mpr reached
      exact ⟨permitted,(ih next after reached).mp (along.2 next taken)⟩
    · intro steps
      refine ⟨first,?_⟩
      intro next taken
      obtain ⟨permitted,later⟩ := steps next taken
      have reached := (exact_step start event events next initial first taken).mp permitted
      exact (ih next (kept start event events next initial taken) reached).mpr later

/-- The same when an allowed step that keeps the property has another property of its own. -/
theorem along_and_steps_iff (invariant : σ → List ε → Prop) (holds : σ → Prop)
    (allowed careful : σ → ε → Prop)
    (kept : ∀ state event events next, invariant state (event::events) →
      step state event = some next → invariant next events)
    (exact_step : ∀ state event events next, invariant state (event::events) → holds state →
      step state event = some next → (allowed state event ↔ holds next))
    (enough : ∀ state event events, invariant state (event::events) → holds state →
      allowed state event → careful state event)
    (start : σ) (events : List ε) (initial : invariant start events) (first : holds start) :
    Along step holds start events ∧ Steps step careful start events ↔
      Steps step allowed start events := by
  have along := along_iff_steps step invariant holds allowed kept exact_step start events initial first
  refine ⟨fun both => along.mp both.1,fun steps => ⟨along.mpr steps,?_⟩⟩
  apply steps_of_steps step (fun state events => invariant state events ∧ holds state) allowed careful
  · intro state event events next before permitted taken
    exact ⟨kept state event events next before.1 taken,
      (exact_step state event events next before.1 before.2 taken).mp permitted⟩
  · intro state event events _ before permitted _
    exact enough state event events before.1 before.2 permitted
  · exact ⟨initial,first⟩
  · exact steps

end
end LiriSession.Library
