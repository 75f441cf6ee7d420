import LiriSession.Library.Run

/-! Systems that come to rest. Some events are the system's own, such as the delivery of
what is under way; each of them leaves less to be done than there was, and one can be taken
as long as the system is not at rest. -/
namespace LiriSession.Library
variable {σ ε : Type}

structure Settling (step : σ → ε → Option σ) (own : ε → Prop) (work : σ → Nat) (rest : σ → Prop) :
    Prop where
  decreases : ∀ state event next, own event → step state event = some next → work next < work state
  continues : ∀ state, ¬rest state → ∃ event next, own event ∧ step state event = some next

/-- No event of the system's own can be taken. -/
def Stuck (step : σ → ε → Option σ) (own : ε → Prop) (state : σ) : Prop :=
  ∀ event, own event → step state event = none

/-- What the items of a queue come to, each with a weight. -/
def weigh {α : Type} (weight : α → Nat) : List α → Nat
  | [] => 0
  | item::items => weight item + weigh weight items

theorem weigh_append {α : Type} (weight : α → Nat) (first second : List α) :
    weigh weight (first ++ second) = weigh weight first + weigh weight second := by
  induction first with
  | nil => simp [weigh]
  | cons item first ih => rw [List.cons_append,weigh,weigh,ih,Nat.add_assoc]

theorem weigh_singleton {α : Type} (weight : α → Nat) (item : α) : weigh weight [item] = weight item := rfl

/-- Items of the same weight. -/
theorem weigh_const {α : Type} (weight : α → Nat) (items : List α) (each : Nat)
    (same : ∀ item ∈ items, weight item = each) : weigh weight items = items.length * each := by
  induction items with
  | nil => simp [weigh]
  | cons item items ih =>
    obtain ⟨first,others⟩ := List.forall_mem_cons.mp same
    rw [weigh,first,ih others,List.length_cons,Nat.succ_mul,Nat.add_comm]

namespace Settling
variable {step : σ → ε → Option σ} {own : ε → Prop} {work : σ → Nat} {rest : σ → Prop}

/-- What is to be done at first bounds the number of events. -/
theorem bounded (settling : Settling step own work rest) (start final : σ) (events : List ε)
    (only : ∀ event ∈ events, own event) (ran : run step start events = some final) :
    events.length + work final ≤ work start := by
  induction events generalizing start with
  | nil =>
    cases ran
    simp
  | cons event events ih =>
    obtain ⟨first,later⟩ := List.forall_mem_cons.mp only
    obtain ⟨next,taken,ran⟩ := run_cons_some step start final event events ran
    have less := settling.decreases start event next first taken
    have rest := ih next later ran
    rw [List.length_cons]
    omega

theorem stuck_rest (settling : Settling step own work rest) (state : σ) (stuck : Stuck step own state) :
    rest state := by
  by_contra unrest
  obtain ⟨event,next,mine,taken⟩ := settling.continues state unrest
  rw [stuck event mine] at taken
  cases taken

theorem reaches (settling : Settling step own work rest) (start : σ) :
    ∃ events final, (∀ event ∈ events, own event) ∧ run step start events = some final ∧ rest final := by
  by_cases settled : rest start
  · exact ⟨[],start,fun _ member => absurd member List.not_mem_nil,rfl,settled⟩
  · obtain ⟨event,next,mine,taken⟩ := settling.continues start settled
    have less := settling.decreases start event next mine taken
    obtain ⟨events,final,only,ran,settled⟩ := settling.reaches next
    refine ⟨event::events,final,List.forall_mem_cons.mpr ⟨mine,only⟩,?_,settled⟩
    rw [run_cons,taken]
    exact ran
termination_by work start

end Settling

end LiriSession.Library
