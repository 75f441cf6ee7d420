import LiriSession.Library.Channel
import LiriSession.Library.Run

/-! The idle flag in the QML module. The setter asks the session manager and changes the
flag when it is answered, so calls overlap with the answers to earlier ones. -/
namespace LiriSession
open Library

structure QmlSessionManager where
  m_idle : Bool := false

namespace QmlSessionManager

/-- The values that are sent to the session manager. -/
def setIdle (manager : QmlSessionManager) (value : Bool) : List Bool :=
  if manager.m_idle = value then [] else [value]

/-- The handler of the reply to a call with `value`, and what `idleChanged` carries. -/
def handleSetIdleReply (manager : QmlSessionManager) (value isError : Bool) :
    QmlSessionManager × List Bool :=
  if isError then (manager,[]) else ({ manager with m_idle := value },[value])

end QmlSessionManager

/-- The module and the session manager, with the messages `SetIdle` and the replies to
them under way; a reply is named by the value of its call. -/
structure IdleCalls where
  client : QmlSessionManager := {}
  calls : List Bool := []
  replies : List Bool := []
  received : Bool := false
  changed : List Bool := []
deriving Inhabited

namespace IdleCalls

inductive Event
  | setIdle (value : Bool)
  | handled
  | replied

def step (state : IdleCalls) : Event → Option IdleCalls
  | .setIdle value => some { state with calls := state.calls ++ state.client.setIdle value }
  | .handled =>
    match state.calls with
    | [] => none
    | value::calls =>
      some { state with calls, received := value, replies := state.replies ++ [value] }
  | .replied =>
    match state.replies with
    | [] => none
    | value::replies =>
      let result := state.client.handleSetIdleReply value false
      some { state with client := result.1, replies, changed := state.changed ++ result.2 }

def Quiet (state : IdleCalls) : Prop := state.calls = [] ∧ state.replies = []

/-- The value that the flag takes when all calls are answered. -/
def eventual (state : IdleCalls) : Bool := newest (state.replies ++ state.calls) state.client.m_idle

/-- The session manager is ahead of the module by the replies. -/
def Ahead (state : IdleCalls) : Prop := state.received = newest state.replies state.client.m_idle

/-- The flag has the wanted value already, but the last call under way is for the other
one. -/
def Overtaken (state : IdleCalls) (value : Bool) : Prop :=
  state.client.m_idle = value ∧ (state.replies ++ state.calls).getLast? = some (!value)

theorem handled_cases (state next : IdleCalls) (taken : step state .handled = some next) :
    ∃ value calls, state.calls = value::calls ∧
      next = { state with calls, received := value, replies := state.replies ++ [value] } := by
  unfold step at taken
  dsimp only at taken
  split at taken
  next => cases taken
  next value calls found =>
    cases taken
    exact ⟨value,calls,found,rfl⟩

theorem replied_cases (state next : IdleCalls) (taken : step state .replied = some next) :
    ∃ value replies, state.replies = value::replies ∧
      next = { state with
        client.m_idle := value, replies, changed := state.changed ++ [value] } := by
  unfold step at taken
  dsimp only at taken
  split at taken
  next => cases taken
  next value replies found =>
    cases taken
    exact ⟨value,replies,found,rfl⟩

theorem step_ahead (state next : IdleCalls) (event : Event) (ahead : state.Ahead)
    (taken : step state event = some next) : next.Ahead := by
  cases event with
  | setIdle value =>
    cases taken
    exact ahead
  | handled =>
    obtain ⟨value,calls,_,rfl⟩ := handled_cases state next taken
    simp [Ahead]
  | replied =>
    obtain ⟨value,replies,found,rfl⟩ := replied_cases state next taken
    rw [Ahead,found,newest_cons] at ahead
    exact ahead

theorem step_eventual (state next : IdleCalls) (event : Event)
    (delivery : ∀ value, event ≠ .setIdle value) (taken : step state event = some next) :
    next.eventual = state.eventual := by
  cases event with
  | setIdle value => exact absurd rfl (delivery value)
  | handled =>
    obtain ⟨value,calls,found,rfl⟩ := handled_cases state next taken
    simp [eventual,found]
  | replied =>
    obtain ⟨value,replies,found,rfl⟩ := replied_cases state next taken
    simp [eventual,found]

theorem eventual_setIdle_iff (state : IdleCalls) (value : Bool) :
    newest (state.replies ++ (state.calls ++ state.client.setIdle value)) state.client.m_idle = value ↔
      ¬ state.Overtaken value := by
  unfold QmlSessionManager.setIdle Overtaken
  split
  next same =>
    rw [List.append_nil,same]
    simp only [true_and,← newest_ne_iff,not_not]
  next changed =>
    simp [changed]

theorem run_ahead (events : List Event) (state : IdleCalls) (ran : run step {} events = some state) :
    state.Ahead :=
  run_invariant step (fun state _ => state.Ahead)
    (fun state event _ next ahead taken => step_ahead state next event ahead taken)
    {} state events rfl ran

theorem run_eventual (events : List Event) (start final : IdleCalls)
    (deliveries : ∀ value, .setIdle value ∉ events) (ran : run step start events = some final) :
    final.eventual = start.eventual := by
  induction events generalizing start with
  | nil =>
    cases ran
    rfl
  | cons event events ih =>
    obtain ⟨next,taken,rest⟩ := run_cons_some step start final event events ran
    rw [ih next (fun value member => deliveries value (List.mem_cons_of_mem event member)) rest]
    apply step_eventual start next event _ taken
    intro value same
    exact deliveries value (same ▸ List.mem_cons_self ..)

/-- Once all is quiet the flag and the session manager have the value of the last call,
unless that call found the flag at this value with a call for the other one under way. -/
theorem agrees_iff (before after : List Event) (value : Bool) (called final : IdleCalls)
    (reached : run step {} before = some called) (last : ∀ other, .setIdle other ∉ after)
    (ran : run step {} (before ++ .setIdle value::after) = some final) (quiet : final.Quiet) :
    final.client.m_idle = value ∧ final.received = value ↔ ¬ called.Overtaken value := by
  have received := run_ahead _ final ran
  rw [run_append,reached,Option.bind_some,run_cons] at ran
  have settled := run_eventual after _ final last ran
  rw [Ahead,quiet.2,newest_nil] at received
  rw [eventual,quiet.1,quiet.2,List.append_nil,newest_nil] at settled
  rw [received,and_self,settled]
  exact eventual_setIdle_iff called value

theorem agrees_after_two_calls :
    ∃ final, run step {} [.setIdle true,.handled,.replied,.setIdle false,.handled,.replied] =
      some final ∧ final.client.m_idle = false ∧ final.received = false := by
  have last (other : Bool) : .setIdle other ∉ [Event.handled,.replied] := by simp
  refine ⟨_,rfl,?_⟩
  apply (agrees_iff [.setIdle true,.handled,.replied] [.handled,.replied] false _ _ rfl last rfl
    ⟨rfl,rfl⟩).mpr
  unfold Overtaken
  decide

/-- The flag is switched on and off again before the first answer. -/
theorem second_call_dropped : ¬ ∀ (before after : List Event) (value : Bool) (final : IdleCalls),
    (∀ other, .setIdle other ∉ after) → run step {} (before ++ .setIdle value::after) = some final →
      final.Quiet → final.client.m_idle = value ∧ final.received = value := by
  intro all
  have final := all [.setIdle true] [.handled,.replied] false _
    (fun other member => by simp at member) rfl ⟨rfl,rfl⟩
  exact absurd final.1 (by decide)

end IdleCalls

end LiriSession
