import LiriSession.LogindSignals
import LiriSession.Library.Handles

/-! The descriptors that the client of logind holds for its inhibitors, in a process where
numbers are given out again once they are closed. -/
namespace LiriSession
open Library Logind

/-- The client, the numbers that are open in its process, whoever opened them, and those
that `dup` has given the client and that the client has closed, in order. -/
structure LogindDescriptors where
  logind : LogindPrivate := {}
  openFds : List Int := []
  acquired : List Int := []
  closed : List Int := []

namespace LogindDescriptors

/-- A handler of the client, or other code of the process. -/
inductive Event
  | handled (event : ObservedLogind.Event)
  | otherOpens (fd : Int)
  | otherCloses (fd : Int)

/-- What `dup` returns in a handler that calls it. -/
def dup : Event → Option Int
  | .handled (.inhibitReply _ _ (.granted fd)) => some fd
  | _ => none

def handle (logind : LogindPrivate) : Event → LogindPrivate × List Effect
  | .handled event => ObservedLogind.handle logind event
  | _ => (logind,[])

def closes (effects : List Effect) : List Int := effects.filterMap fun | .close fd => some fd | _ => none

/-- A number that is not open. -/
def free (state : LogindDescriptors) (fd : Int) : Bool := 0 ≤ fd && fd ∉ state.openFds

/-- A call of `dup` fails or returns a number that is free. Other code opens free numbers
too, and closes none that the client holds. -/
def enabled (state : LogindDescriptors) : Event → Bool
  | .handled event => (dup (.handled event)).all fun fd => fd = -1 || state.free fd
  | .otherOpens fd => state.free fd
  | .otherCloses fd => fd ∉ state.logind.inhibitFds

def opens (event : Event) : List Int := (dup event).toList.filter fun fd => fd ≠ -1

def table (state : LogindDescriptors) (event : Event) : List Int :=
  match event with
  | .handled _ => (state.openFds ++ opens event).diff (closes (handle state.logind event).2)
  | .otherOpens fd => state.openFds ++ [fd]
  | .otherCloses fd => state.openFds.erase fd

def step (state : LogindDescriptors) (event : Event) : Option LogindDescriptors :=
  if state.enabled event then
    let result := handle state.logind event
    some {
      logind := result.1
      openFds := state.table event
      acquired := state.acquired ++ opens event
      closed := state.closed ++ closes result.2 }
  else none

/-- The client holds open descriptors, each once, and has closed what it no longer holds. -/
structure Owned (state : LogindDescriptors) : Prop where
  valid : ∀ fd ∈ state.logind.inhibitFds, 0 ≤ fd ∧ fd ∈ state.openFds
  distinct : state.logind.inhibitFds.Nodup
  balance : ∀ fd, state.acquired.count fd = state.closed.count fd + state.logind.inhibitFds.count fd

/-- Only what the client holds is closed, and without a descriptor nothing changes and
nothing is announced. -/
structure Careful (state : LogindDescriptors) (event : Event) : Prop where
  closes : ∀ fd ∈ closes (handle state.logind event).2,
    0 ≤ fd ∧ fd ∈ state.openFds ∧ fd ∈ state.logind.inhibitFds
  failed : dup event = some (-1) →
    (handle state.logind event).1.inhibitFds = state.logind.inhibitFds ∧
    (∀ who why fd, .emit (.inhibited who why fd) ∉ (handle state.logind event).2) ∧
    ∀ value, .emit (.inhibitedChanged value) ∉ (handle state.logind event).2

/-- No call of `dup` fails. -/
def Dups (_ : LogindDescriptors) (event : Event) : Prop := dup event ≠ some (-1)

/-- What an event does to the list: a grant, a release, or nothing. -/
inductive Changes (logind : LogindPrivate) : Event → List Int → List Int → Prop
  | grant (who why : String) (fd : Int) : Changes logind (.handled (.inhibitReply who why (.granted fd)))
      (logind.inhibitFds ++ [fd]) []
  | release (fd : Int) (held : fd ∈ logind.inhibitFds) :
      Changes logind (.handled (.uninhibit fd)) (logind.inhibitFds.erase fd) [fd]
  | none (event : Event) (silent : dup event = none) : Changes logind event logind.inhibitFds []

theorem changes_none (logind : LogindPrivate) (event : ObservedLogind.Event)
    (silent : dup (.handled event) = none)
    (same : (ObservedLogind.handle logind event).1.inhibitFds = logind.inhibitFds)
    (kept : closes (ObservedLogind.handle logind event).2 = []) :
    Changes logind (.handled event) (handle logind (.handled event)).1.inhibitFds
      (closes (handle logind (.handled event)).2) := by
  rw [handle,same,kept]
  exact .none _ silent

theorem closes_sends (effects : List Effect) (sends : ObservedLogind.Sends effects) : closes effects = [] := by
  apply List.filterMap_eq_nil_iff.mpr
  intro effect member
  obtain ⟨message,rfl⟩ := sends effect member
  rfl

theorem changes_sends (logind : LogindPrivate) (event : ObservedLogind.Event)
    (silent : dup (.handled event) = none) (effects : List Effect)
    (sends : ObservedLogind.Sends effects)
    (same : ObservedLogind.handle logind event = (logind,effects)) :
    Changes logind (.handled event) (handle logind (.handled event)).1.inhibitFds
      (closes (handle logind (.handled event)).2) := by
  apply changes_none logind event silent
  · rw [same]
  · rw [same]
    exact closes_sends effects sends

theorem changes_inhibitReply (logind : LogindPrivate) (who why : String) (fd : Int) :
    Changes logind (.handled (.inhibitReply who why (.granted fd)))
      (logind.handleInhibitReply who why (.granted fd)).1.inhibitFds
      (closes (logind.handleInhibitReply who why (.granted fd)).2) := by
  rw [logind.inhibitReply_granted]
  dsimp only
  split <;> exact .grant who why fd

theorem changes_uninhibit (logind : LogindPrivate) (fd : Int) :
    Changes logind (.handled (.uninhibit fd)) (logind.uninhibit fd).1.inhibitFds
      (closes (logind.uninhibit fd).2) := by
  rcases logind.uninhibit_cases fd with ⟨_,same⟩ | ⟨_,held,same⟩ <;> rw [same]
  · exact .none _ rfl
  · dsimp only
    split <;> exact .release fd held

theorem changes (logind : LogindPrivate) (event : Event) :
    Changes logind event (handle logind event).1.inhibitFds (closes (handle logind event).2) := by
  cases event with
  | otherOpens fd => exact .none _ rfl
  | otherCloses fd => exact .none _ rfl
  | handled event =>
    cases event with
    | serviceRegistered lookups =>
      apply changes_none logind (.serviceRegistered lookups) rfl (logind.registered_fds lookups)
      rcases logind.registered_cases lookups with ⟨_,same⟩ | ⟨_,same⟩ | ⟨_,_,_,_,_,same⟩ <;>
        rw [ObservedLogind.handle,same] <;> rfl
    | serviceUnregistered =>
      apply changes_none logind _ rfl rfl
      unfold ObservedLogind.handle LogindPrivate._q_serviceUnregistered
      dsimp only
      split <;> split <;> split <;> rfl
    | sessionPropertiesChanged =>
      exact changes_sends logind _ rfl _ (ObservedLogind.propertiesChanged_sends logind) rfl
    | sessionActiveReply reply =>
      rcases logind.sessionActiveReply_cases reply with same | ⟨_,_,same⟩ <;>
        apply changes_none logind _ rfl <;> rw [ObservedLogind.handle,same] <;> rfl
    | virtualTerminalReply reply =>
      rcases logind.virtualTerminalReply_cases reply with same | ⟨_,_,same⟩ <;>
        apply changes_none logind _ rfl <;> rw [ObservedLogind.handle,same] <;> rfl
    | seatReply reply =>
      rcases logind.seatReply_cases reply with same | ⟨_,_,same⟩ <;>
        apply changes_none logind _ rfl <;> rw [ObservedLogind.handle,same] <;> rfl
    | takeControl => exact changes_sends logind _ rfl _ (ObservedLogind.sends_unless _ _) rfl
    | takeControlReply valid =>
      obtain ⟨hooks,same⟩ := logind.takeControlReply_eq valid
      apply changes_none logind _ rfl <;> rw [ObservedLogind.handle,same]
      rfl
    | releaseControl =>
      rcases logind.releaseControl_cases with ⟨_,same⟩ | ⟨_,_,_,same⟩ <;>
        apply changes_none logind _ rfl <;> rw [ObservedLogind.handle,same] <;> rfl
    | setIdleHint idle => exact changes_sends logind _ rfl _ (ObservedLogind.sends_unless _ _) rfl
    | inhibit who why flags mode => exact changes_sends logind _ rfl _ (ObservedLogind.sends_unless _ _) rfl
    | inhibitReply who why answer =>
      cases answer with
      | error => exact .none _ rfl
      | granted fd => exact changes_inhibitReply logind who why fd
    | uninhibit fd => exact changes_uninhibit logind fd

/-- The client as the holder of its descriptors. -/
def handles (state : LogindDescriptors) : Handles Int :=
  ⟨state.logind.inhibitFds,state.openFds,state.acquired,state.closed⟩

theorem step_eq (state next : LogindDescriptors) (event : Event) (taken : step state event = some next) :
    state.enabled event = true ∧ next.handles =
      ⟨(handle state.logind event).1.inhibitFds,state.table event,state.acquired ++ opens event,
        state.closed ++ closes (handle state.logind event).2⟩ := by
  unfold step at taken
  split at taken
  next enabled =>
    cases taken
    exact ⟨enabled,rfl⟩
  next => cases taken

theorem free_iff (state : LogindDescriptors) (fd : Int) :
    state.free fd = true ↔ 0 ≤ fd ∧ fd ∉ state.openFds := by
  simp [free]

/-- Unless `dup` fails, the client acquires and releases as a holder does. -/
theorem step_handles (state next : LogindDescriptors) (event : Event)
    (taken : step state event = some next) :
    Dups state event ∧ Handles.Step state.handles next.handles ∨
      dup event = some (-1) ∧ (-1) ∈ next.logind.inhibitFds := by
  obtain ⟨enabled,after⟩ := step_eq state next event taken
  have changed := changes state.logind event
  have list : next.logind.inhibitFds = (handle state.logind event).1.inhibitFds :=
    congrArg Handles.held after
  rw [after,list]
  unfold table
  generalize (handle state.logind event).1.inhibitFds = fds at changed
  generalize closes (handle state.logind event).2 = given at changed
  cases changed with
  | grant who why fd =>
    by_cases failed : fd = -1
    · subst failed
      exact .inr ⟨rfl,List.mem_append_right _ (List.mem_singleton_self _)⟩
    · have fresh : fd ∉ state.openFds := by
        have allowed : fd = -1 ∨ 0 ≤ fd ∧ fd ∉ state.openFds := by
          simpa [LogindDescriptors.enabled,dup,free] using enabled
        exact (allowed.resolve_left failed).2
      have opened : opens (.handled (.inhibitReply who why (.granted fd))) = [fd] := by
        simp [opens,dup,failed]
      rw [opened,List.append_nil]
      exact .inl ⟨by simpa [Dups,dup] using failed,.acquire fd fresh⟩
  | release fd held =>
    refine .inl ⟨by simp [Dups,dup],?_⟩
    have released : Handles.Step state.handles _ := .release fd held
    simpa [opens,dup,handles,List.diff_cons] using released
  | none event silent =>
    refine .inl ⟨by simp [Dups,silent],?_⟩
    have unopened : opens event = [] := by simp [opens,silent]
    rw [unopened,List.append_nil,List.append_nil]
    cases event with
    | handled event =>
      dsimp only
      rw [List.append_nil,List.diff_nil]
      exact .idle
    | otherOpens fd =>
      rw [List.append_nil]
      exact .otherOpens fd
    | otherCloses fd =>
      rw [List.append_nil]
      have foreign : fd ∉ state.logind.inhibitFds := by simpa [LogindDescriptors.enabled] using enabled
      exact .otherCloses fd foreign

/-- Numbers that are open are not negative. -/
def Numbered (state : LogindDescriptors) : Prop := ∀ fd ∈ state.openFds, 0 ≤ fd

theorem step_numbered (state next : LogindDescriptors) (event : Event) (numbered : Numbered state)
    (taken : step state event = some next) : Numbered next := by
  obtain ⟨enabled,after⟩ := step_eq state next event taken
  have table := congrArg Handles.opened after
  intro fd member
  rw [show next.openFds = _ from table] at member
  cases event with
  | handled event =>
    rcases List.mem_append.mp ((List.diff_subset _ _) member) with before | new
    · exact numbered fd before
    · obtain ⟨given,valid⟩ := List.mem_filter.mp new
      have same : dup (.handled event) = some fd := by simpa using given
      have allowed : fd = -1 ∨ state.free fd = true := by
        simpa [LogindDescriptors.enabled,same] using enabled
      exact ((state.free_iff fd).mp (allowed.resolve_left (by simpa using valid))).1
  | otherOpens other =>
    rcases List.mem_append.mp member with before | new
    · exact numbered fd before
    · rw [List.mem_singleton.mp new]
      exact ((state.free_iff other).mp enabled).1
  | otherCloses other => exact numbered fd (List.mem_of_mem_erase member)

theorem owned_iff_handles (state : LogindDescriptors) (numbered : Numbered state) :
    Owned state ↔ state.handles.Owned := by
  apply Iff.intro
  · exact fun owned => ⟨fun fd held => (owned.valid fd held).2,owned.distinct,owned.balance⟩
  · exact fun owned => ⟨fun fd held => ⟨numbered fd (owned.opened fd held),owned.opened fd held⟩,
      owned.distinct,owned.balance⟩

theorem step_owned_iff (state next : LogindDescriptors) (event : Event) (numbered : Numbered state)
    (owned : Owned state) (taken : step state event = some next) : Dups state event ↔ Owned next := by
  have after := step_numbered state next event numbered taken
  rcases step_handles state next event taken with ⟨dups,moved⟩ | ⟨failed,held⟩
  · have kept := ((owned_iff_handles state numbered).mp owned).step moved
    exact iff_of_true dups ((owned_iff_handles next after).mpr kept)
  · apply iff_of_false (not_not_intro failed)
    intro owned
    exact absurd (owned.valid (-1) held).1 (by decide)

theorem step_careful (state : LogindDescriptors) (event : Event) (owned : Owned state)
    (dups : Dups state event) : Careful state event := by
  refine ⟨?_,fun failed => absurd failed dups⟩
  have changed := changes state.logind event
  generalize (handle state.logind event).1.inhibitFds = fds at changed
  generalize closes (handle state.logind event).2 = given at changed
  intro fd member
  cases changed with
  | grant => cases member
  | release other held =>
    rw [List.mem_singleton.mp member]
    exact ⟨(owned.valid other held).1,(owned.valid other held).2,held⟩
  | none => cases member

/-- Through every run the client holds open descriptors, each once, and closes nothing else,
exactly when `dup` never fails. -/
theorem owned_iff (events : List Event) :
    Along step Owned {} events ∧ Steps step Careful {} events ↔ Steps step Dups {} events := by
  have start : Numbered {} := fun _ member => absurd member List.not_mem_nil
  have empty : Owned {} := ⟨fun _ member => absurd member List.not_mem_nil,.nil,fun _ => rfl⟩
  apply along_and_steps_iff step (fun state _ => Numbered state) Owned Dups Careful
  · exact fun state event _ next numbered taken => step_numbered state next event numbered taken
  · exact fun state event _ next numbered owned taken =>
      step_owned_iff state next event numbered owned taken
  · exact fun state event _ _ owned dups => step_careful state event owned dups
  · exact start
  · exact empty

/-- The first `dup` fails, and the client holds and announces -1. -/
theorem failed_dup_held : ¬ ∀ events, Along step Owned {} events ∧ Steps step Careful {} events := by
  intro all
  obtain ⟨along,_⟩ := all [.handled (.inhibitReply "player" "video" (.granted (-1)))]
  have reached := along_start step Owned _ [] (along.2 _ rfl)
  exact absurd (reached.valid (-1) (List.mem_singleton_self _)).1 (by decide)

end LogindDescriptors

end LiriSession
