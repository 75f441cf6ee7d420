import LiriSession.SessionStart
import LiriSession.ShutdownHistory
import LiriSession.OwnInhibitors

/-! Sleep and shutdown of the system, announced by logind to a running session: the
handlers of its backend, and what is connected to the signals that these emit. -/
namespace LiriSession
open Library Logind

/-- The session manager and what its screen saver interface is joined with. -/
structure RunningSession where
  session : Session
  inhibition : Inhibition

namespace RunningSession

/-- What the constructors connect to `SessionBackend::shutdownRequested`. -/
def shutdownRequestedSlots : List (Session → Session) := []

/-- The screen saver interface and `SessionManager::Locked` are connected to
`sessionLocked`; nothing is released. -/
def prepareForSleep (running : RunningSession) (arg : Bool) (now : Nat) : RunningSession :=
  if arg then { running with inhibition := running.inhibition.emitLocked now } else running

def prepareForShutdown (running : RunningSession) (arg : Bool) : RunningSession :=
  if arg then
    { running with
      session := shutdownRequestedSlots.foldl (fun session slot => slot session) running.session }
  else running

inductive Event
  | inhibition (event : Inhibition.Event)
  | trigger (trigger : Session.ShutdownTrigger)
  | prepareForSleep (arg : Bool) (now : Nat)
  | prepareForShutdown (arg : Bool)

def step (behaviour : Session.Behaviour) (reading : Inhibition.LockReading)
    (running : RunningSession) : Event → Option RunningSession
  | .inhibition event =>
    (Inhibition.step reading running.inhibition event).map fun next =>
      { running with inhibition := next }
  | .trigger trigger => some { running with session := running.session.deliver behaviour trigger }
  | .prepareForSleep arg now =>
    if running.inhibition.hears "PrepareForSleep" then some (running.prepareForSleep arg now) else none
  | .prepareForShutdown arg =>
    if running.inhibition.hears "PrepareForShutdown" then some (running.prepareForShutdown arg)
    else none

def started (behaviour : Session.Behaviour) (systemd : Bool) (disabled : List String)
    (args : OrderedMap String (List String)) (found : Session.Discovery) : RunningSession where
  session := ((Session.opened behaviour systemd disabled args found).start behaviour).2
  inhibition := Inhibition.constructed .logind

/-- Every loaded module has been stopped, the one started last first. -/
def BroughtDown (running : RunningSession) : Prop :=
  Session.stops running.session.calls = (Session.loaded running.session.calls).reverse

def delayFds (running : RunningSession) : List Int :=
  running.inhibition.logind.inhibitFds.filter fun fd =>
    (running.inhibition.openFds.find? fd).any fun request =>
      request.who = LogindBackend.sleep.who && request.mode = LogindPrivate.modeStr .delay

end RunningSession

namespace Inhibition

def Announced (state : Inhibition) : Prop :=
  state.logind.isConnected = true →
    state.hears "PrepareForSleep" = true ∧ state.hears "PrepareForShutdown" = true

theorem announced_step (reading : LockReading) (state next : Inhibition) (event : Event)
    (kept : Announced state) (taken : step reading state event = some next) : Announced next := by
  cases moves_of_step reading state next event taken with
  | unsent => exact kept
  | sent => exact kept
  | unbound => exact kept
  | bound cookie fd =>
    exact uninhibitIdle_keeps Announced state fd (fun _ _ _ same => same) kept
  | registered lookups =>
    unfold Announced hears
    dsimp only
    rcases state.logind.registered_cases lookups with
      ⟨_,same⟩ | ⟨disconnected,same⟩ | ⟨_,path,subscriptions,_,listed,same⟩
    · rw [same]
      exact kept
    · rw [same]
      intro connected
      simp [disconnected] at connected
    · rw [same]
      intro _
      have sleep := listed (show ⟨object,manager,"PrepareForSleep"⟩ ∈ LogindPrivate.sessionHooks path by
        simp [LogindPrivate.sessionHooks])
      have shutdown := listed (show ⟨object,manager,"PrepareForShutdown"⟩ ∈
        LogindPrivate.sessionHooks path by simp [LogindPrivate.sessionHooks])
      exact ⟨List.any_eq_true.mpr ⟨_,sleep,rfl⟩,List.any_eq_true.mpr ⟨_,shutdown,rfl⟩⟩
  | unregistered =>
    intro connected
    cases connected
  | uninhibit fd => exact uninhibit_keeps Announced state fd (fun _ _ same => same) kept
  | error => exact kept
  | granted => exact kept
  | lock now next backend hears returned =>
    exact handleSessionLocked_keeps Announced (fun _ _ _ _ same => same) (fun _ _ same => same)
      state next reading now kept returned
  | unlock =>
    exact handleSessionUnlocked_keeps Announced (fun _ _ _ _ same => same) (fun _ same => same)
      state kept

end Inhibition

namespace RunningSession

structure Runs (running : RunningSession) : Prop where
  tracked : Session.Tracked running.session
  announced : Inhibition.Announced running.inhibition

theorem runs_step (behaviour : Session.Behaviour) (reading : Inhibition.LockReading)
    (running next : RunningSession) (event : Event) (runs : Runs running)
    (taken : step behaviour reading running event = some next) : Runs next := by
  cases event with
  | inhibition event =>
    obtain ⟨state,moved,rfl⟩ := Option.map_eq_some_iff.mp taken
    exact ⟨runs.tracked,Inhibition.announced_step reading _ state event runs.announced moved⟩
  | trigger trigger =>
    cases taken
    exact ⟨runs.tracked.shutdowns behaviour _ _,runs.announced⟩
  | prepareForSleep arg now =>
    obtain ⟨_,moved⟩ := Option.ite_none_right_eq_some.mp taken
    rw [← Option.some.inj moved]
    unfold prepareForSleep
    split
    · exact ⟨runs.tracked,runs.announced⟩
    · exact runs
  | prepareForShutdown arg =>
    obtain ⟨_,moved⟩ := Option.ite_none_right_eq_some.mp taken
    rw [← Option.some.inj moved]
    unfold prepareForShutdown
    split
    · exact ⟨runs.tracked,runs.announced⟩
    · exact runs

theorem runs_started (behaviour : Session.Behaviour) (systemd : Bool) (disabled : List String)
    (args : OrderedMap String (List String)) (found : Session.Discovery) :
    Runs (started behaviour systemd disabled args found) := by
  apply Runs.mk
  · exact Session.tracked_start behaviour systemd disabled args found
  · exact fun connected => nomatch connected

/-- In any state of a running session that is connected to logind, the handlers of a
coming shutdown leave it brought down and the delay inhibitor released exactly when the
inhibitor is not held and no module has been loaded, or the shutdown slot has already
run on all of them and found none loaded any other time; those of a coming sleep release
the inhibitor exactly when it is not held. -/
theorem prepared_iff (behaviour : Session.Behaviour) (reading : Inhibition.LockReading)
    (systemd : Bool) (disabled : List String) (args : OrderedMap String (List String))
    (found : Session.Discovery) (events : List Event) (running : RunningSession)
    (ran : run (step behaviour reading) (started behaviour systemd disabled args found) events =
      some running)
    (connected : running.inhibition.logind.isConnected = true) :
    (∃ after, step behaviour reading running (.prepareForShutdown true) = some after ∧
      (BroughtDown after ∧ delayFds after = [] ↔
        (Session.loaded running.session.calls = [] ∨
          Session.fullShutdowns running.session.calls = [Session.loaded running.session.calls]) ∧
        delayFds running = [])) ∧
    ∀ now, ∃ after, step behaviour reading running (.prepareForSleep true now) = some after ∧
      (delayFds after = [] ↔ delayFds running = []) := by
  have runs : Runs running := by
    apply run_invariant (step behaviour reading) (fun state _ => Runs state)
      (fun state event events next => runs_step behaviour reading state next event) _ _ events
      (runs_started behaviour systemd disabled args found) ran
  obtain ⟨sleep,shutdown⟩ := runs.announced connected
  apply And.intro
  · refine ⟨running.prepareForShutdown true,if_pos shutdown,?_⟩
    have down : BroughtDown running ↔ _ := runs.tracked.stopped_iff
    change BroughtDown running ∧ delayFds running = [] ↔ _
    rw [down]
  · intro now
    exact ⟨running.prepareForSleep true now,if_pos sleep,Iff.rfl⟩

def inhibiting : List Event := [.inhibition (.serviceRegistered Inhibition.graphicalSession),
  .inhibition .unlock,.inhibition (.reply 0 (.granted 5)),.inhibition (.reply 1 (.granted 6)),
  .inhibition (.reply 2 (.granted 7))]

/-- Shell and services go on when the system shuts down, and logind is kept waiting. -/
theorem shutdown_not_heeded : ∃ running,
    run (step (Session.shellBehaviour []) (.asWritten 0))
        (started (Session.shellBehaviour []) false [] .empty Session.shellAndServices) inhibiting =
      some running ∧ running.inhibition.logind.isConnected = true ∧
      .closing ∉ running.session.calls ∧ ¬BroughtDown (running.prepareForShutdown true) ∧
      delayFds (running.prepareForShutdown true) ≠ [] ∧
      delayFds (running.prepareForSleep true 0) ≠ [] := by
  refine ⟨_,rfl,rfl,by decide,?_,by decide,by decide⟩
  unfold BroughtDown
  decide

def loggedOut : List Event :=
  [.inhibition (.serviceRegistered Inhibition.graphicalSession),.trigger .logout]

/-- Shell and services have been stopped by a logout when the shutdown is announced. -/
theorem brought_down_by_logout : ∃ running,
    run (step (Session.shellBehaviour []) (.asWritten 0))
        (started (Session.shellBehaviour []) false [] .empty Session.shellAndServices) loggedOut =
      some running ∧
      Session.loaded running.session.calls = [Session.shellModule,Session.servicesModule] ∧
      ∃ after, step (Session.shellBehaviour []) (.asWritten 0) running (.prepareForShutdown true) =
        some after ∧ BroughtDown after ∧ delayFds after = [] := by
  have heeded (running : RunningSession)
      (ran : run (step (Session.shellBehaviour []) (.asWritten 0))
        (started (Session.shellBehaviour []) false [] .empty Session.shellAndServices) loggedOut =
        some running)
      (connected : running.inhibition.logind.isConnected = true)
      (stopped : Session.fullShutdowns running.session.calls = [Session.loaded running.session.calls])
      (free : delayFds running = []) :
      ∃ after, step (Session.shellBehaviour []) (.asWritten 0) running (.prepareForShutdown true) =
        some after ∧ BroughtDown after ∧ delayFds after = [] := by
    obtain ⟨after,taken,same⟩ := (prepared_iff (Session.shellBehaviour []) (.asWritten 0) false
      [] .empty Session.shellAndServices loggedOut running ran connected).1
    exact ⟨after,taken,same.mpr ⟨.inr stopped,free⟩⟩
  exact ⟨_,rfl,by decide,heeded _ rfl rfl (by decide) (by decide)⟩

end RunningSession

end LiriSession
