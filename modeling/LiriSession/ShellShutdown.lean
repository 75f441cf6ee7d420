import LiriSession.SessionShutdown
import LiriSession.ShellStart

/-! The shell and the session that it belongs to: how often the loss of its name on the bus
brings the session down, whatever becomes of its process. -/
namespace LiriSession
open Library Shell

namespace ShellPlugin

def requests (plugin : ShellPlugin) : Nat := plugin.calls.count .shutdownRequested

/-- The bus reports that the shell has lost its name. -/
def unregisters : Notification → Bool
  | .serviceUnregistered serviceName => serviceName = shellServiceName
  | _ => false

/-- Whether this is reported in the course of an event; the loop nested in `start` handles
what arrives while it runs. -/
def loses : Event → Bool
  | .start installed attempts =>
    installed && match lastAttempt attempts with
      | some (.started nested) => nested.any unregisters
      | _ => false
  | .stop _ => false
  | .notification notification => unregisters notification

/-- The end of the session has been asked for, once, if the name has been lost. -/
structure Asked (lost : Bool) (plugin : ShellPlugin) : Prop where
  hears : plugin.hearsUnregistered = !lost
  requests : plugin.requests = if lost then 1 else 0

theorem Asked.call {lost : Bool} {plugin : ShellPlugin} (asked : Asked lost plugin) (made : Call)
    (other : made ≠ .shutdownRequested) : Asked lost (plugin.call made) := by
  refine ⟨asked.hears,?_⟩
  rw [← asked.requests]
  simp [ShellPlugin.requests,ShellPlugin.call,other]

theorem Asked.launch {lost : Bool} {plugin : ShellPlugin} (asked : Asked lost plugin) :
    Asked lost plugin.launch := by
  unfold ShellPlugin.launch
  split
  · have made := asked.call .launch (by decide)
    exact ⟨made.hears,made.requests⟩
  · exact asked

theorem Asked.processCrashed {lost : Bool} {plugin : ShellPlugin} (asked : Asked lost plugin)
    (error : ProcessError) : Asked lost (plugin.processCrashed error) := by
  cases error with
  | crashed =>
    dsimp only [ShellPlugin.processCrashed]
    split
    · split
      · have quiet : Asked lost { plugin with
            quitLoop := true
            m_watchDogCounter := plugin.m_watchDogCounter - 1 } := ⟨asked.hears,asked.requests⟩
        exact quiet.launch
      · exact ⟨asked.hears,asked.requests⟩
    · exact ⟨asked.hears,asked.requests⟩
  | failedToStart => exact ⟨asked.hears,asked.requests⟩
  | timedout => exact asked
  | readError => exact asked
  | writeError => exact asked
  | unknownError => exact asked

theorem Asked.unaware {lost : Bool} {plugin : ShellPlugin} (asked : Asked lost plugin)
    (notification : Notification) (other : unregisters notification = false) :
    Asked (lost || unregisters notification) plugin := by
  rw [other,Bool.or_false]
  exact asked

theorem Asked.notify {lost : Bool} {plugin next : ShellPlugin} (asked : Asked lost plugin)
    (notification : Notification) (taken : plugin.notify notification = some next) :
    Asked (lost || unregisters notification) next := by
  have dead : Asked lost { plugin with process := .notRunning } := ⟨asked.hears,asked.requests⟩
  cases notification with
  | started =>
    obtain ⟨_,same⟩ := Option.ite_none_right_eq_some.mp taken
    cases same
    have up : Asked lost { plugin with process := .running } := ⟨asked.hears,asked.requests⟩
    exact up.unaware .started rfl
  | failedToStart =>
    obtain ⟨_,same⟩ := Option.ite_none_right_eq_some.mp taken
    cases same
    exact (dead.processCrashed .failedToStart).unaware _ rfl
  | crashed =>
    obtain ⟨_,same⟩ := Option.ite_none_right_eq_some.mp taken
    cases same
    exact (dead.processCrashed .crashed).unaware _ rfl
  | exited =>
    obtain ⟨_,same⟩ := Option.ite_none_right_eq_some.mp taken
    cases same
    exact dead.unaware _ rfl
  | error error =>
    obtain ⟨_,same⟩ := Option.ite_none_left_eq_some.mp taken
    cases same
    exact (asked.processCrashed error).unaware _ rfl
  | serviceRegistered serviceName =>
    cases taken
    apply Asked.unaware _ _ rfl
    unfold handleServiceRegistered
    split <;> (try split) <;> exact ⟨asked.hears,asked.requests⟩
  | serviceUnregistered serviceName =>
    cases taken
    cases lost with
    | true =>
      have deaf : plugin.hearsUnregistered = false := asked.hears
      rw [deaf,if_neg (by decide),Bool.true_or]
      exact asked
    | false =>
      have hears : plugin.hearsUnregistered = true := asked.hears
      have none : plugin.requests = 0 := asked.requests
      rw [hears,if_pos rfl,Bool.false_or,unregisters,handleServiceUnregistered]
      by_cases own : serviceName = shellServiceName
      · rw [if_pos own,decide_eq_true own]
        refine ⟨rfl,?_⟩
        rw [ShellPlugin.requests,ShellPlugin.call,List.count_append]
        change plugin.requests + 1 = 1
        rw [none]
      · rw [if_neg own,decide_eq_false own]
        exact asked
  | quit =>
    cases taken
    have told : Asked lost { plugin with quitLoop := true } := ⟨asked.hears,asked.requests⟩
    exact told.unaware .quit rfl

theorem Asked.runLoop {lost : Bool} {plugin final : ShellPlugin} (asked : Asked lost plugin)
    (nested : List Notification) (ran : plugin.runLoop nested = some final) :
    Asked (lost || nested.any unregisters) final := by
  induction nested generalizing lost plugin with
  | nil =>
    obtain ⟨_,same⟩ := Option.ite_none_right_eq_some.mp ran
    cases same
    simpa using asked
  | cons notification rest ih =>
    obtain ⟨next,taken,later⟩ := Option.bind_eq_some_iff.mp ran
    rw [List.any_cons,← Bool.or_assoc]
    exact ih (asked.notify notification taken) later

theorem loses_later (attempt : Attempt) (attempts : List Attempt)
    (unstarted : ∀ nested, attempt ≠ .started nested) :
    loses (.start true (attempt::attempts)) = loses (.start true attempts) := by
  cases attempts with
  | nil =>
    cases attempt with
    | started nested => exact absurd rfl (unstarted nested)
    | failed => rfl
    | timedOut => rfl
  | cons second rest =>
    cases attempt with
    | started nested => exact absurd rfl (unstarted nested)
    | failed => rfl
    | timedOut => rfl

/-- The retry loop asks for nothing by itself; only the loop that it enters at last can. -/
theorem Asked.startLoop {lost : Bool} {plugin : ShellPlugin} (asked : Asked lost plugin) (retries : Nat)
    (attempts : List Attempt) (result : Bool × ShellPlugin)
    (ran : plugin.startLoop retries attempts = some result) :
    Asked (lost || loses (.start true attempts)) result.2 := by
  induction retries generalizing plugin attempts with
  | zero =>
    cases attempts with
    | nil =>
      cases ran
      simpa [loses,lastAttempt] using asked
    | cons => cases ran
  | succ retries ih =>
    cases attempts with
    | nil => cases ran
    | cons attempt attempts =>
      have launched := asked.launch
      unfold ShellPlugin.startLoop at ran
      dsimp only at ran
      split at ran
      next =>
        have dead : Asked lost { plugin.launch with process := .notRunning } :=
          ⟨launched.hears,launched.requests⟩
        rw [loses_later .failed attempts fun _ => Attempt.noConfusion]
        exact ih (dead.processCrashed .failedToStart) attempts ran
      next =>
        rw [loses_later .timedOut attempts fun _ => Attempt.noConfusion]
        exact ih launched attempts ran
      next nested _ =>
        obtain ⟨final,entered,same⟩ := Option.map_eq_some_iff.mp ran
        have ready : Asked lost { plugin.launch with process := .running, quitLoop := false } :=
          ⟨launched.hears,launched.requests⟩
        rw [← same]
        exact ready.runLoop nested entered
      next nested _ =>
        obtain ⟨final,entered,same⟩ := Option.map_eq_some_iff.mp ran
        have ready : Asked lost { plugin.launch with quitLoop := false } :=
          ⟨launched.hears,launched.requests⟩
        rw [← same]
        exact ready.runLoop nested entered
      next => cases ran

theorem Asked.stop {lost : Bool} {plugin after : ShellPlugin} (asked : Asked lost plugin)
    (outcome : StopOutcome) (stopped : plugin.stop outcome = some after) : Asked lost after := by
  obtain ⟨waited,done,rfl⟩ := Option.map_eq_some_iff.mp stopped
  have stopping : Asked lost { plugin with m_stopping := true } := ⟨asked.hears,asked.requests⟩
  have terminated := stopping.call .terminate (by decide)
  have dead : Asked lost { { plugin with m_stopping := true }.call .terminate with process := .notRunning } :=
    ⟨terminated.hears,terminated.requests⟩
  have kept : Asked lost waited.2 := by
    unfold waitForFinished at done
    split at done
    next => exact Option.some.inj done ▸ terminated
    next => cases done
    next => exact Option.some.inj done ▸ dead.processCrashed .crashed
    next => exact Option.some.inj done ▸ dead
    next => exact Option.some.inj done ▸ dead.processCrashed .failedToStart
    next => exact Option.some.inj done ▸ terminated
    next => exact Option.some.inj done ▸ ⟨terminated.hears,terminated.requests⟩
    next => exact Option.some.inj done ▸ terminated
    next => cases done
  dsimp only
  split
  · exact ⟨kept.hears,kept.requests⟩
  · have killed := kept.call .kill (by decide)
    exact ⟨killed.hears,killed.requests⟩

theorem Asked.step {lost : Bool} {plugin next : ShellPlugin} (asked : Asked lost plugin) (event : Event)
    (taken : ShellPlugin.step plugin event = some next) : Asked (lost || loses event) next := by
  cases event with
  | start installed attempts =>
    obtain ⟨result,ran,rfl⟩ := Option.map_eq_some_iff.mp taken
    cases installed with
    | true => exact asked.startLoop 5 attempts result ran
    | false =>
      cases ran
      simpa [loses] using asked
  | stop outcome => simpa [loses] using asked.stop outcome taken
  | notification notification => exact asked.notify notification taken

end ShellPlugin

/-- The session in its main loop with its shell module, and what has happened to the shell
since. The calls of `Session::shutdown` that others have asked for are counted. -/
structure ShellSession where
  session : Session
  shell : ShellPlugin
  past : List ShellPlugin.Event := []
  others : Nat := 0

namespace ShellSession
open ShellPlugin

inductive Event
  | shell (event : ShellPlugin.Event)
  | trigger (trigger : Session.ShutdownTrigger)

/-- The requests that the shell module makes in an event reach the session, if it is
connected to them. -/
def step (behaviour : Session.Behaviour) (module : QObject) (state : ShellSession) :
    Event → Option ShellSession
  | .shell event => (ShellPlugin.step state.shell event).map fun shell => { state with
      shell
      past := state.past ++ [event]
      session := (fun session => session.deliver behaviour (.shutdownRequested module))^[
        shell.requests - state.shell.requests] state.session }
  | .trigger trigger => some { state with
      session := state.session.deliver behaviour trigger
      others := state.others + Session.invocations state.session.connected trigger }

/-- The name is lost in the main loop for the first time. -/
def losesNow (before : List ShellPlugin.Event) (state : ShellSession) : Bool :=
  !before.any loses && state.past.any loses

/-- Everything that was loaded is stopped once for each cause: what the others asked for, and
the loss of the name, however often the shell has crashed or been launched again. -/
structure EndsOnce (behaviour : Session.Behaviour) (module : QObject) (session : Session)
    (before : List ShellPlugin.Event) (state : ShellSession) : Prop where
  session : state.session = (Session.shutdown behaviour)^[state.others +
    if losesNow before state then session.connected.count module else 0] session
  asked : Asked (before.any loses || state.past.any loses) state.shell

theorem shutdowns_connected (behaviour : Session.Behaviour) (n : Nat) (session : Session) :
    ((Session.shutdown behaviour)^[n] session).connected = session.connected := by
  rw [Session.shutdowns_eq]

theorem endsOnce_step (behaviour : Session.Behaviour) (module : QObject) (session : Session)
    (before : List ShellPlugin.Event) (state next : ShellSession) (event : Event)
    (ends : EndsOnce behaviour module session before state)
    (taken : step behaviour module state event = some next) :
    EndsOnce behaviour module session before next := by
  obtain ⟨rounds,asked⟩ := ends
  have connected : state.session.connected = session.connected := by
    rw [rounds,shutdowns_connected]
  cases event with
  | shell event =>
    obtain ⟨shell,moved,rfl⟩ := Option.map_eq_some_iff.mp taken
    have after := asked.step event moved
    rw [Bool.or_assoc] at after
    have past : (state.past ++ [event]).any loses = (state.past.any loses || loses event) := by simp
    refine ⟨?_,by rw [past]; exact after⟩
    unfold losesNow at rounds ⊢
    dsimp only
    rw [past,after.requests,asked.requests]
    cases early : before.any loses with
    | true => simpa [early] using rounds
    | false =>
      cases lost : state.past.any loses with
      | true => simpa [early,lost] using rounds
      | false =>
        cases loses event with
        | false => simpa [early,lost] using rounds
        | true =>
          -- this is the one event that reaches the slot of the service watcher
          have so_far : state.session = (Session.shutdown behaviour)^[state.others] session := by
            simpa [early,lost] using rounds
          change state.session.deliver behaviour (.shutdownRequested module) = _
          rw [Session.deliver,Session.invocations,connected,so_far,← Function.iterate_add_apply,Nat.add_comm]
          rfl
  | trigger trigger =>
    cases taken
    refine ⟨?_,asked⟩
    unfold losesNow at rounds ⊢
    dsimp only
    rw [Session.deliver,connected,rounds,← Function.iterate_add_apply]
    congr 1
    omega

/-- Whatever happened to the shell before, its start included. -/
theorem asked_run (before : List ShellPlugin.Event) (lost : Bool) (plugin shell : ShellPlugin)
    (asked : Asked lost plugin) (ran : run ShellPlugin.step plugin before = some shell) :
    Asked (lost || before.any loses) shell := by
  induction before generalizing lost plugin with
  | nil =>
    cases ran
    simpa using asked
  | cons event before ih =>
    obtain ⟨next,taken,later⟩ := run_cons_some ShellPlugin.step plugin shell event before ran
    rw [List.any_cons,← Bool.or_assoc]
    exact ih _ next (asked.step event taken) later

/-- Whatever the shell has been through before the main loop, and in every run of the loop,
the module asks for the end of the session once if its name has been lost, and never else. -/
theorem ends_once_along (behaviour : Session.Behaviour) (module : QObject) (session : Session)
    (before : List ShellPlugin.Event) (shell : ShellPlugin)
    (started : run ShellPlugin.step {} before = some shell) (events : List Event) :
    Along (step behaviour module) (EndsOnce behaviour module session before) { session, shell } events := by
  have asked := asked_run before false {} shell ⟨rfl,rfl⟩ started
  have first : EndsOnce behaviour module session before { session, shell } :=
    ⟨by simp [losesNow],by simpa using asked⟩
  exact along_of_steps (step behaviour module) (fun state _ => EndsOnce behaviour module session before state)
    (EndsOnce behaviour module session before) (fun _ _ => True)
    (fun state event _ next ends _ taken =>
      endsOnce_step behaviour module session before state next event ends taken)
    (fun _ _ ends => ends) { session, shell } events first (steps_of_all _ _ _ events fun _ _ _ => trivial)

/-- A crash that the watchdog answers ends the session all the same. -/
theorem ends_once_after_crash : Along (step (Session.shellBehaviour []) Session.shellModule)
    (EndsOnce (Session.shellBehaviour []) Session.shellModule (Session.shellSession []).2 ShellPlugin.started)
    { session := (Session.shellSession []).2
      shell := { process := .running, quitLoop := true, hearsRegistered := false, calls := [.launch] } }
    [.shell (.notification .crashed),.shell (.notification (.serviceUnregistered "io.liri.Shell"))] :=
  ends_once_along _ _ _ ShellPlugin.started _ rfl _

end ShellSession

end LiriSession
