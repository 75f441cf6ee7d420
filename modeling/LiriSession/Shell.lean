import LiriSession.Library.Run

/-! The shell module of the session: its start with retries and a nested event loop, the
watchdog that launches a crashed shell again, and its stop. What the process and the
bus do is a list of notifications, in the order in which they are handled. -/
namespace LiriSession
open Library

namespace Shell

inductive ProcessState
  | notRunning
  | starting
  | running
deriving DecidableEq, Repr

inductive ProcessError
  | failedToStart
  | crashed
  | timedout
  | readError
  | writeError
  | unknownError
deriving DecidableEq, Repr

inductive Call
  | launch
  | terminate
  | kill
  | shutdownRequested
deriving DecidableEq, Repr

end Shell

open Shell

/-- The members of `ShellPlugin`: the state of its process, whether its loop has been
told to quit, and which signals of the service watcher are still connected. -/
structure ShellPlugin where
  m_watchDogCounter : Int := 3
  m_stopping : Bool := false
  process : ProcessState := .notRunning
  quitLoop : Bool := false
  hearsRegistered : Bool := true
  hearsUnregistered : Bool := true
  calls : List Call := []

namespace ShellPlugin

def call (plugin : ShellPlugin) (made : Call) : ShellPlugin := { plugin with calls := plugin.calls ++ [made] }

/-- `QProcess::start`, which is refused while the process is not in state NotRunning. -/
def launch (plugin : ShellPlugin) : ShellPlugin :=
  if plugin.process = .notRunning then { plugin.call .launch with process := .starting } else plugin

def processCrashed (plugin : ShellPlugin) (error : ProcessError) : ShellPlugin :=
  match error with
  | .failedToStart => { plugin with quitLoop := true }
  | .crashed =>
    let plugin := { plugin with quitLoop := true }
    if plugin.process = .notRunning ∧ plugin.m_stopping = false then
      let again := plugin.m_watchDogCounter > 0
      let plugin := { plugin with m_watchDogCounter := plugin.m_watchDogCounter - 1 }
      if again then plugin.launch else plugin
    else plugin
  | _ => plugin

def shellServiceName : String := "io.liri.Shell"

def handleServiceRegistered (plugin : ShellPlugin) (serviceName : String) : ShellPlugin :=
  if serviceName = shellServiceName then { plugin with hearsRegistered := false, quitLoop := true }
  else plugin

def handleServiceUnregistered (plugin : ShellPlugin) (serviceName : String) : ShellPlugin :=
  if serviceName = shellServiceName then
    { plugin with hearsUnregistered := false }.call .shutdownRequested
  else plugin

inductive Notification
  | started
  | failedToStart
  | crashed
  | exited (exitCode : Int)
  | error (error : ProcessError)
  | serviceRegistered (serviceName : String)
  | serviceUnregistered (serviceName : String)
  | quit

/-- A dead process is reported in state NotRunning. -/
def notify (plugin : ShellPlugin) : Notification → Option ShellPlugin
  | .started => if plugin.process = .starting then some { plugin with process := .running } else none
  | .failedToStart =>
    if plugin.process = .starting then
      some ({ plugin with process := .notRunning }.processCrashed .failedToStart)
    else none
  | .crashed =>
    if plugin.process = .running then
      some ({ plugin with process := .notRunning }.processCrashed .crashed)
    else none
  | .exited _ =>
    if plugin.process = .running then some { plugin with process := .notRunning } else none
  | .error error =>
    if error ∈ [.failedToStart,.crashed] then none else some (plugin.processCrashed error)
  | .serviceRegistered serviceName =>
    some (if plugin.hearsRegistered then plugin.handleServiceRegistered serviceName else plugin)
  | .serviceUnregistered serviceName =>
    some (if plugin.hearsUnregistered then plugin.handleServiceUnregistered serviceName else plugin)
  | .quit => some { plugin with quitLoop := true }

/-- One turn of the retry loop: `waitForStarted` reports a failure, gives up waiting
while the process is still starting, or succeeds, and the plugin's loop is entered. -/
inductive Attempt
  | failed
  | timedOut
  | started (nested : List Notification)

/-- The plugin's loop ends when it has been told to quit; what is reported in the same
turn is still handled. -/
def runLoop (plugin : ShellPlugin) : List Notification → Option ShellPlugin
  | [] => if plugin.quitLoop then some plugin else none
  | notification::rest => (plugin.notify notification).bind (runLoop · rest)

def startLoop (plugin : ShellPlugin) : Nat → List Attempt → Option (Bool × ShellPlugin)
  | 0, [] => some (false,plugin)
  | retries+1, attempt::attempts =>
    let plugin := plugin.launch
    match attempt,plugin.process with
    | .failed,.starting =>
      startLoop ({ plugin with process := .notRunning }.processCrashed .failedToStart) retries attempts
    | .timedOut,.starting => startLoop plugin retries attempts
    | .started nested,.starting =>
      (runLoop { plugin with process := .running, quitLoop := false } nested).map fun plugin =>
        (plugin.process = .running,plugin)
    | .started nested,.running =>
      (runLoop { plugin with quitLoop := false } nested).map fun plugin =>
        (plugin.process = .running,plugin)
    | _,_ => none
  | _, _ => none

def start (plugin : ShellPlugin) (installed : Bool) (attempts : List Attempt) :
    Option (Bool × ShellPlugin) :=
  if installed then plugin.startLoop 5 attempts else some (false,plugin)

/-- What `waitForFinished` meets: no process, the end of the process, its failure to
start, or a process that is still alive when the time is up. -/
inductive StopOutcome
  | absent
  | ended (crashed : Bool)
  | failedToStart
  | timedOut (state : ProcessState)

def waitForFinished (plugin : ShellPlugin) (outcome : StopOutcome) : Option (Bool × ShellPlugin) :=
  match outcome,plugin.process with
  | .absent,.notRunning => some (false,plugin)
  | .ended _,.notRunning => none
  | .ended true,_ => some (true,{ plugin with process := .notRunning }.processCrashed .crashed)
  | .ended false,_ => some (true,{ plugin with process := .notRunning })
  | .failedToStart,.starting =>
    some (false,{ plugin with process := .notRunning }.processCrashed .failedToStart)
  | .timedOut .starting,.starting => some (false,plugin)
  | .timedOut .running,.starting => some (false,{ plugin with process := .running })
  | .timedOut .running,.running => some (false,plugin)
  | _,_ => none

def stop (plugin : ShellPlugin) (outcome : StopOutcome) : Option ShellPlugin :=
  let plugin := { plugin with m_stopping := true }.call .terminate
  (plugin.waitForFinished outcome).map fun waited =>
    let plugin := if waited.1 then waited.2 else waited.2.call .kill
    { plugin with m_stopping := false }

inductive Event
  | start (installed : Bool) (attempts : List Attempt)
  | stop (outcome : StopOutcome)
  | notification (notification : Notification)

def step (plugin : ShellPlugin) : Event → Option ShellPlugin
  | .start installed attempts => (plugin.start installed attempts).map Prod.snd
  | .stop outcome => plugin.stop outcome
  | .notification notification => plugin.notify notification

def isStart : Event → Bool
  | .start _ _ => true
  | _ => false

def launches (plugin : ShellPlugin) : Nat := plugin.calls.count .launch

/-- From the entry of `stop` on, nothing is launched before the next start. -/
def StaysStopped (plugin after : ShellPlugin) : Prop :=
  ∀ events, (∀ event ∈ events, isStart event = false) →
    ∀ final, run step after events = some final → final.launches = plugin.launches

/-- The process is gone by the end of `stop`: there is none, it ends during the wait,
or it fails to start. -/
def EndsInTime (outcome : StopOutcome) : Prop := ∀ state, outcome ≠ .timedOut state

/-- Nothing can be launched: there is no process to crash, or the watchdog is spent. -/
structure Idle (base : Nat) (plugin : ShellPlugin) : Prop where
  spent : plugin.process = .notRunning ∨ plugin.m_watchDogCounter ≤ 0
  launches : plugin.launches = base

theorem call_launches (plugin : ShellPlugin) (made : Call) (other : made ≠ .launch) :
    (plugin.call made).launches = plugin.launches := by
  simp [launches,call,other]

theorem processCrashed_launches (plugin : ShellPlugin) (error : ProcessError)
    (unheeded : plugin.m_stopping = true ∨ plugin.m_watchDogCounter ≤ 0) :
    (plugin.processCrashed error).launches = plugin.launches ∧
      (plugin.processCrashed error).process = plugin.process ∧
      (plugin.processCrashed error).m_watchDogCounter ≤ plugin.m_watchDogCounter := by
  cases error with
  | crashed =>
    dsimp only [processCrashed]
    split
    next quiet =>
      have spent : ¬plugin.m_watchDogCounter > 0 := by
        rcases unheeded with stopping | spent
        · rw [quiet.2] at stopping
          cases stopping
        · omega
      rw [if_neg spent]
      exact ⟨rfl,rfl,by dsimp only; omega⟩
    next => exact ⟨rfl,rfl,Int.le_refl _⟩
  | failedToStart => exact ⟨rfl,rfl,Int.le_refl _⟩
  | timedout => exact ⟨rfl,rfl,Int.le_refl _⟩
  | readError => exact ⟨rfl,rfl,Int.le_refl _⟩
  | writeError => exact ⟨rfl,rfl,Int.le_refl _⟩
  | unknownError => exact ⟨rfl,rfl,Int.le_refl _⟩

theorem processCrashed_stopping (plugin : ShellPlugin) (error : ProcessError)
    (stopping : plugin.m_stopping = true) :
    (plugin.processCrashed error).m_watchDogCounter = plugin.m_watchDogCounter := by
  cases error with
  | crashed =>
    dsimp only [processCrashed]
    rw [if_neg]
    exact fun quiet => nomatch stopping.symm.trans quiet.2
  | failedToStart => rfl
  | timedout => rfl
  | readError => rfl
  | writeError => rfl
  | unknownError => rfl

theorem waitForFinished_spec (plugin : ShellPlugin) (outcome : StopOutcome)
    (waited : Bool × ShellPlugin) (stopping : plugin.m_stopping = true)
    (done : plugin.waitForFinished outcome = some waited) :
    waited.2.launches = plugin.launches ∧
      waited.2.m_watchDogCounter = plugin.m_watchDogCounter ∧
      (EndsInTime outcome ↔ waited.2.process = .notRunning) := by
  have reported (error : ProcessError) :
      let dead : ShellPlugin := { plugin with process := .notRunning }
      (dead.processCrashed error).launches = plugin.launches ∧
        (dead.processCrashed error).m_watchDogCounter = plugin.m_watchDogCounter ∧
        (dead.processCrashed error).process = .notRunning := by
    intro dead
    obtain ⟨silent,kept,_⟩ := processCrashed_launches dead error (.inl stopping)
    exact ⟨silent,processCrashed_stopping dead error stopping,kept⟩
  have late (state : ProcessState) (alive : plugin.process ≠ .notRunning) :
      EndsInTime (.timedOut state) ↔ plugin.process = .notRunning :=
    ⟨fun ends => absurd rfl (ends state),fun dead => absurd dead alive⟩
  have soon (other : StopOutcome) (ends : ∀ state, other ≠ .timedOut state) (process : ProcessState)
      (dead : process = .notRunning) : EndsInTime other ↔ process = .notRunning :=
    ⟨fun _ => dead,fun _ => ends⟩
  unfold waitForFinished at done
  split at done
  next absent =>
    cases done
    exact ⟨rfl,rfl,soon .absent (by simp) _ absent⟩
  next => cases done
  next =>
    cases done
    obtain ⟨silent,kept,gone⟩ := reported .crashed
    exact ⟨silent,kept,soon (.ended true) (by simp) _ gone⟩
  next =>
    cases done
    exact ⟨rfl,rfl,soon (.ended false) (by simp) _ rfl⟩
  next =>
    cases done
    obtain ⟨silent,kept,gone⟩ := reported .failedToStart
    exact ⟨silent,kept,soon .failedToStart (by simp) _ gone⟩
  next alive =>
    cases done
    exact ⟨rfl,rfl,late _ (by rw [alive]; decide)⟩
  next =>
    cases done
    exact ⟨rfl,rfl,⟨fun ends => absurd rfl (ends .running),fun dead => nomatch dead⟩⟩
  next alive =>
    cases done
    exact ⟨rfl,rfl,late _ (by rw [alive]; decide)⟩
  next => cases done

theorem stop_spec (plugin after : ShellPlugin) (outcome : StopOutcome)
    (stopped : plugin.stop outcome = some after) :
    after.launches = plugin.launches ∧ after.m_stopping = false ∧
      after.m_watchDogCounter = plugin.m_watchDogCounter ∧
      (EndsInTime outcome ↔ after.process = .notRunning) := by
  obtain ⟨waited,done,rfl⟩ := Option.map_eq_some_iff.mp stopped
  obtain ⟨silent,kept,ends⟩ := waitForFinished_spec
    ({ plugin with m_stopping := true }.call .terminate) outcome waited rfl done
  have asked : ({ plugin with m_stopping := true }.call .terminate).launches = plugin.launches :=
    call_launches { plugin with m_stopping := true } .terminate (by decide)
  have killed := call_launches waited.2 .kill (by decide)
  dsimp only
  split
  · exact ⟨silent.trans asked,rfl,kept,ends⟩
  · exact ⟨killed.trans (silent.trans asked),rfl,kept,ends⟩

theorem idle_notify (base : Nat) (plugin next : ShellPlugin) (notification : Notification)
    (idle : Idle base plugin) (taken : plugin.notify notification = some next) : Idle base next := by
  cases notification with
  | started =>
    obtain ⟨alive,same⟩ := Option.ite_none_right_eq_some.mp taken
    cases same
    have spent := idle.spent.resolve_left (by rw [alive]; decide)
    exact ⟨.inr spent,idle.launches⟩
  | failedToStart =>
    obtain ⟨_,same⟩ := Option.ite_none_right_eq_some.mp taken
    cases same
    exact ⟨.inl rfl,idle.launches⟩
  | crashed =>
    obtain ⟨alive,same⟩ := Option.ite_none_right_eq_some.mp taken
    have spent := idle.spent.resolve_left (by rw [alive]; decide)
    obtain ⟨silent,gone,_⟩ :=
      processCrashed_launches { plugin with process := .notRunning } .crashed (.inr spent)
    cases same
    exact ⟨.inl gone,silent.trans idle.launches⟩
  | exited exitCode =>
    obtain ⟨_,same⟩ := Option.ite_none_right_eq_some.mp taken
    cases same
    exact ⟨.inl rfl,idle.launches⟩
  | error error =>
    obtain ⟨other,same⟩ := Option.ite_none_left_eq_some.mp taken
    have unchanged : plugin.processCrashed error = plugin := by
      cases error <;> first | rfl | exact absurd (by decide) other
    rw [← Option.some.inj same,unchanged]
    exact idle
  | serviceRegistered serviceName =>
    cases taken
    unfold handleServiceRegistered
    split
    · split
      · exact ⟨idle.spent,idle.launches⟩
      · exact idle
    · exact idle
  | serviceUnregistered serviceName =>
    cases taken
    unfold handleServiceUnregistered
    split
    · split
      · have silent := call_launches { plugin with hearsUnregistered := false } .shutdownRequested (by decide)
        exact ⟨idle.spent,silent.trans idle.launches⟩
      · exact idle
    · exact idle
  | quit =>
    cases taken
    exact ⟨idle.spent,idle.launches⟩

theorem idle_step (base : Nat) (plugin next : ShellPlugin) (event : Event)
    (later : isStart event = false) (idle : Idle base plugin) (taken : step plugin event = some next) :
    Idle base next := by
  cases event with
  | start => cases later
  | stop outcome =>
    obtain ⟨silent,_,kept,ends⟩ := stop_spec plugin next outcome taken
    apply Idle.mk
    · rcases idle.spent with gone | spent
      · -- nothing runs, so the wait cannot run out of time
        refine .inl (ends.mp ?_)
        intro state late
        change plugin.stop outcome = some next at taken
        cases state <;> simp [late,stop,waitForFinished,call,gone] at taken
      · rw [kept]
        exact .inr spent
    · exact silent.trans idle.launches
  | notification notification => exact idle_notify base plugin next notification idle taken

theorem crashed_relaunches (plugin : ShellPlugin) (alive : plugin.process = .running)
    (up : plugin.m_stopping = false) (watched : 0 < plugin.m_watchDogCounter) :
    ∃ next, plugin.notify .crashed = some next ∧ next.launches = plugin.launches + 1 := by
  refine ⟨_,if_pos alive,?_⟩
  have again : plugin.m_watchDogCounter > 0 := watched
  simp only [processCrashed,up,again,and_self,if_true,launch,launches,call,List.count_append]
  rfl

/-- A process that outlives `stop` is reported dead when the flag is down again. -/
theorem alive_relaunched (plugin : ShellPlugin) (alive : plugin.process ≠ .notRunning)
    (up : plugin.m_stopping = false) (watched : 0 < plugin.m_watchDogCounter) :
    ∃ events final, (∀ event ∈ events, isStart event = false) ∧ run step plugin events = some final ∧
      final.launches = plugin.launches + 1 := by
  cases process : plugin.process with
  | notRunning => exact absurd process alive
  | running =>
    obtain ⟨final,crashed,more⟩ := crashed_relaunches plugin process up watched
    refine ⟨[.notification .crashed],final,by simp [isStart],?_,more⟩
    rw [run_cons]
    change (plugin.notify .crashed).bind _ = _
    rw [crashed]
    rfl
  | starting =>
    let started : ShellPlugin := { plugin with process := .running }
    obtain ⟨final,crashed,more⟩ := crashed_relaunches started rfl up watched
    have first : step plugin (.notification .started) = some started := if_pos process
    refine ⟨[.notification .started,.notification .crashed],final,by simp [isStart],?_,more⟩
    rw [run_cons,first,Option.bind_some,run_cons]
    change (started.notify .crashed).bind _ = _
    rw [crashed]
    rfl

theorem idle_run (base : Nat) (plugin final : ShellPlugin) (events : List Event)
    (later : ∀ event ∈ events, isStart event = false) (idle : Idle base plugin)
    (ran : run step plugin events = some final) : Idle base final :=
  run_steps_invariant step (fun state _ => Idle base state) (fun _ event => isStart event = false)
    (fun state event _ next idle later taken => idle_step base state next event later idle taken)
    plugin final events idle
    (steps_of_all step _ plugin events fun event member _ => later event member) ran

/-- After `stop` nothing is launched before the next start exactly when the process ended
in time or the watchdog is spent. -/
theorem staysStopped_iff (plugin after : ShellPlugin) (outcome : StopOutcome)
    (stopped : plugin.stop outcome = some after) :
    StaysStopped plugin after ↔ EndsInTime outcome ∨ plugin.m_watchDogCounter ≤ 0 := by
  obtain ⟨silent,up,kept,ends⟩ := stop_spec plugin after outcome stopped
  apply Iff.intro
  · intro stays
    by_cases gone : EndsInTime outcome
    · exact .inl gone
    · refine .inr (Int.not_lt.mp ?_)
      intro watched
      rw [← kept] at watched
      obtain ⟨events,final,later,ran,more⟩ :=
        alive_relaunched after (fun dead => gone (ends.mpr dead)) up watched
      have none := stays events later final ran
      omega
  · intro condition events later final ran
    have idle : Idle plugin.launches after := by
      apply Idle.mk
      · rcases condition with soon | spent
        · exact .inl (ends.mp soon)
        · rw [kept]
          exact .inr spent
      · exact silent
    exact (idle_run plugin.launches after final events later idle ran).launches

def started : List Event := [.start true [.started [.serviceRegistered "io.liri.Shell"]]]

theorem killed_shell_relaunched : ∃ plugin after, run step {} started = some plugin ∧
    plugin.stop (.timedOut .running) = some after ∧ ¬StaysStopped plugin after := by
  refine ⟨_,_,rfl,rfl,?_⟩
  intro stays
  have none := stays [.notification .crashed] (by simp [isStart]) _ rfl
  exact absurd none (by decide)

theorem terminated_shell_stays_stopped : ∃ plugin after, run step {} started = some plugin ∧
    plugin.stop (.ended true) = some after ∧ StaysStopped plugin after :=
  ⟨_,_,rfl,rfl,(staysStopped_iff _ _ (.ended true) rfl).mpr (.inl fun _ same => nomatch same)⟩

end ShellPlugin

end LiriSession
