import LiriSession.Library.Run

/-! Session managers on one bus. Each registers three names one after the other, goes on
without the first of them and gives up without the others; at its end the names are
released one after the other too. Anything can happen in between. -/
namespace LiriSession
open Library

/-- Who can own a name: a session manager or another program. -/
inductive BusClient
  | session (process : Nat)
  | other (program : Nat)
deriving DecidableEq, Repr

namespace BusClient

def screenSaver : String := "org.freedesktop.ScreenSaver"

def launcher : String := "io.liri.Launcher"

def manager : String := "io.liri.SessionManager"

end BusClient

/-- How far a session manager has got, from its constructor to the end of its destructor. -/
inductive InstanceStage
  | constructed
  | unregistering
  | screenSaver
  | launcher
  | manager
  | failed
  | leaving
  | modulesDeleted
  | launcherDeleted
  | screenSaverDeleted
  | managerDeleted
deriving DecidableEq, Repr

/-- The owners of the names, and the session managers that are connected. -/
structure SessionInstances where
  owner : String → Option BusClient := fun _ => none
  stage : Nat → Option InstanceStage := fun _ => none

namespace SessionInstances
open BusClient

/-- The steps of a session manager, for which the bus has the answer except that it cannot
know whether an object is exported; it is disconnected when its process ends or is killed. -/
inductive Event
  | construct (process : Nat)
  | registerScreenSaver (process : Nat) (exported : Bool)
  | unregisterScreenSaver (process : Nat)
  | registerLauncher (process : Nat) (exported : Bool)
  | registerManager (process : Nat) (exported : Bool)
  | leave (process : Nat)
  | deleteModules (process : Nat)
  | deleteLauncher (process : Nat)
  | deleteScreenSaver (process : Nat)
  | deleteManager (process : Nat)
  | disconnect (process : Nat)
  | request (program : Nat) (name : String)
  | release (program : Nat) (name : String)

/-- A name is given to the first who asks for it; nobody waits for one. -/
def granted (instances : SessionInstances) (client : BusClient) (name : String) : Bool :=
  instances.owner name = none || instances.owner name = some client

def registerService (instances : SessionInstances) (client : BusClient) (name : String) : SessionInstances :=
  { instances with owner := fun other =>
      if other = name ∧ instances.granted client name = true then some client else instances.owner other }

def unregisterService (instances : SessionInstances) (client : BusClient) (name : String) : SessionInstances :=
  { instances with owner := fun other =>
      if other = name ∧ instances.owner name = some client then none else instances.owner other }

def enter (instances : SessionInstances) (process : Nat) (stage : Option InstanceStage) : SessionInstances :=
  { instances with stage := fun other => if other = process then stage else instances.stage other }

/-- `registerWithDBus` of an object whose failure is not ignored. -/
def register (instances : SessionInstances) (process : Nat) (name : String) (exported : Bool)
    (stage : InstanceStage) : SessionInstances :=
  let registered := instances.registerService (.session process) name
  if instances.granted (.session process) name && exported then registered.enter process (some stage)
  else registered.enter process (some .failed)

def screenSaverRegistered (instances : SessionInstances) (process : Nat) (exported : Bool) :
    SessionInstances :=
  let registered := instances.registerService (.session process) BusClient.screenSaver
  if instances.granted (.session process) BusClient.screenSaver && !exported
    then registered.enter process (some .unregistering)
    else registered.enter process (some .screenSaver)

def disconnect (instances : SessionInstances) (process : Nat) : SessionInstances :=
  { instances.enter process none with
    owner := fun name =>
      if instances.owner name = some (.session process) then none else instances.owner name }

/-- The destructors run in the order in which the objects were made. -/
def step (instances : SessionInstances) : Event → Option SessionInstances
  | .construct process =>
    if instances.stage process = none then some (instances.enter process (some .constructed)) else none
  | .registerScreenSaver process exported =>
    if instances.stage process = some .constructed
      then some (instances.screenSaverRegistered process exported) else none
  | .unregisterScreenSaver process =>
    if instances.stage process = some .unregistering
      then some ((instances.unregisterService (.session process) BusClient.screenSaver).enter process
        (some .screenSaver)) else none
  | .registerLauncher process exported =>
    if instances.stage process = some .screenSaver
      then some (instances.register process BusClient.launcher exported .launcher) else none
  | .registerManager process exported =>
    if instances.stage process = some .launcher
      then some (instances.register process BusClient.manager exported .manager) else none
  | .leave process =>
    if instances.stage process = some .manager then some (instances.enter process (some .leaving)) else none
  | .deleteModules process =>
    if instances.stage process = some .leaving ∨ instances.stage process = some .failed
      then some (instances.enter process (some .modulesDeleted)) else none
  | .deleteLauncher process =>
    if instances.stage process = some .modulesDeleted
      then some ((instances.unregisterService (.session process) BusClient.launcher).enter process
        (some .launcherDeleted)) else none
  | .deleteScreenSaver process =>
    if instances.stage process = some .launcherDeleted
      then some ((instances.unregisterService (.session process) BusClient.screenSaver).enter process
        (some .screenSaverDeleted)) else none
  | .deleteManager process =>
    if instances.stage process = some .screenSaverDeleted
      then some ((instances.unregisterService (.session process) BusClient.manager).enter process
        (some .managerDeleted)) else none
  | .disconnect process => some (instances.disconnect process)
  | .request program name => some (instances.registerService (.other program) name)
  | .release program name => some (instances.unregisterService (.other program) name)

/-- The plugins are loaded once both names are registered. -/
def hasModules (instances : SessionInstances) (process : Nat) : Bool :=
  instances.stage process = some .manager || instances.stage process = some .leaving

/-- At most one session manager has modules, and both names are its own; where another
session manager can be in the way of one that has got the launcher's name, it has lost this
name already. -/
structure Exclusive (instances : SessionInstances) : Prop where
  one : ∀ first second, instances.hasModules first = true → instances.hasModules second = true →
    first = second
  named : ∀ process, instances.hasModules process = true →
    instances.owner BusClient.launcher = some (.session process) ∧
      instances.owner BusClient.manager = some (.session process)
  obstacle : ∀ process other, instances.stage process = some .launcher →
    instances.owner BusClient.manager = some (.session other) →
      instances.stage other = some .launcherDeleted ∨ instances.stage other = some .screenSaverDeleted

def owns (instances : SessionInstances) (process : Nat) (name : String) : Prop :=
  instances.owner name = some (.session process)

/-- What the stage of a session manager says about two of its names. -/
structure Fits (stage : Option InstanceStage) (hasLauncher hasManager : Prop) : Prop where
  launcher : stage = some .launcher ∨ stage = some .manager ∨ stage = some .leaving → hasLauncher
  manager : stage = some .manager ∨ stage = some .leaving → hasManager
  held : hasManager →
    hasLauncher ∧ (stage = some .manager ∨ stage = some .leaving ∨ stage = some .failed ∨
      stage = some .modulesDeleted) ∨
        stage = some .launcherDeleted ∨ stage = some .screenSaverDeleted

def Sound (instances : SessionInstances) : Prop :=
  ∀ process, Fits (instances.stage process) (instances.owns process BusClient.launcher)
    (instances.owns process BusClient.manager)

@[simp] theorem enter_owns (instances : SessionInstances) (process : Nat) (stage : Option InstanceStage)
    (other : Nat) (name : String) :
    (instances.enter process stage).owns other name ↔ instances.owns other name := Iff.rfl

@[simp] theorem enter_stage (instances : SessionInstances) (process : Nat) (stage : Option InstanceStage)
    (other : Nat) : (instances.enter process stage).stage other =
      if other = process then stage else instances.stage other := rfl

theorem registerService_owns (instances : SessionInstances) (client : BusClient) (name : String)
    (process : Nat) (other : String) : (instances.registerService client name).owns process other ↔
      instances.owns process other ∨
        client = .session process ∧ other = name ∧ instances.granted client name = true := by
  unfold registerService owns
  dsimp only
  split
  next given =>
    obtain ⟨rfl,free⟩ := given
    have taken : instances.owner other = none ∨ instances.owner other = some client := by
      simpa [granted] using free
    rcases taken with unowned | own
    · simp [unowned,free]
    · simp [own,free]
  next kept => exact ⟨.inl,fun either => either.resolve_right fun new => kept new.2⟩

theorem unregisterService_owns (instances : SessionInstances) (client : BusClient) (name : String)
    (process : Nat) (other : String) : (instances.unregisterService client name).owns process other ↔
      instances.owns process other ∧ ¬(client = .session process ∧ other = name) := by
  unfold unregisterService owns
  dsimp only
  split
  next own =>
    obtain ⟨rfl,held⟩ := own
    simp [held]
  next kept =>
    refine ⟨fun held => ⟨held,?_⟩,And.left⟩
    rintro ⟨rfl,rfl⟩
    exact kept ⟨rfl,held⟩

theorem disconnect_owns (instances : SessionInstances) (gone process : Nat) (name : String) :
    (instances.disconnect gone).owns process name ↔ instances.owns process name ∧ process ≠ gone := by
  unfold disconnect owns
  dsimp only
  split
  next held =>
    rw [held]
    simp [eq_comm]
  next kept =>
    refine ⟨fun held => ⟨held,?_⟩,And.left⟩
    rintro rfl
    exact kept held

@[simp] theorem registerService_stage (instances : SessionInstances) (client : BusClient) (name : String) :
    (instances.registerService client name).stage = instances.stage := rfl

@[simp] theorem unregisterService_stage (instances : SessionInstances) (client : BusClient) (name : String) :
    (instances.unregisterService client name).stage = instances.stage := rfl

/-- The process that takes a step. -/
def Event.subject : Event → Option Nat
  | .construct process => some process
  | .registerScreenSaver process _ => some process
  | .unregisterScreenSaver process => some process
  | .registerLauncher process _ => some process
  | .registerManager process _ => some process
  | .leave process => some process
  | .deleteModules process => some process
  | .deleteLauncher process => some process
  | .deleteScreenSaver process => some process
  | .deleteManager process => some process
  | .disconnect process => some process
  | .request _ _ => none
  | .release _ _ => none

theorem register_stage (instances : SessionInstances) (process : Nat) (name : String) (exported : Bool)
    (stage : InstanceStage) (other : Nat) : (instances.register process name exported stage).stage other =
      if other = process then
        if (instances.granted (.session process) name && exported) = true then some stage else some .failed
      else instances.stage other := by
  unfold register
  dsimp only
  split <;> simp

theorem register_owns (instances : SessionInstances) (process : Nat) (name : String) (exported : Bool)
    (stage : InstanceStage) (other : Nat) (owned : String) :
    (instances.register process name exported stage).owns other owned ↔ instances.owns other owned ∨
      process = other ∧ owned = name ∧ instances.granted (.session process) name = true := by
  unfold register
  dsimp only
  split <;> simp [registerService_owns]

theorem screenSaverRegistered_stage (instances : SessionInstances) (process : Nat) (exported : Bool)
    (other : Nat) : (instances.screenSaverRegistered process exported).stage other =
      if other = process then
        if (instances.granted (.session process) BusClient.screenSaver && !exported) = true
          then some .unregistering else some .screenSaver
      else instances.stage other := by
  unfold screenSaverRegistered
  dsimp only
  split <;> simp

theorem screenSaverRegistered_owns (instances : SessionInstances) (process : Nat) (exported : Bool)
    (other : Nat) (owned : String) : (instances.screenSaverRegistered process exported).owns other owned ↔
      instances.owns other owned ∨ process = other ∧ owned = BusClient.screenSaver ∧
        instances.granted (.session process) BusClient.screenSaver = true := by
  unfold screenSaverRegistered
  dsimp only
  split <;> simp [registerService_owns]

@[simp] theorem disconnect_stage (instances : SessionInstances) (gone other : Nat) :
    (instances.disconnect gone).stage other = if other = gone then none else instances.stage other := rfl

/-- No session manager has a part in what another one does. -/
theorem step_others (instances next : SessionInstances) (event : Event)
    (taken : step instances event = some next) (process : Nat) (apart : event.subject ≠ some process) :
    next.stage process = instances.stage process ∧
      ∀ name, next.owns process name ↔ instances.owns process name := by
  cases event <;> simp only [step,Option.ite_none_right_eq_some,Option.some.injEq] at taken <;>
    simp only [Event.subject,ne_eq,Option.some.injEq] at apart
  all_goals
    obtain ⟨_,rfl⟩ := taken
    refine ⟨?_,fun name => ?_⟩ <;>
      simp [register_stage,register_owns,screenSaverRegistered_stage,screenSaverRegistered_owns,
        unregisterService_owns,registerService_owns,disconnect_owns,apart,Ne.symm apart]

theorem launcher_ne : BusClient.launcher ≠ BusClient.manager ∧ BusClient.launcher ≠ BusClient.screenSaver ∧
    BusClient.manager ≠ BusClient.screenSaver := by decide

/-- Its own step leaves a session manager with the names that its new stage speaks of. -/
theorem step_own (instances next : SessionInstances) (event : Event) (sound : Sound instances)
    (taken : step instances event = some next) (process : Nat) (own : event.subject = some process) :
    Fits (next.stage process) (next.owns process BusClient.launcher)
      (next.owns process BusClient.manager) := by
  obtain ⟨launcherManager,launcherScreenSaver,managerScreenSaver⟩ := launcher_ne
  obtain ⟨launcher,manager,held⟩ := sound process
  cases event <;> simp only [step,Option.ite_none_right_eq_some,Option.some.injEq] at taken <;>
    simp only [Event.subject,Option.some.injEq,reduceCtorEq] at own <;> subst own
  case disconnect =>
    subst taken
    simp only [disconnect_stage,disconnect_owns,if_pos]
    constructor <;> simp
  all_goals
    obtain ⟨allowed,rfl⟩ := taken
    simp only [enter_stage,enter_owns,register_stage,register_owns,screenSaverRegistered_stage,
      screenSaverRegistered_owns,unregisterService_owns,unregisterService_stage,if_pos]
    constructor <;> grind

theorem sound_step (instances next : SessionInstances) (event : Event) (sound : Sound instances)
    (taken : step instances event = some next) : Sound next := by
  intro process
  by_cases own : event.subject = some process
  · exact step_own instances next event sound taken process own
  · obtain ⟨stage,owns⟩ := step_others instances next event taken process own
    rw [stage,propext (owns BusClient.launcher),propext (owns BusClient.manager)]
    exact sound process

theorem owns_unique (instances : SessionInstances) (first second : Nat) (name : String)
    (left : instances.owns first name) (right : instances.owns second name) : first = second := by
  have same : some (BusClient.session first) = some (.session second) := left.symm.trans right
  cases same
  rfl

theorem Sound.exclusive (instances : SessionInstances) (sound : Sound instances) : Exclusive instances := by
  have stages (process : Nat) (modules : instances.hasModules process = true) :
      instances.stage process = some .manager ∨ instances.stage process = some .leaving := by
    simpa [hasModules] using modules
  have launcher (process : Nat) (modules : instances.hasModules process = true) :=
    (sound process).launcher (.inr (stages process modules))
  refine ⟨?_,?_,?_⟩
  · intro first second left right
    exact instances.owns_unique first second _ (launcher first left) (launcher second right)
  · intro process modules
    exact ⟨launcher process modules,(sound process).manager (stages process modules)⟩
  · intro process other registering held
    rcases (sound other).held held with ⟨own,passed⟩ | gone
    · have mine := (sound process).launcher (.inl registering)
      rw [← instances.owns_unique process other _ mine own,registering] at passed
      simp at passed
    · exact gone

/-- However the session managers on a bus take turns, and whatever other programs do with
the names, at most one has modules at any time, and it is the one that both names lead to. -/
theorem exclusive_along (events : List Event) : Along step Exclusive {} events := by
  apply along_of_steps step (fun instances _ => Sound instances) Exclusive fun _ _ => True
  · exact fun instances event _ next sound _ taken => sound_step instances next event sound taken
  · exact fun instances _ sound => sound.exclusive
  · intro process
    constructor <;> simp [owns]
  · exact steps_of_all step _ _ events fun _ _ _ => trivial

/-- The screen saver's name is not among them: the second of two has modules while the
first, which is about to leave, still has this name. -/
example : (run step {} [.construct 1,.construct 2,.registerScreenSaver 1 true,.registerScreenSaver 2 true,
    .registerLauncher 2 true,.registerManager 2 true,.registerLauncher 1 true]).map
      (fun instances => (instances.hasModules 2,instances.owner BusClient.screenSaver,instances.stage 1)) =
        some (true,some (.session 1),some .failed) := by decide

end SessionInstances

end LiriSession
