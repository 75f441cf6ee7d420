import LiriSession.Session
import Mathlib.Algebra.GroupWithZero.Nat

/-! How often and in which order the session manager stops its modules: after
any sequence of shutdown triggers, and when a trigger is delivered while the
start loop is inside a module's own event loop. -/
namespace LiriSession.Session
open Library

def stops (calls : List Call) : List QObject :=
  calls.filterMap fun | .stop module _ => some module | _ => none

def loaded (calls : List Call) : List QObject :=
  calls.filterMap fun | .started module => some module | _ => none

/-- The calls of one run of the slot, for the list as it finds it. -/
def round (behaviour : Behaviour) (modules : List QObject) : List Call :=
  .closing::modules.reverse.map (fun module => .stop module (behaviour.stop module)) ++ [.quit]

def rounds (behaviour : Behaviour) : Nat → List QObject → List Call
  | 0, _ => []
  | n+1, modules => round behaviour modules ++ rounds behaviour n modules.reverse

theorem stopAll_eq (behaviour : Behaviour) (session : Session) (modules : List QObject) :
    modules.foldl (fun session module => session.call (.stop module (behaviour.stop module))) session =
      { session with
        calls := session.calls ++ modules.map fun module => .stop module (behaviour.stop module) } := by
  induction modules generalizing session with
  | nil => simp
  | cons module modules ih =>
    rw [List.foldl_cons,ih]
    simp [call]

theorem shutdown_eq (behaviour : Behaviour) (session : Session) :
    session.shutdown behaviour = { session with
      m_loadedModules := session.m_loadedModules.reverse
      calls := session.calls ++ round behaviour session.m_loadedModules } := by
  dsimp only [shutdown]
  rw [stopAll_eq]
  simp [call,round]

theorem shutdowns_eq (behaviour : Behaviour) (session : Session) (n : Nat) :
    (shutdown behaviour)^[n] session = { session with
      m_loadedModules := List.reverse^[n] session.m_loadedModules
      calls := session.calls ++ rounds behaviour n session.m_loadedModules } := by
  induction n generalizing session with
  | zero => simp [rounds]
  | succ n ih =>
    rw [Function.iterate_succ_apply,Function.iterate_succ_apply,ih,shutdown_eq]
    simp [rounds]

def runs (connected : List QObject) (triggers : List ShutdownTrigger) : Nat :=
  (triggers.map (invocations connected)).sum

theorem deliverAll_eq (behaviour : Behaviour) (session : Session) (triggers : List ShutdownTrigger) :
    triggers.foldl (deliver behaviour) session =
      (shutdown behaviour)^[runs session.connected triggers] session := by
  induction triggers generalizing session with
  | nil => rfl
  | cons trigger triggers ih =>
    have same : (deliver behaviour session trigger).connected = session.connected := by
      simp [deliver,shutdowns_eq]
    rw [List.foldl_cons,ih,same,deliver,← Function.iterate_add_apply]
    simp [runs,Nat.add_comm]

theorem shutdown_calls (behaviour : Behaviour) (session : Session) :
    (session.shutdown behaviour).calls = session.calls ++ round behaviour session.m_loadedModules := by
  rw [shutdown_eq]

theorem deliverAll_calls (behaviour : Behaviour) (session : Session)
    (triggers : List ShutdownTrigger) : (triggers.foldl (deliver behaviour) session).calls =
      session.calls ++ rounds behaviour (runs session.connected triggers) session.m_loadedModules := by
  rw [deliverAll_eq,shutdowns_eq]

theorem mem_reverses (n : Nat) (modules : List QObject) (module : QObject) :
    module ∈ List.reverse^[n] modules ↔ module ∈ modules := by
  induction n generalizing modules with
  | zero => rfl
  | succ n ih => rw [Function.iterate_succ_apply,ih,List.mem_reverse]

theorem stops_append (first second : List Call) : stops (first ++ second) = stops first ++ stops second :=
  List.filterMap_append

theorem loaded_append (first second : List Call) :
    loaded (first ++ second) = loaded first ++ loaded second :=
  List.filterMap_append

theorem stops_round (behaviour : Behaviour) (modules : List QObject) :
    stops (round behaviour modules) = modules.reverse := by
  simp [stops,round,List.filterMap_map]

theorem loaded_round (behaviour : Behaviour) (modules : List QObject) :
    loaded (round behaviour modules) = [] := by
  simp [loaded,round]

theorem loaded_rounds (behaviour : Behaviour) (n : Nat) (modules : List QObject) :
    loaded (rounds behaviour n modules) = [] := by
  induction n generalizing modules with
  | zero => rfl
  | succ n ih => rw [rounds,loaded_append,loaded_round,ih,List.append_nil]

theorem stops_rounds_length (behaviour : Behaviour) (n : Nat) (modules : List QObject) :
    (stops (rounds behaviour n modules)).length = n * modules.length := by
  induction n generalizing modules with
  | zero => simp [rounds,stops]
  | succ n ih =>
    rw [rounds,stops_append,List.length_append,stops_round,ih,List.length_reverse,Nat.succ_mul]
    omega

/-- Several runs stop each module once, latest first, exactly when there is one
run or there is nothing to stop. -/
theorem stops_rounds_iff (behaviour : Behaviour) (n : Nat) (modules : List QObject) :
    stops (rounds behaviour n modules) = modules.reverse ↔ modules = [] ∨ n = 1 := by
  refine ⟨?_,?_⟩
  · intro once
    have size := congrArg List.length once
    rw [stops_rounds_length,List.length_reverse] at size
    by_cases none : modules = []
    · exact .inl none
    · have positive := List.length_pos_iff.mpr none
      exact .inr (Nat.eq_of_mul_eq_mul_right positive (by omega))
  · intro single
    rcases single with none | one
    · have size := stops_rounds_length behaviour n modules
      rw [none,List.length_nil,Nat.mul_zero] at size
      rw [none]
      exact List.eq_nil_of_length_eq_zero size
    · rw [one,rounds,rounds,stops_append,stops_round]
      exact List.append_nil _

def Behaviour.quiet (behaviour : Behaviour) : Behaviour :=
  { behaviour with start := fun module => ⟨[],(behaviour.start module).success⟩ }

def enabled (session : Session) (module : QObject) : Bool :=
  session.m_pluginRegistry.getNameForInstance (some module) ∉ session.m_disabledModules

def argsOf (session : Session) (module : QObject) : List String :=
  (session.m_moduleArgs.find? (session.m_pluginRegistry.getNameForInstance (some module))).getD []

def entered (session : Session) (module : QObject) : Session :=
  let name := session.m_pluginRegistry.getNameForInstance (some module)
  { session with
    connected := session.connected ++ [module]
    m_moduleArgs := session.m_moduleArgs.insert name (session.argsOf module)
    calls := session.calls ++ [.start module (session.argsOf module)] }

def returned (behaviour : Behaviour) (session : Session) (module : QObject) : Session :=
  (shutdown behaviour)^[runs (session.connected ++ [module]) (behaviour.start module).nested]
    (session.entered module)

def kept (behaviour : Behaviour) (session : Session) (module : QObject) : Session :=
  { session.returned behaviour module with
    m_loadedModules := (session.returned behaviour module).m_loadedModules ++ [module]
    calls := (session.returned behaviour module).calls ++ [.started module] }

theorem mem_disabled (session : Session) (module : QObject) :
    session.m_pluginRegistry.getNameForInstance (some module) ∈ session.m_disabledModules ↔
      session.enabled module = false := by
  simp [enabled]

theorem loop_disabled (behaviour : Behaviour) (session : Session) (module : QObject)
    (modules : List QObject) (skipped : session.enabled module = false) :
    session.startModules behaviour (module::modules) = session.startModules behaviour modules := by
  have named := (mem_disabled session module).mpr skipped
  simp [startModules,startModule,named]

theorem loop_success (behaviour : Behaviour) (session : Session) (module : QObject)
    (modules : List QObject) (visited : session.enabled module = true)
    (success : (behaviour.start module).success = true) :
    session.startModules behaviour (module::modules) =
      (session.kept behaviour module).startModules behaviour modules := by
  have named : ¬_ := fun member => Bool.eq_false_iff.mp ((mem_disabled session module).mp member) visited
  simp only [startModules,startModule,named,if_false,success,if_true,deliverAll_eq]
  rfl

theorem loop_failure (behaviour : Behaviour) (session : Session) (module : QObject)
    (modules : List QObject) (visited : session.enabled module = true)
    (failure : (behaviour.start module).success = false) :
    session.startModules behaviour (module::modules) =
      (false,((session.returned behaviour module).call (.failed module)).shutdown behaviour) := by
  have named : ¬_ := fun member => Bool.eq_false_iff.mp ((mem_disabled session module).mp member) visited
  simp only [startModules,startModule,named,if_false,failure,Bool.false_eq_true,deliverAll_eq]
  rfl

/-- What the start loop leaves behind when no trigger is delivered in it: no run
of the slot when it succeeds, and one when it fails. -/
theorem quiet_loop (behaviour : Behaviour) (session : Session) (modules : List QObject)
    (tracked : session.m_loadedModules = loaded session.calls) :
    let result := session.startModules behaviour.quiet modules
    let n := if result.1 then 0 else 1
    result.2.m_loadedModules = List.reverse^[n] (loaded result.2.calls) ∧
      stops result.2.calls =
        stops session.calls ++ stops (rounds behaviour.quiet n (loaded result.2.calls)) := by
  induction modules generalizing session with
  | nil => simpa [startModules,rounds,stops] using tracked
  | cons module modules ih =>
    have calm : session.returned behaviour.quiet module = session.entered module := rfl
    have entry : stops (session.entered module).calls = stops session.calls ∧
        loaded (session.entered module).calls = loaded session.calls := by
      simp [entered,stops,loaded]
    by_cases visited : session.enabled module = true
    · cases success : (behaviour.quiet.start module).success with
      | true =>
        rw [loop_success behaviour.quiet session module modules visited success]
        have noted : (session.kept behaviour.quiet module).m_loadedModules =
            loaded (session.kept behaviour.quiet module).calls := by
          rw [kept,calm,loaded_append,entry.2]
          simp [entered,tracked,loaded]
        have silent : stops (session.kept behaviour.quiet module).calls = stops session.calls := by
          rw [kept,calm,stops_append,entry.1]
          simp [stops]
        have step := ih (session.kept behaviour.quiet module) noted
        rwa [silent] at step
      | false =>
        rw [loop_failure behaviour.quiet session module modules visited success,calm,shutdown_eq]
        have same : ((session.entered module).call (.failed module)).m_loadedModules =
            session.m_loadedModules := rfl
        have reported : loaded (((session.entered module).call (.failed module)).calls ++
            round behaviour.quiet session.m_loadedModules) = session.m_loadedModules := by
          rw [loaded_append,loaded_round,call,loaded_append,entry.2,tracked]
          simp [loaded]
        have halted : stops (((session.entered module).call (.failed module)).calls ++
            round behaviour.quiet session.m_loadedModules) =
              stops session.calls ++ session.m_loadedModules.reverse := by
          rw [stops_append,stops_round,call,stops_append,entry.1]
          simp [stops]
        simp only [Bool.false_eq_true,if_false]
        rw [same,reported,halted]
        simp [rounds,stops_round]
    · rw [loop_disabled behaviour.quiet session module modules (by simpa using visited)]
      exact ih session tracked

def opened (behaviour : Behaviour) (systemd : Bool) (disabled : List String)
    (args : OrderedMap String (List String)) (found : Discovery) : Session :=
  loadPlugins behaviour
    { m_systemdEnabled := systemd, m_disabledModules := disabled, m_moduleArgs := args } found

def Preliminary : Call → Prop
  | .setModuleSystemd _ _ => True
  | .uploadEnvironment => True
  | .loadUnit _ => True
  | .startUnit _ _ => True
  | _ => False

structure Unstarted (session : Session) : Prop where
  empty : session.m_loadedModules = []
  unconnected : session.connected = []
  preliminary : ∀ made ∈ session.calls, Preliminary made

theorem Unstarted.call (session : Session) (unstarted : Unstarted session) (made : Call)
    (allowed : Preliminary made) : Unstarted (session.call made) := by
  refine ⟨unstarted.empty,unstarted.unconnected,?_⟩
  intro other member
  rcases List.mem_append.mp member with before | last
  · exact unstarted.preliminary other before
  · rw [List.mem_singleton.mp last]
    exact allowed

theorem Unstarted.stops (session : Session) (unstarted : Unstarted session) :
    Session.stops session.calls = [] := by
  apply List.filterMap_eq_nil_iff.mpr
  intro made member
  have allowed := unstarted.preliminary made member
  cases made <;> first | rfl | exact allowed.elim

theorem Unstarted.loaded (session : Session) (unstarted : Unstarted session) :
    Session.loaded session.calls = [] := by
  apply List.filterMap_eq_nil_iff.mpr
  intro made member
  have allowed := unstarted.preliminary made member
  cases made <;> first | rfl | exact allowed.elim

theorem addModule_unstarted (behaviour : Behaviour) (session : Session)
    (plugin : String × Option QObject) (unstarted : Unstarted session) :
    Unstarted (addModule behaviour session plugin) := by
  unfold addModule
  cases asModule plugin.2 with
  | none => exact unstarted
  | some module =>
    have recorded := unstarted.call session (.setModuleSystemd module session.m_systemdEnabled) trivial
    exact ⟨recorded.empty,recorded.unconnected,recorded.preliminary⟩

theorem opened_unstarted (behaviour : Behaviour) (systemd : Bool) (disabled : List String)
    (args : OrderedMap String (List String)) (found : Discovery) :
    Unstarted (opened behaviour systemd disabled args found) := by
  unfold opened loadPlugins
  refine List.foldlRecOn found.plugins.entries (addModule behaviour)
    (motive := Unstarted) ⟨rfl,rfl,by simp⟩ ?_
  intro session unstarted plugin _
  exact addModule_unstarted behaviour session plugin unstarted

def prepared (behaviour : Behaviour) (session : Session) : Session :=
  (session.call .uploadEnvironment).startTarget behaviour

theorem start_eq (behaviour : Behaviour) (session : Session) :
    session.start behaviour =
      (session.prepared behaviour).startModules behaviour session.modulesInOrder := by
  have same : (session.prepared behaviour).modulesInOrder = session.modulesInOrder := by
    dsimp only [prepared,startTarget]
    split
    · split <;> rfl
    · rfl
  rw [← same]
  rfl

theorem prepared_unstarted (behaviour : Behaviour) (session : Session)
    (unstarted : Unstarted session) : Unstarted (session.prepared behaviour) := by
  have uploaded := unstarted.call session .uploadEnvironment trivial
  dsimp only [prepared,startTarget]
  split
  · have looked := uploaded.call _ (.loadUnit "liri-session.target") trivial
    split
    · exact looked.call _ (.startUnit "liri-session.target" "replace") trivial
    · exact looked
  · exact uploaded

def sessionCandidate (id : String) (object : QObject) : Candidate where
  object := some object
  json := [("IID",.string "io.liri.Session.Module/1.0"),
    ("MetaData",.map [("Id",.string id),("Type",.string "SessionModule")])]

def shellModule : QObject := ⟨1,true,true⟩

def servicesModule : QObject := ⟨2,true,true⟩

def shellAndServices : Discovery where
  candidates := [sessionCandidate "services" servicesModule,sessionCandidate "shell" shellModule]
  plugins := ⟨[("services",some servicesModule),("shell",some shellModule)],by decide⟩
  enumerates := .refl _
  distinct := by decide

/-- Both modules start and stop well; `nested` arrives while the shell starts. -/
def shellBehaviour (nested : List ShutdownTrigger) : Behaviour where
  startupPhase := fun module => if module = shellModule then .windowManager else .daemons
  start := fun module => ⟨if module = shellModule then nested else [],true⟩
  stop := fun _ => true
  unitLoaded := true

def shellSession (nested : List ShutdownTrigger) : Bool × Session :=
  (opened (shellBehaviour nested) false [] .empty shellAndServices).start (shellBehaviour nested)

def toStart (session : Session) : List QObject := session.modulesInOrder.filter session.enabled

/-- What is to hold of a session that is shut down while it starts: no module is
started once the slot has run, and each module that was loaded is stopped. -/
structure ShutdownRespected (calls : List Call) : Prop where
  noFurther : ∀ before after, calls = before ++ .closing::after → ∀ module args, .start module args ∉ after
  stopped : ∀ module ∈ loaded calls, module ∈ stops calls

/-- The modules started before the interruption: each reports success, and what
its own event loop delivers invokes the slot for none of the connected modules. -/
def Undisturbed (behaviour : Behaviour) (before : List QObject) : Prop :=
  ∀ front module back, before = front ++ module::back →
    (behaviour.start module).success = true ∧
      runs (front ++ [module]) (behaviour.start module).nested = 0

theorem returned_eq (behaviour : Behaviour) (session : Session) (module : QObject) :
    let n := runs (session.connected ++ [module]) (behaviour.start module).nested
    session.returned behaviour module = { session.entered module with
      m_loadedModules := List.reverse^[n] session.m_loadedModules
      calls := (session.entered module).calls ++ rounds behaviour n session.m_loadedModules } := by
  intro n
  exact shutdowns_eq behaviour (session.entered module) n

theorem kept_enabled (behaviour : Behaviour) (session : Session) (module : QObject) :
    (session.kept behaviour module).enabled = session.enabled := by
  rw [kept,returned_eq]
  rfl

theorem startModules_enabled (behaviour : Behaviour) (session : Session) (modules : List QObject) :
    session.startModules behaviour modules =
      session.startModules behaviour (modules.filter session.enabled) := by
  induction modules generalizing session with
  | nil => rfl
  | cons module modules ih =>
    by_cases visited : session.enabled module = true
    · rw [List.filter_cons_of_pos visited]
      cases success : (behaviour.start module).success with
      | true =>
        rw [loop_success behaviour session module modules visited success,
          loop_success behaviour session module _ visited success,ih,kept_enabled]
      | false =>
        rw [loop_failure behaviour session module modules visited success,
          loop_failure behaviour session module _ visited success]
    · rw [List.filter_cons_of_neg visited,
        loop_disabled behaviour session module modules (by simpa using visited)]
      exact ih session

theorem addModule_order (behaviour : Behaviour) (session : Session)
    (plugin : String × Option QObject) :
    (addModule behaviour session plugin).modulesInOrder.Perm
      ((asModule plugin.2).toList ++ session.modulesInOrder) := by
  unfold addModule
  cases asModule plugin.2 with
  | none => exact .refl _
  | some module =>
    let phase := behaviour.startupPhase module
    let map := session.m_modules
    have added := (map.values_insert phase ((map.find? phase).getD [] ++ [module])).flatten
    have kept : ((map.find? phase).getD [] ++ (map.erase phase).values.flatten).Perm map.values.flatten := by
      cases found : map.find? phase with
      | none => rw [map.erase_absent phase found]; exact .refl _
      | some modules => exact (map.values_erase_present phase modules found).flatten.symm
    apply added.trans
    rw [List.flatten_cons,List.append_assoc]
    have moved := @List.perm_middle _ module ((map.find? phase).getD [])
      (map.erase phase).values.flatten
    exact moved.trans (kept.cons module)

theorem loadPlugins_order (behaviour : Behaviour) (session : Session)
    (plugins : List (String × Option QObject)) :
    (plugins.foldl (addModule behaviour) session).modulesInOrder.Perm
      (plugins.filterMap (fun plugin => asModule plugin.2) ++ session.modulesInOrder) := by
  induction plugins generalizing session with
  | nil => exact .refl _
  | cons plugin plugins ih =>
    apply (ih (addModule behaviour session plugin)).trans
    apply ((addModule_order behaviour session plugin).append_left _).trans
    rw [← List.append_assoc]
    apply List.Perm.append_right _
    cases loads : asModule plugin.2 with
    | none => simp [loads]
    | some module =>
      simp only [List.filterMap_cons,loads,Option.toList_some]
      exact List.perm_append_singleton _ _

theorem opened_nodup (behaviour : Behaviour) (systemd : Bool) (disabled : List String)
    (args : OrderedMap String (List String)) (found : Discovery) :
    (opened behaviour systemd disabled args found).toStart.Nodup := by
  apply List.Nodup.filter _
  apply (loadPlugins_order behaviour _ found.plugins.entries).nodup_iff.mpr
  have modules : (found.plugins.entries.filterMap fun plugin => asModule plugin.2) =
      found.plugins.objects.filter QObject.isModule := by
    rw [PluginsMap.objects,List.filter_filterMap]
    rfl
  simp only [modulesInOrder]
  rw [modules]
  simpa [OrderedMap.empty,OrderedMap.values] using found.distinct.filter _

structure Reached (initial : Session) (before : List QObject) (session : Session) : Prop where
  listed : session.m_loadedModules = before
  connected : session.connected = before
  reported : loaded session.calls = before
  unstopped : stops session.calls = []
  open_ : .closing ∉ session.calls
  same : session.enabled = initial.enabled

theorem reached_step (behaviour : Behaviour) (initial session : Session) (before : List QObject)
    (module : QObject) (reached : Reached initial before session)
    (calm : runs (before ++ [module]) (behaviour.start module).nested = 0) :
    Reached initial (before ++ [module]) (session.kept behaviour module) := by
  have back : session.returned behaviour module = session.entered module := by
    rw [returned,reached.connected,calm,Function.iterate_zero_apply]
  rw [kept,back]
  refine ⟨?_,?_,?_,?_,?_,reached.same⟩
  · simp [entered,reached.listed]
  · simp [entered,reached.connected]
  · rw [loaded_append,entered,loaded_append,reached.reported]
    simp [loaded]
  · rw [stops_append,entered,stops_append,reached.unstopped]
    simp [stops]
  · simp [entered,reached.open_]

theorem reached_all (behaviour : Behaviour) (initial session : Session)
    (done before rest : List QObject) (reached : Reached initial done session)
    (visited : ∀ module ∈ before, initial.enabled module = true)
    (undisturbed : ∀ front module back, before = front ++ module::back →
      (behaviour.start module).success = true ∧
        runs (done ++ front ++ [module]) (behaviour.start module).nested = 0) :
    ∃ next, session.startModules behaviour (before ++ rest) = next.startModules behaviour rest ∧
      Reached initial (done ++ before) next := by
  induction before generalizing done session with
  | nil => exact ⟨session,rfl,by simpa using reached⟩
  | cons module before ih =>
    have first := undisturbed [] module before rfl
    rw [List.append_nil] at first
    have named : session.enabled module = true := by
      rw [reached.same]
      exact visited module (by simp)
    have later (front : List QObject) (other : QObject) (back : List QObject)
        (split : before = front ++ other::back) : (behaviour.start other).success = true ∧
          runs (done ++ [module] ++ front ++ [other]) (behaviour.start other).nested = 0 := by
      have found := undisturbed (module::front) other back (by rw [split,List.cons_append])
      simpa using found
    obtain ⟨last,loop,final⟩ := ih (session.kept behaviour module) (done ++ [module])
      (reached_step behaviour initial session done module reached first.2)
      (fun other member => visited other (by simp [member])) later
    refine ⟨last,?_,by simpa using final⟩
    rw [List.cons_append,loop_success behaviour session module _ named first.1]
    exact loop

theorem mem_rounds (behaviour : Behaviour) (n : Nat) (modules : List QObject) (made : Call)
    (member : made ∈ rounds behaviour n modules) :
    made = .closing ∨ made = .quit ∨ ∃ module ∈ modules, made = .stop module (behaviour.stop module) := by
  induction n generalizing modules with
  | zero => simp [rounds] at member
  | succ n ih =>
    rcases List.mem_append.mp member with first | later
    · simp only [round,List.cons_append,List.mem_cons,List.mem_append,List.mem_map,List.mem_reverse,
        List.not_mem_nil,or_false] at first
      rcases first with closing | ⟨module,listed,same⟩ | quit
      · exact .inl closing
      · exact .inr (.inr ⟨module,listed,same.symm⟩)
      · exact .inr (.inl quit)
    · rcases ih modules.reverse later with closing | quit | ⟨module,listed,same⟩
      · exact .inl closing
      · exact .inr (.inl quit)
      · exact .inr (.inr ⟨module,List.mem_reverse.mp listed,same⟩)

theorem rounds_no_start (behaviour : Behaviour) (n : Nat) (modules : List QObject)
    (module : QObject) (args : List String) : .start module args ∉ rounds behaviour n modules := by
  intro member
  rcases mem_rounds behaviour n modules _ member with same | same | ⟨_,_,same⟩ <;> cases same

theorem stops_rounds_subset (behaviour : Behaviour) (n : Nat) (modules : List QObject)
    (module : QObject) (stopped : module ∈ stops (rounds behaviour n modules)) : module ∈ modules := by
  obtain ⟨made,member,same⟩ := List.mem_filterMap.mp stopped
  rcases mem_rounds behaviour n modules made member with rfl | rfl | ⟨other,listed,rfl⟩
  · cases same
  · cases same
  · cases same
    exact listed

theorem stops_rounds_superset (behaviour : Behaviour) (n : Nat) (modules : List QObject)
    (ran : n ≠ 0) (module : QObject) (listed : module ∈ modules) :
    module ∈ stops (rounds behaviour n modules) := by
  obtain ⟨n,rfl⟩ := Nat.exists_eq_succ_of_ne_zero ran
  rw [rounds,stops_append,stops_round]
  exact List.mem_append_left _ (List.mem_reverse.mpr listed)

theorem closing_mem_rounds (behaviour : Behaviour) (n : Nat) (modules : List QObject)
    (ran : n ≠ 0) : .closing ∈ rounds behaviour n modules := by
  obtain ⟨n,rfl⟩ := Nat.exists_eq_succ_of_ne_zero ran
  simp [rounds,round]

theorem noFurther_of_split (first second : List Call) (open_ : .closing ∉ first)
    (quiet : ∀ module args, .start module args ∉ second) (before after : List Call)
    (split : first ++ second = before ++ .closing::after) (module : QObject) (args : List String) :
    .start module args ∉ after := by
  intro member
  rcases List.append_eq_append_iff.mp split with ⟨gap,_,rest⟩ | ⟨gap,front,rest⟩
  · apply quiet module args
    rw [rest]
    exact List.mem_append_right _ (List.mem_cons_of_mem _ member)
  · cases gap with
    | nil =>
      apply quiet module args
      rw [List.nil_append] at rest
      rw [← rest]
      exact List.mem_cons_of_mem _ member
    | cons head gap =>
      apply open_
      rw [front,(List.cons.inj rest).1]
      simp

theorem deliverAll_extends (behaviour : Behaviour) (session : Session)
    (triggers : List ShutdownTrigger) :
    session.calls <+: (triggers.foldl (deliver behaviour) session).calls := by
  rw [deliverAll_eq,shutdowns_eq]
  exact List.prefix_append _ _

theorem entered_extends (behaviour : Behaviour) (session : Session) (module : QObject) :
    session.calls ++ [.start module (session.argsOf module)] <+:
      (session.returned behaviour module).calls := by
  rw [returned_eq]
  exact List.prefix_append _ _

theorem startModules_extends (behaviour : Behaviour) (session : Session) (modules : List QObject) :
    session.calls <+: (session.startModules behaviour modules).2.calls := by
  induction modules generalizing session with
  | nil => exact List.prefix_rfl
  | cons module modules ih =>
    have back := (List.prefix_append session.calls _).trans (entered_extends behaviour session module)
    by_cases visited : session.enabled module = true
    · cases success : (behaviour.start module).success with
      | true =>
        rw [loop_success behaviour session module modules visited success]
        exact (back.trans (List.prefix_append _ _)).trans (ih (session.kept behaviour module))
      | false =>
        rw [loop_failure behaviour session module modules visited success,shutdown_eq]
        exact (back.trans (List.prefix_append _ _)).trans (List.prefix_append _ _)
    · rw [loop_disabled behaviour session module modules (by simpa using visited)]
      exact ih session

theorem startModules_start (behaviour : Behaviour) (session : Session) (module : QObject)
    (modules : List QObject) (visited : session.enabled module = true) :
    session.calls ++ [.start module (session.argsOf module)] <+:
      (session.startModules behaviour (module::modules)).2.calls := by
  have back := entered_extends behaviour session module
  cases success : (behaviour.start module).success with
  | true =>
    rw [loop_success behaviour session module modules visited success]
    exact (back.trans (List.prefix_append _ _)).trans
      (startModules_extends behaviour (session.kept behaviour module) modules)
  | false =>
    rw [loop_failure behaviour session module modules visited success,shutdown_eq]
    exact (back.trans (List.prefix_append _ _)).trans (List.prefix_append _ _)

section
variable (behaviour : Behaviour) (initial reached : Session) (before : List QObject)
  (module : QObject) (there : Reached initial before reached)
  (ran : runs (before ++ [module]) (behaviour.start module).nested ≠ 0)
include there

theorem entry_facts : .closing ∉ (reached.entered module).calls ∧
    loaded (reached.entered module).calls = before ∧ stops (reached.entered module).calls = [] := by
  refine ⟨?_,?_,?_⟩
  · simp [entered,there.open_]
  · rw [entered,loaded_append,there.reported]
    simp [loaded]
  · rw [entered,stops_append,there.unstopped]
    simp [stops]

theorem returned_calls : (reached.returned behaviour module).calls = (reached.entered module).calls ++
    rounds behaviour (runs (before ++ [module]) (behaviour.start module).nested) before := by
  rw [returned_eq,there.connected,there.listed]

theorem respected_last_iff (visited : reached.enabled module = true)
    (success : (behaviour.start module).success = true) (fresh : module ∉ before)
    (late : List ShutdownTrigger) : ShutdownRespected (late.foldl (deliver behaviour)
      (reached.startModules behaviour [module]).2).calls ↔ runs (before ++ [module]) late ≠ 0 := by
  obtain ⟨open_,reported,unstopped⟩ := entry_facts initial reached before module there
  let n := runs (before ++ [module]) (behaviour.start module).nested
  let k := runs (before ++ [module]) late
  have connected : (reached.kept behaviour module).connected = before ++ [module] := by
    rw [kept,returned_eq]
    simp [entered,there.connected]
  have listed : (reached.kept behaviour module).m_loadedModules = List.reverse^[n] before ++ [module] := by
    rw [kept,returned_eq,there.connected,there.listed]
  have calls : (late.foldl (deliver behaviour) (reached.startModules behaviour [module]).2).calls =
      (reached.entered module).calls ++ (rounds behaviour n before ++ [.started module] ++
        rounds behaviour k (List.reverse^[n] before ++ [module])) := by
    rw [loop_success behaviour reached module [] visited success,startModules,deliverAll_calls,
      connected,listed,kept,returned_calls behaviour initial reached before module there]
    simp only [List.append_assoc]
    rfl
  have starts : loaded [.started module] = [module] := rfl
  rw [calls]
  refine ⟨?_,?_⟩
  · intro respected none
    have stopped := respected.stopped module (by
      simp only [loaded_append,reported,loaded_rounds,starts]
      simp)
    have quiet : stops [.started module] = [] := rfl
    rw [show k = 0 from none,rounds] at stopped
    simp only [stops_append,unstopped,quiet,List.nil_append,List.append_nil] at stopped
    exact fresh (stops_rounds_subset behaviour n before module (by simpa [stops] using stopped))
  · intro further
    refine ⟨?_,?_⟩
    · intro front back split other args
      refine noFurther_of_split _ _ open_ ?_ front back split other args
      intro other args member
      simp only [List.mem_append,List.mem_singleton] at member
      rcases member with (first | same) | second
      · exact rounds_no_start behaviour n before other args first
      · cases same
      · exact rounds_no_start behaviour k _ other args second
    · intro other member
      simp only [loaded_append,reported,loaded_rounds,starts,List.append_nil,List.nil_append] at member
      have again : other ∈ List.reverse^[n] before ++ [module] := by
        rcases List.mem_append.mp member with old | new
        · exact List.mem_append_left _ ((mem_reverses n before other).mpr old)
        · exact List.mem_append_right _ new
      have stopped := stops_rounds_superset behaviour k _ further other again
      simp only [stops_append,List.mem_append]
      exact .inr (.inr stopped)

include ran

theorem respected_of_failure (visited : reached.enabled module = true)
    (failure : (behaviour.start module).success = false) (rest : List QObject)
    (late : List ShutdownTrigger) : ShutdownRespected (late.foldl (deliver behaviour)
      (reached.startModules behaviour (module::rest)).2).calls := by
  obtain ⟨open_,reported,unstopped⟩ := entry_facts initial reached before module there
  let n := runs (before ++ [module]) (behaviour.start module).nested
  let halted := (reached.returned behaviour module).call (.failed module)
  let listed := halted.m_loadedModules
  let k := runs (halted.shutdown behaviour).connected late
  have calls : (late.foldl (deliver behaviour) (reached.startModules behaviour (module::rest)).2).calls =
      (reached.entered module).calls ++ (rounds behaviour n before ++ [.failed module] ++
        rounds behaviour 1 listed ++ rounds behaviour k (halted.shutdown behaviour).m_loadedModules) := by
    have single : rounds behaviour 1 listed = round behaviour listed := List.append_nil _
    have first : halted.calls =
        (reached.entered module).calls ++ rounds behaviour n before ++ [.failed module] := by
      rw [← returned_calls behaviour initial reached before module there]
      rfl
    rw [loop_failure behaviour reached module rest visited failure,deliverAll_calls,shutdown_calls,single]
    change halted.calls ++ round behaviour listed ++ _ = _
    rw [first]
    simp only [List.append_assoc]
    rfl
  rw [calls]
  refine ⟨?_,?_⟩
  · intro front back split other args
    refine noFurther_of_split _ _ open_ ?_ front back split other args
    intro other args member
    simp only [List.mem_append,List.mem_singleton] at member
    rcases member with ((first | same) | second) | third
    · exact rounds_no_start behaviour n before other args first
    · cases same
    · exact rounds_no_start behaviour 1 listed other args second
    · exact rounds_no_start behaviour k _ other args third
  · intro other member
    have fails : loaded [.failed module] = [] := rfl
    simp only [loaded_append,reported,loaded_rounds,fails,List.append_nil] at member
    have stopped := stops_rounds_superset behaviour n before ran other member
    simp only [stops_append,List.mem_append]
    exact .inr (.inl (.inl (.inl stopped)))

theorem not_respected_of_next (visited : reached.enabled module = true)
    (success : (behaviour.start module).success = true) (next : QObject)
    (enabled : reached.enabled next = true) (rest : List QObject) (late : List ShutdownTrigger) :
    ¬ShutdownRespected (late.foldl (deliver behaviour)
      (reached.startModules behaviour (module::next::rest)).2).calls := by
  intro respected
  rw [loop_success behaviour reached module _ visited success] at respected
  have following : (reached.kept behaviour module).enabled next = true := by rw [kept_enabled]; exact enabled
  obtain ⟨more,calls⟩ := (startModules_start behaviour (reached.kept behaviour module) next rest
    following).trans (deliverAll_extends behaviour _ late)
  have closed : .closing ∈ (reached.kept behaviour module).calls := by
    rw [kept,returned_calls behaviour initial reached before module there]
    simp only [List.mem_append]
    exact .inl (.inr (closing_mem_rounds behaviour _ before ran))
  obtain ⟨front,back,split⟩ := List.append_of_mem closed
  rw [split] at calls
  let args := (reached.kept behaviour module).argsOf next
  refine respected.noFurther front (back ++ [.start next args] ++ more) ?_ next args (by simp)
  rw [← calls]
  simp [args]

end

theorem prepared_frame (behaviour : Behaviour) (session : Session) :
    session.prepared behaviour = { session with calls := (session.prepared behaviour).calls } := by
  dsimp only [prepared,startTarget]
  split
  · split <;> rfl
  · rfl

/-- A trigger is delivered while one module starts, after others have started
undisturbed: shutdown is respected exactly when that module reports failure, or
it is the last one and a further trigger arrives before the application exits. -/
theorem interrupted_start_iff (behaviour : Behaviour) (systemd : Bool) (disabled : List String)
    (args : OrderedMap String (List String)) (found : Discovery) (before : List QObject)
    (module : QObject) (rest : List QObject) (late : List ShutdownTrigger)
    (order : (opened behaviour systemd disabled args found).toStart = before ++ module::rest)
    (undisturbed : Undisturbed behaviour before)
    (interrupted : runs (before ++ [module]) (behaviour.start module).nested ≠ 0) :
    let result := (opened behaviour systemd disabled args found).start behaviour
    ShutdownRespected (late.foldl (deliver behaviour) result.2).calls ↔
      (behaviour.start module).success = false ∨
        rest = [] ∧ runs (before ++ [module]) late ≠ 0 := by
  intro result
  let session := (opened behaviour systemd disabled args found).prepared behaviour
  have unstarted := prepared_unstarted behaviour _
    (opened_unstarted behaviour systemd disabled args found)
  have same : session.enabled = (opened behaviour systemd disabled args found).enabled := by
    dsimp only [session]
    rw [prepared_frame]
    rfl
  have initial : Reached session [] session := by
    refine ⟨unstarted.empty,unstarted.unconnected,unstarted.loaded _,unstarted.stops _,?_,rfl⟩
    intro member
    exact unstarted.preliminary _ member
  have visited (other : QObject) (member : other ∈ before ++ module::rest) :
      session.enabled other = true := by
    rw [same]
    rw [← order] at member
    exact (List.mem_filter.mp member).2
  have distinct : (before ++ module::rest).Nodup := order ▸ opened_nodup behaviour systemd disabled args found
  have fresh : module ∉ before := by
    intro member
    exact List.disjoint_of_nodup_append distinct member (by simp)
  obtain ⟨reached,loop,there⟩ := reached_all behaviour session session [] before (module::rest)
    initial (fun other member => visited other (List.mem_append_left _ member)) undisturbed
  have started : result = reached.startModules behaviour (module::rest) := by
    rw [← loop,← order,toStart,← same,← startModules_enabled]
    exact start_eq behaviour _
  have enabled (other : QObject) (member : other ∈ module::rest) : reached.enabled other = true := by
    rw [there.same]
    exact visited other (List.mem_append_right _ member)
  rw [started]
  cases success : (behaviour.start module).success with
  | false =>
    have respected := respected_of_failure behaviour session reached before module there interrupted
      (enabled module (by simp)) success rest late
    exact ⟨fun _ => .inl rfl,fun _ => respected⟩
  | true =>
    cases rest with
    | nil =>
      have last := respected_last_iff behaviour session reached before module there
        (enabled module (by simp)) success fresh late
      simpa using last
    | cons next rest =>
      have broken := not_respected_of_next behaviour session reached before module there interrupted
        (enabled module (by simp)) success next (enabled next (by simp)) rest late
      simpa using broken

/-- SIGTERM reaches the event loop of the shell, which is started all the same and
never stopped. -/
theorem sigterm_in_shell_start : ¬ShutdownRespected
    (shellSession [.unixSignal .sigterm]).2.calls := by
  intro respected
  have unstopped : shellModule ∉ stops (shellSession [.unixSignal .sigterm]).2.calls := by decide
  exact unstopped (respected.stopped shellModule (by decide))

theorem sigterm_before_services : ¬ShutdownRespected
    ([].foldl (deliver (shellBehaviour [.unixSignal .sigterm]))
      (shellSession [.unixSignal .sigterm]).2).calls := by
  have condition := interrupted_start_iff (shellBehaviour [.unixSignal .sigterm]) false [] .empty
    shellAndServices [] shellModule [servicesModule] [] (by decide)
    (fun front module back split => by cases front <;> cases split) (by decide)
  exact fun respected => absurd (condition.mp respected) (by decide)

end LiriSession.Session
