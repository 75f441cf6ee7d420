import LiriSession.SessionRestart

/-! Which modules the session manager starts, and with what arguments, for any options and
whatever is delivered while it starts them. -/
namespace LiriSession
open Library

namespace Session

/-- The calls of `start`, with their arguments. -/
def starts (calls : List Call) : List (QObject × List String) :=
  calls.filterMap fun | .start module args => some (module,args) | _ => none

theorem starts_append (first second : List Call) : starts (first ++ second) = starts first ++ starts second :=
  List.filterMap_append

theorem starts_rounds (behaviour : Behaviour) (n : Nat) (modules : List QObject) :
    starts (rounds behaviour n modules) = [] := by
  apply List.filterMap_eq_nil_iff.mpr
  intro made member
  rcases mem_rounds behaviour n modules made member with rfl | rfl | ⟨_,_,rfl⟩ <;> rfl

theorem Unstarted.starts (session : Session) (unstarted : Unstarted session) :
    Session.starts session.calls = [] := by
  apply List.filterMap_eq_nil_iff.mpr
  intro made member
  have allowed := unstarted.preliminary made member
  cases made <;> first | rfl | exact allowed.elim

theorem entered_argsOf (session : Session) (module other : QObject) :
    (session.entered module).argsOf other = session.argsOf other := by
  simp only [argsOf,entered,OrderedMap.find?_insert]
  split
  next same =>
    rw [same]
    cases session.m_moduleArgs.find? (session.m_pluginRegistry.getNameForInstance (some module)) <;> rfl
  next => rfl

theorem kept_argsOf (behaviour : Behaviour) (session : Session) (module : QObject) :
    (session.kept behaviour module).argsOf = session.argsOf := by
  rw [kept,returned_eq]
  exact funext (session.entered_argsOf module)

theorem returned_starts (behaviour : Behaviour) (session : Session) (module : QObject) :
    starts (session.returned behaviour module).calls =
      starts session.calls ++ [(module,session.argsOf module)] := by
  rw [returned_eq,starts_append,starts_rounds,entered,starts_append,List.append_nil]
  rfl

/-- The start loop goes through the modules that are not disabled up to the first that
fails; what runs inside a module's own event loop starts nothing. -/
theorem startModules_starts (behaviour : Behaviour) (session : Session) (modules : List QObject) :
    let result := session.startModules behaviour modules
    let made := attempted behaviour (modules.filter session.enabled)
    starts result.2.calls = starts session.calls ++ made.map (fun module => (module,session.argsOf module)) ∧
      (result.1 = true ↔ Succeeds behaviour made) := by
  induction modules generalizing session with
  | nil => simp [startModules,attempted,Succeeds]
  | cons module modules ih =>
    by_cases visited : session.enabled module = true
    · rw [List.filter_cons_of_pos visited]
      cases success : (behaviour.start module).success with
      | true =>
        rw [loop_success behaviour session module modules visited success,
          attempted_cons behaviour module _ success]
        obtain ⟨made,returns⟩ := ih (session.kept behaviour module)
        have entry : starts (session.kept behaviour module).calls =
            starts session.calls ++ [(module,session.argsOf module)] := by
          rw [kept,starts_append,returned_starts]
          exact List.append_nil _
        rw [kept_enabled,kept_argsOf,entry,List.append_assoc] at made
        rw [kept_enabled] at returns
        refine ⟨made,returns.trans ?_⟩
        exact ⟨fun rest => List.forall_mem_cons.mpr ⟨success,rest⟩,
          fun all => (List.forall_mem_cons.mp all).2⟩
      | false =>
        rw [loop_failure behaviour session module modules visited success,
          attempted_failure behaviour module _ success]
        refine ⟨?_,?_⟩
        · have silent := starts_rounds behaviour 1 (session.returned behaviour module).m_loadedModules
          rw [rounds,rounds,List.append_nil] at silent
          rw [shutdown_calls,starts_append]
          change starts ((session.returned behaviour module).calls ++ [.failed module]) ++
            starts (round behaviour (session.returned behaviour module).m_loadedModules) = _
          rw [silent,starts_append,returned_starts,List.append_nil]
          exact List.append_nil _
        · simp [Succeeds,success]
    · rw [loop_disabled behaviour session module modules (by simpa using visited),
        List.filter_cons_of_neg visited]
      exact ih session

theorem addModule_modules (behaviour : Behaviour) (first second : Session)
    (plugin : String × Option QObject) (same : first.m_modules = second.m_modules) :
    (addModule behaviour first plugin).m_modules = (addModule behaviour second plugin).m_modules := by
  unfold addModule
  cases asModule plugin.2 with
  | none => exact same
  | some module =>
    dsimp only [call]
    rw [same]

theorem addModules_modules (behaviour : Behaviour) (plugins : List (String × Option QObject))
    (first second : Session) (same : first.m_modules = second.m_modules) :
    (plugins.foldl (addModule behaviour) first).m_modules =
      (plugins.foldl (addModule behaviour) second).m_modules := by
  induction plugins generalizing first second with
  | nil => exact same
  | cons plugin plugins ih => exact ih _ _ (addModule_modules behaviour first second plugin same)

end Session

namespace SessionMain
open Session

theorem disable_eq (names : List String) (session : Session) :
    names.foldl disableModule session =
      { session with m_disabledModules := session.m_disabledModules ++ names } := by
  induction names generalizing session with
  | nil => simp
  | cons name names ih =>
    rw [List.foldl_cons,ih]
    simp [disableModule]

/-- The arguments that the options set. -/
def moduleArguments (platform : Platform) (commandLine : CommandLine) : OrderedMap String (List String) :=
  if systemdSupport platform commandLine then .empty
  else OrderedMap.empty.insert "shell" commandLine.positionalArguments

theorem configured_eq (platform : Platform) (order : HashOrder) (commandLine : CommandLine) :
    configured platform order commandLine = {
      m_systemdEnabled := systemdSupport platform commandLine
      m_disabledModules := order.enumerate (disabledModules platform commandLine)
      m_moduleArgs := moduleArguments platform commandLine } := by
  unfold configured moduleArguments
  dsimp only
  rw [disable_eq]
  cases systemdSupport platform commandLine <;> rfl

theorem configured_opened (platform : Platform) (circumstances : Circumstances) (commandLine : CommandLine) :
    (configured platform circumstances.order commandLine).loadPlugins circumstances.behaviour
      circumstances.found = opened circumstances.behaviour (systemdSupport platform commandLine)
        (circumstances.order.enumerate (disabledModules platform commandLine))
        (moduleArguments platform commandLine) circumstances.found := by
  rw [configured_eq]
  rfl

/-- The id under which a module was found. -/
def idOf (circumstances : Circumstances) (module : QObject) : String :=
  circumstances.found.plugins.key (some module)

/-- A session module found under an id. -/
def Finds (circumstances : Circumstances) (name : String) (module : QObject) : Prop :=
  (name,some module) ∈ circumstances.found.plugins.entries ∧ module.isModule = true

def phaseOf (circumstances : Circumstances) (name : String) : Option StartupPhase :=
  ((circumstances.found.plugins.find? name).getD none).map circumstances.behaviour.startupPhase

/-- Two processes that find the same session modules. Their objects differ, and so does the
order in which each enumerates its hash. -/
structure SameModules (lister circumstances : Circumstances) : Prop where
  ids : ∀ name, (∃ module, Finds lister name module) ↔ ∃ module, Finds circumstances name module
  phases : ∀ name first second, Finds lister name first → Finds circumstances name second →
    lister.behaviour.startupPhase first = circumstances.behaviour.startupPhase second

/-- The session modules that were found, each once and by phase. -/
structure Listing (circumstances : Circumstances) (names : List String) : Prop where
  once : names.Nodup
  complete : ∀ name, name ∈ names ↔ ∃ module, Finds circumstances name module
  byPhase : ∃ modules : List QObject, names = modules.map (idOf circumstances) ∧
    (∀ module ∈ modules, ∃ name, Finds circumstances name module) ∧
    modules.Pairwise fun first second =>
      circumstances.behaviour.startupPhase first ≤ circumstances.behaviour.startupPhase second

/-- The same ids, and the same phase at every place: within a phase the order may differ. -/
structure SameByPhase (lister circumstances : Circumstances) (names planned : List String) : Prop where
  ids : planned.Perm names
  phases : planned.map (phaseOf circumstances) = names.map (phaseOf lister)

/-- What a process that got as far as the modules has started, in order, against what
another process lists. -/
structure StartsListed (platform : Platform) (lister circumstances : Circumstances)
    (commandLine : CommandLine) (started : List (QObject × List String)) : Prop where
  listed : ∃ planned, SameByPhase lister circumstances
      ((listedModules lister).filter (· ∉ disabledModules platform commandLine)) planned ∧
    started.map (fun entry => idOf circumstances entry.1) <+: planned
  arguments : ∀ entry ∈ started, entry.2 =
    if systemdSupport platform commandLine = false ∧ idOf circumstances entry.1 = "shell"
      then commandLine.positionalArguments else []

/-- The options, once the process is known not to be refused. -/
def Parsed (platform : Platform) (process : Process) (commandLine : CommandLine) : Prop :=
  (platform.developmentBuild || !process.root) = true ∧ platform.parse process.arguments = .ok commandLine

/-- There is no D-Bus session, and systemd or a `dbus-run-session` is to bring one. -/
def Waits (platform : Platform) (circumstances : Circumstances) (commandLine : CommandLine)
    (process : Process) : Prop :=
  process.environment.isSet "DBUS_SESSION_BUS_ADDRESS" = false ∧
    if systemdSupport platform commandLine then circumstances.systemdAvailable = true
      else contains (getParentProcessName process) "dbus-run-session" = false

/-- The process goes on to its session. -/
def Goes (platform : Platform) (circumstances : Circumstances) (process : Process)
    (commandLine : CommandLine) : Prop :=
  Parsed platform process commandLine ∧ commandLine.listModules = false ∧
    ¬Waits platform circumstances commandLine process

/-- What is to be true of each way in which the main function can come out; `lister` is the
process of an earlier `--list-modules`. -/
def Started (platform : Platform) (lister circumstances : Circumstances) (process : Process) :
    Outcome → Prop
  | .exits code => (platform.developmentBuild || !process.root) = false ∧ code = 1 ∨
    (platform.developmentBuild || !process.root) = true ∧ platform.parse process.arguments = .error code
  | .lists names => ∃ commandLine, Parsed platform process commandLine ∧ commandLine.listModules = true ∧
    names = listedModules circumstances ∧ Listing circumstances names
  | .waits _ _ => ∃ commandLine, Parsed platform process commandLine ∧ commandLine.listModules = false ∧
    Waits platform circumstances commandLine process
  | .fails session => ∃ commandLine, Goes platform circumstances process commandLine ∧
    StartsListed platform lister circumstances commandLine (starts session.calls) ∧
    ((starts session.calls = [] ∧
        (circumstances.launcherRegistered && circumstances.managerRegistered) = false) ∨
      (circumstances.launcherRegistered && circumstances.managerRegistered) = true ∧
      ∃ before module args, starts session.calls = before ++ [(module,args)] ∧
        (circumstances.behaviour.start module).success = false ∧
        ∀ entry ∈ before, (circumstances.behaviour.start entry.1).success = true)
  | .runs session => ∃ commandLine, Goes platform circumstances process commandLine ∧
    StartsListed platform lister circumstances commandLine (starts session.calls) ∧
    (circumstances.launcherRegistered && circumstances.managerRegistered) = true ∧
    ((starts session.calls).map fun entry => idOf circumstances entry.1).Perm
      ((listedModules lister).filter (· ∉ disabledModules platform commandLine)) ∧
    ∀ entry ∈ starts session.calls, (circumstances.behaviour.start entry.1).success = true

theorem addModule_frame (behaviour : Behaviour) (session : Session) (plugin : String × Option QObject) :
    (addModule behaviour session plugin).m_moduleArgs = session.m_moduleArgs ∧
      (addModule behaviour session plugin).m_pluginRegistry = session.m_pluginRegistry := by
  unfold addModule
  cases asModule plugin.2 <;> exact ⟨rfl,rfl⟩

theorem addModules_frame (behaviour : Behaviour) (plugins : List (String × Option QObject))
    (session : Session) :
    (plugins.foldl (addModule behaviour) session).m_moduleArgs = session.m_moduleArgs ∧
      (plugins.foldl (addModule behaviour) session).m_pluginRegistry = session.m_pluginRegistry := by
  induction plugins generalizing session with
  | nil => exact ⟨rfl,rfl⟩
  | cons plugin plugins ih =>
    obtain ⟨args,registry⟩ := addModule_frame behaviour session plugin
    obtain ⟨kept,same⟩ := ih (addModule behaviour session plugin)
    exact ⟨kept.trans args,same.trans registry⟩

theorem loadPlugins_frame (behaviour : Behaviour) (session : Session) (found : Discovery) :
    (session.loadPlugins behaviour found).m_moduleArgs = session.m_moduleArgs ∧
      (session.loadPlugins behaviour found).m_pluginRegistry = ⟨found.plugins⟩ :=
  addModules_frame behaviour found.plugins.entries _

theorem listedModules_eq (circumstances : Circumstances) (session : Session)
    (empty : session.m_modules = .empty) : listedModules circumstances =
      (session.loadPlugins circumstances.behaviour circumstances.found).modulesInOrder.map
        (idOf circumstances) := by
  have same := addModules_modules circumstances.behaviour circumstances.found.plugins.entries
    { ({} : Session) with m_pluginRegistry := ⟨circumstances.found.plugins⟩ }
    { session with m_pluginRegistry := ⟨circumstances.found.plugins⟩ } empty.symm
  have found := (loadPlugins_frame circumstances.behaviour {} circumstances.found).2
  rw [listedModules,moduleNames,modulesInOrder,modulesInOrder,loadPlugins,loadPlugins,← same]
  rw [loadPlugins] at found
  rw [found]
  rfl

theorem listing (circumstances : Circumstances) : Listing circumstances (listedModules circumstances) := by
  let session := opened circumstances.behaviour false [] .empty circumstances.found
  have names : listedModules circumstances = session.modulesInOrder.map (idOf circumstances) :=
    listedModules_eq circumstances {} rfl
  have all : session.toStart = session.modulesInOrder := by
    apply List.filter_eq_self.mpr
    intro module _
    rw [opened_enabled]
    exact decide_eq_true List.not_mem_nil
  have found (module : QObject) : module ∈ session.modulesInOrder ↔ Enabled [] circumstances.found module := by
    rw [← all]
    exact mem_toStart circumstances.behaviour false [] .empty circumstances.found module
  have named (name : String) (module : QObject)
      (present : (name,some module) ∈ circumstances.found.plugins.entries) :
      idOf circumstances module = name :=
    circumstances.found.plugins.key_of_mem circumstances.found.distinct name module present
  refine ⟨?_,?_,?_⟩
  · rw [names]
    refine List.Nodup.map_on ?_ (all ▸ opened_nodup circumstances.behaviour false [] .empty circumstances.found)
    intro first left second right same
    obtain ⟨name,present,_,_⟩ := (found first).mp left
    obtain ⟨other,there,_,_⟩ := (found second).mp right
    rw [named name first present,named other second there] at same
    have held := (circumstances.found.plugins.find?_eq_some name _).mpr present
    rw [same,(circumstances.found.plugins.find?_eq_some other _).mpr there] at held
    exact Option.some.inj (Option.some.inj held).symm
  · intro name
    rw [names,List.mem_map]
    apply Iff.intro
    · rintro ⟨module,member,rfl⟩
      obtain ⟨name,present,loads,_⟩ := (found module).mp member
      exact ⟨module,(named name module present).symm ▸ present,loads⟩
    · rintro ⟨module,present,loads⟩
      exact ⟨module,(found module).mpr ⟨name,present,loads,List.not_mem_nil⟩,named name module present⟩
  · refine ⟨session.modulesInOrder,names,?_,(opened_grouped circumstances.behaviour false [] .empty
      circumstances.found).sorted⟩
    intro module member
    obtain ⟨name,present,loads,_⟩ := (found module).mp member
    exact ⟨name,present,loads⟩

theorem idOf_finds (circumstances : Circumstances) (name : String) (module : QObject)
    (finds : Finds circumstances name module) : idOf circumstances module = name :=
  circumstances.found.plugins.key_of_mem circumstances.found.distinct name module finds.1

theorem phaseOf_finds (circumstances : Circumstances) (name : String) (module : QObject)
    (finds : Finds circumstances name module) :
    phaseOf circumstances name = some (circumstances.behaviour.startupPhase module) := by
  rw [phaseOf,(circumstances.found.plugins.find?_eq_some name _).mpr finds.1]
  rfl

/-- The phases of the listed modules that are kept, in their order. -/
theorem phases_sorted (circumstances : Circumstances) (keep : String → Bool) :
    ∃ phases : List StartupPhase,
      ((listedModules circumstances).filter keep).map (phaseOf circumstances) = phases.map some ∧
      phases.Pairwise (· ≤ ·) := by
  obtain ⟨modules,names,found,sorted⟩ := (listing circumstances).byPhase
  let kept := modules.filter (keep ∘ idOf circumstances)
  refine ⟨kept.map circumstances.behaviour.startupPhase,?_,?_⟩
  · rw [names,List.filter_map,List.map_map,List.map_map]
    apply List.map_congr_left
    intro module member
    obtain ⟨name,finds⟩ := found module (List.mem_filter.mp member).1
    rw [Function.comp_apply,idOf_finds circumstances name module finds]
    exact phaseOf_finds circumstances name module finds
  · rw [List.pairwise_map]
    exact sorted.sublist List.filter_sublist

theorem phaseOf_same (lister circumstances : Circumstances) (same : SameModules lister circumstances)
    (name : String) (listed : name ∈ listedModules circumstances) :
    phaseOf circumstances name = phaseOf lister name := by
  obtain ⟨second,here⟩ := ((listing circumstances).complete name).mp listed
  obtain ⟨first,there⟩ := (same.ids name).mpr ⟨second,here⟩
  rw [phaseOf_finds circumstances name second here,phaseOf_finds lister name first there,
    same.phases name first second there here]

/-- Two processes that find the same modules list the same ids, and the phases stand in
the same order in both. -/
theorem listings_same (lister circumstances : Circumstances) (same : SameModules lister circumstances)
    (keep : String → Bool) : SameByPhase lister circumstances ((listedModules lister).filter keep)
      ((listedModules circumstances).filter keep) := by
  have there := listing lister
  have here := listing circumstances
  have ids : ((listedModules circumstances).filter keep).Perm ((listedModules lister).filter keep) := by
    apply List.Perm.filter
    apply (List.perm_ext_iff_of_nodup here.once there.once).mpr
    intro name
    rw [here.complete,there.complete]
    exact (same.ids name).symm
  obtain ⟨first,firstPhases,firstSorted⟩ := phases_sorted circumstances keep
  obtain ⟨second,secondPhases,secondSorted⟩ := phases_sorted lister keep
  have agree : ((listedModules circumstances).filter keep).map (phaseOf circumstances) =
      ((listedModules circumstances).filter keep).map (phaseOf lister) := by
    apply List.map_congr_left
    intro name member
    exact phaseOf_same lister circumstances same name (List.mem_filter.mp member).1
  have reordered : (first.map some).Perm (second.map some) := by
    rw [← firstPhases,← secondPhases,agree]
    exact ids.map _
  have phases : first.Perm second := by
    have read := reordered.filterMap id
    simpa using read
  refine ⟨ids,?_⟩
  rw [firstPhases,secondPhases,List.Perm.eq_of_pairwise' firstSorted secondSorted phases]

theorem moduleArguments_find? (platform : Platform) (commandLine : CommandLine) (name : String) :
    ((moduleArguments platform commandLine).find? name).getD [] =
      if systemdSupport platform commandLine = false ∧ name = "shell"
        then commandLine.positionalArguments else [] := by
  unfold moduleArguments
  cases systemdSupport platform commandLine with
  | true => rfl
  | false =>
    simp only [Bool.false_eq_true,if_false,OrderedMap.find?_insert,true_and]
    split <;> rfl

/-- What the loop is to make of the session that the options have configured. -/
theorem start_started (platform : Platform) (circumstances : Circumstances) (commandLine : CommandLine) :
    let session := (configured platform circumstances.order commandLine).loadPlugins
      circumstances.behaviour circumstances.found
    let made := attempted circumstances.behaviour (session.modulesInOrder.filter session.enabled)
    let result := session.start circumstances.behaviour
    starts result.2.calls = made.map (fun module => (module,session.argsOf module)) ∧
      (result.1 = true ↔ Succeeds circumstances.behaviour made) := by
  intro session made result
  have unstarted : Unstarted (session.prepared circumstances.behaviour) := by
    apply prepared_unstarted
    dsimp only [session]
    rw [configured_opened]
    exact opened_unstarted circumstances.behaviour _ _ _ circumstances.found
  obtain ⟨calls,returns⟩ := startModules_starts circumstances.behaviour
    (session.prepared circumstances.behaviour) session.modulesInOrder
  have enabled : (session.prepared circumstances.behaviour).enabled = session.enabled := by
    rw [prepared_frame]
    rfl
  have args : (session.prepared circumstances.behaviour).argsOf = session.argsOf := by
    rw [prepared_frame]
    rfl
  rw [← start_eq,enabled,args,unstarted.starts,List.nil_append] at calls
  rw [← start_eq,enabled] at returns
  exact ⟨calls,returns⟩

theorem session_enabled (platform : Platform) (circumstances : Circumstances) (commandLine : CommandLine)
    (module : QObject) : ((configured platform circumstances.order commandLine).loadPlugins
      circumstances.behaviour circumstances.found).enabled module =
        decide (idOf circumstances module ∉ disabledModules platform commandLine) := by
  rw [configured_opened,opened_enabled]
  apply decide_eq_decide.mpr
  exact not_congr (circumstances.order.mem ..)

theorem session_argsOf (platform : Platform) (circumstances : Circumstances) (commandLine : CommandLine)
    (module : QObject) : ((configured platform circumstances.order commandLine).loadPlugins
      circumstances.behaviour circumstances.found).argsOf module =
        if systemdSupport platform commandLine = false ∧ idOf circumstances module = "shell"
          then commandLine.positionalArguments else [] := by
  obtain ⟨args,registry⟩ := loadPlugins_frame circumstances.behaviour
    (configured platform circumstances.order commandLine) circumstances.found
  rw [argsOf,args,registry,configured_eq]
  exact moduleArguments_find? platform commandLine _

theorem filter_names (circumstances : Circumstances) (modules : List QObject) (enabled : QObject → Bool)
    (names : List String)
    (allowed : ∀ module, enabled module = decide (idOf circumstances module ∉ names)) :
    (modules.filter enabled).map (idOf circumstances) =
      (modules.map (idOf circumstances)).filter (· ∉ names) := by
  have same : enabled = (fun name => decide (name ∉ names)) ∘ idOf circumstances := funext allowed
  rw [List.filter_map,same]

/-- The ids of the modules that are not disabled, in the order of the loop. -/
theorem session_names (platform : Platform) (circumstances : Circumstances) (commandLine : CommandLine) :
    let session := (configured platform circumstances.order commandLine).loadPlugins
      circumstances.behaviour circumstances.found
    (session.modulesInOrder.filter session.enabled).map (idOf circumstances) =
      (listedModules circumstances).filter (· ∉ disabledModules platform commandLine) := by
  have fresh : (configured platform circumstances.order commandLine).m_modules = .empty := by
    rw [configured_eq]
  dsimp only
  rw [listedModules_eq circumstances _ fresh]
  exact filter_names circumstances _ _ _ (session_enabled platform circumstances commandLine)

theorem started_listed (platform : Platform) (lister circumstances : Circumstances)
    (same : SameModules lister circumstances) (commandLine : CommandLine) :
    StartsListed platform lister circumstances commandLine
      (starts (((configured platform circumstances.order commandLine).loadPlugins
        circumstances.behaviour circumstances.found).start circumstances.behaviour).2.calls) := by
  obtain ⟨calls,_⟩ := start_started platform circumstances commandLine
  rw [calls]
  refine ⟨⟨_,listings_same lister circumstances same _,?_⟩,?_⟩
  · rw [List.map_map,← session_names platform circumstances commandLine]
    exact (attempted_front circumstances.behaviour _).map (idOf circumstances)
  · intro entry member
    obtain ⟨module,_,rfl⟩ := List.mem_map.mp member
    exact session_argsOf platform circumstances commandLine module

theorem prepared_address (platform : Platform) (commandLine : CommandLine) (process : Process) :
    (prepared platform commandLine process).environment.isSet "DBUS_SESSION_BUS_ADDRESS" =
      process.environment.isSet "DBUS_SESSION_BUS_ADDRESS" := by
  unfold prepared
  cases systemdSupport platform commandLine with
  | false => exact setup_address platform process.environment
  | true =>
    have accepted : Session.Accepted "XDG_CONFIG_DIRS" := by
      unfold Session.Accepted
      decide
    have other := (setupEnvironment platform process.environment).find?_qputenv _
      (systemdConfigDirs platform (setupEnvironment platform process.environment))
      "DBUS_SESSION_BUS_ADDRESS" accepted
    rw [if_neg (by decide)] at other
    exact (congrArg Option.isSome other).trans (setup_address platform process.environment)

theorem waits_iff (platform : Platform) (circumstances : Circumstances) (commandLine : CommandLine)
    (process : Process) : (requireDBusSession (systemdSupport platform commandLine)
      circumstances.systemdAvailable (prepared platform commandLine process)).1 = true ↔
        Waits platform circumstances commandLine process := by
  have parent : getParentProcessName (prepared platform commandLine process) =
      getParentProcessName process := rfl
  unfold requireDBusSession Waits
  rw [prepared_address,parent]
  cases process.environment.isSet "DBUS_SESSION_BUS_ADDRESS" with
  | true => simp
  | false =>
    cases systemdSupport platform commandLine with
    | true => cases circumstances.systemdAvailable <;> simp
    | false => cases contains (getParentProcessName process) "dbus-run-session" <;> simp

theorem initialize_cases (circumstances : Circumstances) (session : Session) :
    initializeSession circumstances session =
      if (circumstances.launcherRegistered && circumstances.managerRegistered) = true
        then (true,session.loadPlugins circumstances.behaviour circumstances.found) else (false,session) := by
  unfold initializeSession
  cases circumstances.launcherRegistered <;> cases circumstances.managerRegistered <;> rfl

/-- From the point where the process has a D-Bus session. -/
theorem go_started (platform : Platform) (lister circumstances : Circumstances)
    (same : SameModules lister circumstances) (commandLine : CommandLine) (process : Process)
    (parsed : Parsed platform process commandLine) (unlisted : commandLine.listModules = false) :
    Started platform lister circumstances process
      (go circumstances (configured platform circumstances.order commandLine)
        (prepared platform commandLine process)) := by
  have listed := started_listed platform lister circumstances same commandLine
  obtain ⟨calls,returns⟩ := start_started platform circumstances commandLine
  have required := waits_iff platform circumstances commandLine process
  unfold go
  rw [configured_enabled]
  split
  next requests waiting =>
    rw [waiting] at required
    exact ⟨commandLine,parsed,unlisted,required.mp rfl⟩
  next requests going =>
    rw [going] at required
    have goes : Goes platform circumstances process commandLine :=
      ⟨parsed,unlisted,fun waits => absurd (required.mpr waits) Bool.false_ne_true⟩
    rw [initialize_cases]
    by_cases registered : (circumstances.launcherRegistered && circumstances.managerRegistered) = true
    · rw [if_pos registered]
      dsimp only
      have names := session_names platform circumstances commandLine
      dsimp only at names calls returns
      generalize (configured platform circumstances.order commandLine).loadPlugins circumstances.behaviour
        circumstances.found = session at *
      generalize session.start circumstances.behaviour = result at *
      obtain ⟨success,last⟩ := result
      cases success with
      | true =>
        have succeeds := returns.mp rfl
        have whole := attempted_all circumstances.behaviour _ succeeds
        refine ⟨commandLine,goes,listed,registered,?_,?_⟩
        · rw [calls,List.map_map,whole]
          exact names ▸ (listings_same lister circumstances same _).ids
        · intro entry member
          rw [calls] at member
          obtain ⟨module,tried,rfl⟩ := List.mem_map.mp member
          exact succeeds module tried
      | false =>
        refine ⟨commandLine,goes,listed,.inr ⟨registered,?_⟩⟩
        rcases attempted_cases circumstances.behaviour (session.modulesInOrder.filter session.enabled) with
          succeeds | ⟨before,module,split,succeed,failure⟩
        · exact absurd (returns.mpr succeeds) Bool.false_ne_true
        · refine ⟨before.map fun module => (module,session.argsOf module),module,session.argsOf module,?_,
            failure,?_⟩
          · rw [calls,split,List.map_append]
            rfl
          · intro entry member
            obtain ⟨other,earlier,rfl⟩ := List.mem_map.mp member
            exact succeed other earlier
    · rw [if_neg registered]
      have nothing : starts (configured platform circumstances.order commandLine).calls = [] := by
        rw [configured_eq]
        rfl
      refine ⟨commandLine,goes,?_,.inl ⟨nothing,by simpa using registered⟩⟩
      rw [nothing]
      exact ⟨⟨_,listings_same lister circumstances same _,List.nil_prefix⟩,
        fun _ member => absurd member List.not_mem_nil⟩

/-- Whatever the options, and whatever is delivered while modules start, the session
manager that gets to its session starts the modules that another process lists with
`--list-modules` and that are not disabled, phase by phase as in the list, up to the first
that fails; only the shell gets the positional arguments. -/
theorem main_started (platform : Platform) (lister circumstances : Circumstances)
    (same : SameModules lister circumstances) (process : Process) :
    Started platform lister circumstances process (main platform circumstances process) := by
  unfold main
  cases refused : (!platform.developmentBuild && process.root) with
  | true =>
    have denied : (platform.developmentBuild || !process.root) = false := by
      rw [permitted_eq,refused,Bool.not_true]
    exact .inl ⟨denied,rfl⟩
  | false =>
    have allowed : (platform.developmentBuild || !process.root) = true := by
      rw [permitted_eq,refused,Bool.not_false]
    rw [if_neg Bool.false_ne_true]
    cases parsed : platform.parse process.arguments with
    | error code => exact .inr ⟨allowed,parsed⟩
    | ok commandLine =>
      dsimp only
      split
      next lists => exact ⟨commandLine,⟨allowed,parsed⟩,lists,rfl,listing circumstances⟩
      next goes =>
        exact go_started platform lister circumstances same commandLine process ⟨allowed,parsed⟩
          (by simpa using goes)

def dedupOrder : HashOrder where
  enumerate := List.dedup
  mem _ _ := List.mem_dedup
  distinct := List.nodup_dedup

def shellPlatform : Platform where
  enableSystemd := true
  developmentBuild := false
  dataDir := "/usr/share"
  homeFilePath home name := home.getD "" ++ "/" ++ name
  parse arguments := .ok {
    noSystemd := true
    disableModules := some "services"
    positionalArguments := arguments.drop 1 }

def shellCircumstances : Circumstances where
  systemdAvailable := true
  launcherRegistered := true
  managerRegistered := true
  order := dedupOrder
  found := shellAndServices
  behaviour := shellBehaviour []

def nested (arguments : List String) : Process :=
  ⟨false,arguments,(Session.noEnvironment true).process,some "dbus-run-session"⟩

/-- The same plugins in a process of their own, enumerated the other way. -/
def otherFound : Session.Discovery where
  candidates := [sessionCandidate "services" ⟨12,true,true⟩,sessionCandidate "shell" ⟨11,true,true⟩]
  plugins := ⟨[("shell",some ⟨11,true,true⟩),("services",some ⟨12,true,true⟩)],by decide⟩
  enumerates := List.Perm.swap _ _ []
  distinct := by decide

def oneBehaviour : Behaviour := { shellBehaviour [] with startupPhase := fun _ => .daemons }

def oneCircumstances : Circumstances := { shellCircumstances with behaviour := oneBehaviour }

def otherCircumstances : Circumstances := { oneCircumstances with found := otherFound }

def bothPlatform : Platform :=
  { shellPlatform with parse := fun arguments => .ok {
      noSystemd := true
      listModules := decide ("--list-modules" ∈ arguments) } }

example : (match main shellPlatform shellCircumstances (nested ["liri-session","--nested"]) with
  | .runs session => starts session.calls
  | _ => []) = [(shellModule,["--nested"])] := by decide

theorem other_same : SameModules otherCircumstances oneCircumstances := by
  have present (name : String) : (name = "shell" ∨ name = "services") ↔
      name = "services" ∨ name = "shell" := or_comm
  refine ⟨?_,fun _ _ _ _ _ => rfl⟩
  intro name
  refine Iff.trans ?_ ((present name).trans ?_)
  · simp [Finds,otherCircumstances,otherFound,or_and_right,exists_or]
  · simp [Finds,oneCircumstances,shellCircumstances,shellAndServices,shellModule,servicesModule,
      or_and_right,exists_or]

/-- Two modules of one phase are listed one way round and started the other. -/
theorem order_within_phase :
    (match main bothPlatform otherCircumstances (nested ["liri-session","--list-modules"]) with
      | .lists names => names
      | _ => []) = ["shell","services"] ∧
    (match main bothPlatform oneCircumstances (nested ["liri-session"]) with
      | .runs session => (starts session.calls).map fun entry => idOf oneCircumstances entry.1
      | _ => []) = ["services","shell"] ∧
    Started bothPlatform otherCircumstances oneCircumstances (nested ["liri-session"])
      (main bothPlatform oneCircumstances (nested ["liri-session"])) := by
  refine ⟨by decide,by decide,?_⟩
  -- the process is kept as a variable, else the outcome is evaluated
  generalize nested ["liri-session"] = process
  exact main_started bothPlatform otherCircumstances oneCircumstances other_same process

end SessionMain

end LiriSession
