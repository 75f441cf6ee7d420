import LiriSession.Daemon

/-! Start-up and shutdown of the daemon over whole runs. The mode flag starts
out set and its setter never clears it, so the normal mode is never entered;
the shutdown guard of `unloadModule` is already up when `shutdown` calls it. -/
namespace LiriSession.Daemon
open Library

/-- The daemon when `main` has parsed `--module` and called `setSystemdEnabled`. -/
def configured (disabled : List String) (value : String) : Daemon :=
  ({ m_disabledModules := disabled } : Daemon).setSystemdEnabled (trimmed value ≠ "")

/-- The rest of `main`, up to the return of its queued call. -/
def mainCall (daemon : Daemon) (value : String) (bus : Registration) (found : Discovery)
    (registered : Bool) : Option Daemon :=
  let ready := daemon.initializeDaemon bus found
  if !ready.1 then some ready.2
  else if trimmed value ≠ "" then ready.2.loadModule (trimmed value) registered
  else some ready.2.start

def autoLoads (registry : PluginRegistry) (name : String) : Bool :=
  ((registry.getMetaData name).value "X-Liri-DaemonModule-AutoLoad" (.bool true)).toBool

def autoLoadModule (registry : PluginRegistry) (plugin : String × Option QObject) : Option QObject :=
  if autoLoads registry plugin.1 then asModule plugin.2 else none

def onDemandModule (registry : PluginRegistry) (plugin : String × Option QObject) : Option QObject :=
  if autoLoads registry plugin.1 then none else asModule plugin.2

theorem autoLoadModule_eq_some (registry : PluginRegistry) (name : String)
    (pointer : Option QObject) (module : QObject) :
    autoLoadModule registry (name,pointer) = some module ↔
      autoLoads registry name = true ∧ pointer = some module ∧ module.isModule = true := by
  unfold autoLoadModule asModule
  cases autoLoads registry name with
  | false => simp
  | true => simp [Option.filter_eq_some_iff]

theorem autoLoad_nodup (registry : PluginRegistry) (plugins : List (String × Option QObject))
    (objects : (plugins.filterMap Prod.snd).Nodup) :
    (plugins.filterMap (autoLoadModule registry)).Nodup := by
  refine objects.sublist ?_
  induction plugins with
  | nil => exact .slnil
  | cons plugin plugins ih =>
    obtain ⟨name,pointer⟩ := plugin
    cases pointer with
    | none => simpa [autoLoadModule,asModule] using ih objects
    | some object =>
      have rest := ih (List.nodup_cons.mp objects).2
      cases loaded : autoLoadModule registry (name,some object) with
      | none => simpa [loaded] using rest.cons object
      | some module =>
        have same := ((autoLoadModule_eq_some registry _ _ module).mp loaded).2.1
        cases same
        simpa [loaded] using rest.cons_cons object

theorem addModule_eq (daemon : Daemon) (plugin : String × Option QObject) :
    daemon.addModule plugin = { daemon with
      m_modules := daemon.m_modules ++ (autoLoadModule daemon.m_pluginRegistry plugin).toList
      m_modulesOnDemand :=
        daemon.m_modulesOnDemand ++ (onDemandModule daemon.m_pluginRegistry plugin).toList } := by
  unfold addModule autoLoadModule onDemandModule autoLoads
  cases asModule plugin.2 with
  | none => simp
  | some module =>
    cases loads : ((daemon.m_pluginRegistry.getMetaData plugin.1).value
      "X-Liri-DaemonModule-AutoLoad" (.bool true)).toBool <;> simp [loads]

theorem addModules_eq (daemon : Daemon) (plugins : List (String × Option QObject)) :
    plugins.foldl addModule daemon = { daemon with
      m_modules := daemon.m_modules ++ plugins.filterMap (autoLoadModule daemon.m_pluginRegistry)
      m_modulesOnDemand :=
        daemon.m_modulesOnDemand ++ plugins.filterMap (onDemandModule daemon.m_pluginRegistry) } := by
  induction plugins generalizing daemon with
  | nil => simp
  | cons plugin plugins ih =>
    rw [List.foldl_cons,ih,addModule_eq]
    cases hl : autoLoadModule daemon.m_pluginRegistry plugin <;>
      cases hd : onDemandModule daemon.m_pluginRegistry plugin <;> simp [hl,hd]

def enabled (daemon : Daemon) (modules : List QObject) : List QObject :=
  modules.filter fun module =>
    daemon.m_pluginRegistry.getNameForInstance (some module) ∉ daemon.m_disabledModules

theorem startModules_eq (daemon : Daemon) (modules : List QObject) :
    modules.foldl startModule daemon = { daemon with
      m_loadedModules := daemon.m_loadedModules ++ daemon.enabled modules
      calls := daemon.calls ++ (daemon.enabled modules).map .start } := by
  induction modules generalizing daemon with
  | nil => simp [enabled]
  | cons module modules ih =>
    rw [List.foldl_cons,ih]
    by_cases disabled : daemon.m_pluginRegistry.getNameForInstance (some module) ∈ daemon.m_disabledModules
    · simp [startModule,enabled,disabled]
    · simp [startModule,enabled,disabled,call]

def ToStart (disabled : List String) (found : Discovery) (module : QObject) : Prop :=
  ∃ name, (name,some module) ∈ found.plugins.entries ∧ module.isModule = true ∧
    autoLoads found.registry name = true ∧ name ∉ disabled

structure Started (disabled : List String) (found : Discovery) (running : Daemon) : Prop where
  registered : .registerService "io.liri.Daemon" ∈ running.calls ∧
    .registerObject "/io/liri/Daemon" ∈ running.calls
  once : ∀ module, ToStart disabled found module → (starts running.calls).count module = 1
  others : ∀ module, ¬ToStart disabled found module → (starts running.calls).count module = 0
  loaded : running.m_loadedModules = starts running.calls

/-- What start-up promises for one value of `--module`. -/
structure StartUp (disabled : List String) (value : String) (bus : Registration)
    (found : Discovery) : Prop where
  mode : (configured disabled value).isSystemdEnabled = true ↔ trimmed value ≠ ""
  normal : trimmed value = "" → ((configured disabled value).initializeDaemon bus found).1 = true →
    ∀ registered running, (configured disabled value).mainCall value bus found registered = some running →
      Started disabled found running

theorem configured_systemd (disabled : List String) (value : String) :
    (configured disabled value).isSystemdEnabled = true := by
  by_cases empty : trimmed value = "" <;>
    simp [configured,setSystemdEnabled,isSystemdEnabled,empty]

/-- Start-up keeps its promise exactly when a module is named on the command line. -/
theorem startUp_iff_module_named (disabled : List String) (value : String) (bus : Registration)
    (found : Discovery) : StartUp disabled value bus found ↔ trimmed value ≠ "" := by
  have systemd := configured_systemd disabled value
  refine ⟨fun promised => promised.mode.mp systemd,?_⟩
  intro named
  exact ⟨⟨fun _ => named,fun _ => systemd⟩,fun empty => absurd empty named⟩

def localeModule : QObject := ⟨1,true,true⟩

def localeCandidate : Candidate where
  object := some localeModule
  json := [("IID",.string "io.liri.Daemon.Module/1.0"),("MetaData",.map [("Id",.string "locale"),
    ("Type",.string "DaemonModule"),("X-Liri-DaemonModule-AutoLoad",.bool true),
    ("X-Liri-DaemonModule-ServiceName",.string "io.liri.Daemon.Modules.Locale")])]

def localeFound : Discovery where
  candidates := [localeCandidate]
  plugins := ⟨[("locale",some localeModule)],by decide⟩
  enumerates := .refl _

theorem startUp_without_module : ¬StartUp [] "" ⟨true,true⟩ localeFound := by
  intro promised
  have named := promised.mode.mp (configured_systemd [] "")
  exact named (by decide)

theorem starts_map (calls : List Call) (modules : List QObject) :
    starts (calls ++ modules.map .start) = starts calls ++ modules := by
  simp [starts]

def normal (disabled : List String) : Daemon :=
  { m_systemdEnabled := false, m_disabledModules := disabled }

theorem normal_ready (disabled : List String) (bus : Registration) (found : Discovery)
    (ready : Daemon) (done : (normal disabled).initializeDaemon bus found = (true,ready)) :
    ready = { normal disabled with
      m_interface := true
      m_pluginRegistry := found.registry
      m_modules := found.plugins.entries.filterMap (autoLoadModule found.registry)
      m_modulesOnDemand := found.plugins.entries.filterMap (onDemandModule found.registry)
      calls := [.registerService "io.liri.Daemon",.registerObject "/io/liri/Daemon"] } := by
  obtain ⟨service,object⟩ := bus
  cases service with
  | false => simp [initializeDaemon,registerWithDBus,isSystemdEnabled,normal] at done
  | true =>
    cases object with
    | false => simp [initializeDaemon,registerWithDBus,isSystemdEnabled,normal] at done
    | true =>
      have loop : (normal disabled).initializeDaemon ⟨true,true⟩ found =
          (true,found.plugins.entries.foldl addModule { normal disabled with
            m_interface := true
            m_pluginRegistry := found.registry
            calls := [.registerService "io.liri.Daemon",.registerObject "/io/liri/Daemon"] }) := rfl
      rw [loop,addModules_eq] at done
      rw [← (Prod.mk.inj done).2]
      simp [normal]

/-- In the normal mode the loops of `initialize()` and `start()` do what start-up
promises, when no object is registered under two names. -/
theorem normal_start (disabled : List String) (bus : Registration) (found : Discovery)
    (ready : Daemon) (objects : found.plugins.objects.Nodup)
    (done : (normal disabled).initializeDaemon bus found = (true,ready)) :
    Started disabled found ready.start := by
  have sorted := normal_ready disabled bus found ready done
  have name (id : String) (module : QObject) (member : (id,some module) ∈ found.plugins.entries) :
      ready.m_pluginRegistry.getNameForInstance (some module) = id := by
    rw [sorted]
    exact found.plugins.key_of_mem objects id module member
  have listed (module : QObject) :
      module ∈ ready.enabled ready.m_modules ↔ ToStart disabled found module := by
    have modules : ready.m_modules = found.plugins.entries.filterMap (autoLoadModule found.registry) := by
      rw [sorted]
    have names : ready.m_disabledModules = disabled := by rw [sorted]; rfl
    simp only [enabled,List.mem_filter,decide_eq_true_eq,modules,names,List.mem_filterMap,ToStart]
    refine ⟨?_,?_⟩
    · intro chosen
      obtain ⟨⟨⟨id,pointer⟩,member,loaded⟩,kept⟩ := chosen
      obtain ⟨loads,object,isModule⟩ := (autoLoadModule_eq_some found.registry id pointer module).mp loaded
      subst object
      exact ⟨id,member,isModule,loads,name id module member ▸ kept⟩
    · intro chosen
      obtain ⟨id,member,isModule,loads,kept⟩ := chosen
      refine ⟨⟨(id,some module),member,?_⟩,(name id module member).symm ▸ kept⟩
      exact (autoLoadModule_eq_some found.registry id _ module).mpr ⟨loads,rfl,isModule⟩
  have distinct : ready.m_modules.Nodup := by
    rw [sorted]
    exact autoLoad_nodup found.registry found.plugins.entries objects
  have loop : ready.start = { ready with
      m_loadedModules := ready.m_loadedModules ++ ready.enabled ready.m_modules
      calls := ready.calls ++ (ready.enabled ready.m_modules).map .start } := by
    rw [← startModules_eq]
    simp [start,sorted,isSystemdEnabled,normal]
  have started : starts ready.start.calls = ready.enabled ready.m_modules := by
    rw [loop,starts_map]
    simp [sorted,starts]
  refine ⟨?_,?_,?_,?_⟩
  · rw [loop]
    simp [sorted]
  · intro module chosen
    rw [started]
    exact List.count_eq_one_of_mem (distinct.filter _) ((listed module).mpr chosen)
  · intro module other
    rw [started]
    exact List.count_eq_zero_of_not_mem fun member => other ((listed module).mp member)
  · rw [started,loop]
    simp [sorted,normal]

inductive Event
  | initializeDaemon (bus : Registration) (found : Discovery)
  | start
  | loadModule (name : String) (registered : Bool)
  | unloadModule (name : String)
  | moduleDeleted (module : QObject)
  | shutdown

def step (daemon : Daemon) : Event → Option Daemon
  | .initializeDaemon bus found => some (daemon.initializeDaemon bus found).2
  | .start => some daemon.start
  | .loadModule name registered => daemon.loadModule name registered
  | .unloadModule name => daemon.unloadModule name
  | .moduleDeleted module => some (daemon.moduleDeleted module)
  | .shutdown => daemon.shutdown

/-- The guard of `unloadModule` answers for every module that `shutdown` walks,
so the list is not touched during the walk and nothing is stopped. -/
theorem stopModules_shuttingDown (daemon : Daemon) (modules : List QObject)
    (down : daemon.isShuttingDown = true) : modules.foldlM stopModule daemon = some daemon := by
  induction modules with
  | nil => rfl
  | cons module modules ih =>
    have stopped : daemon.stopModule module = some daemon := by simp [stopModule,unloadModule,down]
    rw [List.foldlM_cons,stopped]
    exact ih

theorem shutdown_eq (daemon : Daemon) : daemon.shutdown = some { daemon with
    m_running := false
    m_loadedModules := daemon.m_loadedModules.reverse
    calls := daemon.calls ++ [.quit] } := by
  dsimp only [shutdown]
  rw [stopModules_shuttingDown _ _ rfl]
  rfl

theorem stops_quit (calls : List Call) : stops (calls ++ [.quit]) = stops calls := by simp [stops]

/-- What shutdown promises: the loaded modules are stopped once each, latest
first, none stays loaded, and a further shutdown stops nothing. -/
def ShutdownStops (daemon : Daemon) : Prop :=
  ∃ after again, daemon.shutdown = some after ∧ after.shutdown = some again ∧
    stops after.calls = stops daemon.calls ++ daemon.m_loadedModules.reverse ∧
    after.m_loadedModules = [] ∧ stops again.calls = stops after.calls

/-- In every state, whatever was loaded and unloaded before and in either mode,
shutdown keeps its promise exactly when no module is loaded. -/
theorem shutdown_stops_iff_none_loaded (daemon : Daemon) :
    ShutdownStops daemon ↔ daemon.m_loadedModules = [] := by
  refine ⟨?_,?_⟩
  · intro promised
    obtain ⟨after,again,first,second,stopped,emptied,rest⟩ := promised
    rw [shutdown_eq] at first
    rw [← Option.some.inj first] at emptied
    simpa using emptied
  · intro none
    refine ⟨_,_,shutdown_eq daemon,shutdown_eq _,?_,?_,?_⟩
    · simp only [stops_quit,none,List.reverse_nil,List.append_nil]
    · simp only [none,List.reverse_nil]
    · simp only [stops_quit]

theorem shutdown_leaves_locale : ∃ daemon, run step {} [.initializeDaemon ⟨true,true⟩ localeFound,
      .loadModule "locale" true] = some daemon ∧
    daemon.m_loadedModules = [localeModule] ∧ ¬ShutdownStops daemon := by
  refine ⟨_,rfl,by decide,?_⟩
  intro promised
  obtain ⟨after,again,first,second,stopped,rest⟩ := promised
  rw [shutdown_eq] at first
  rw [← Option.some.inj first] at stopped
  exact absurd stopped (by decide)

end LiriSession.Daemon
