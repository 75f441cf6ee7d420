import LiriSession.DaemonLifecycle

/-! Which modules of the daemon can be loaded by name: what each operation does to the
lists, from the start of the daemon through any sequence of operations. -/
namespace LiriSession.Daemon
open Library

/-- `loadModule` for a name that is not disabled, once the pointer has been cast;
`unloadFound` is the same for `unloadModule`. -/
def loadFound (daemon : Daemon) (name : String) (registered : Bool) (found : Option QObject) :
    Daemon :=
  match found with
  | none => daemon
  | some module =>
    if module ∈ daemon.m_loadedModules then daemon
    else if module ∉ daemon.m_modules then daemon
    else if daemon.isSystemdEnabled then
      let metaData := daemon.m_pluginRegistry.getMetaData name
      let serviceName := (metaData.value "X-Liri-DaemonModule-ServiceName" .invalid).toString
      let daemon := daemon.call (.registerService serviceName)
      if !registered then daemon else daemon.startLoaded module
    else daemon.startLoaded module

def unloadFound (daemon : Daemon) (found : Option QObject) : Daemon :=
  match found with
  | none => daemon
  | some module =>
    if module ∉ daemon.m_loadedModules then daemon
    else
      let daemon := daemon.call (.stop module)
      let daemon := { daemon with m_loadedModules := daemon.m_loadedModules.erase module }
      if daemon.isSystemdEnabled then daemon.call .quit else daemon

theorem loadModule_eq (daemon : Daemon) (name : String) (registered : Bool) :
    daemon.loadModule name registered =
      if name ∈ daemon.m_disabledModules then some daemon
      else (daemon.findModule name).map (daemon.loadFound name registered) := rfl

theorem unloadModule_eq (daemon : Daemon) (name : String) : daemon.unloadModule name =
    if daemon.isShuttingDown then some daemon else (daemon.findModule name).map daemon.unloadFound := rfl

def Silent (calls : List Call) : Prop := starts calls = [] ∧ stops calls = []

/-- The claim of the service name succeeds where it is made. -/
def Granted (daemon : Daemon) (registered : Bool) : Prop :=
  daemon.m_systemdEnabled = true → registered = true

theorem loadFound_cases (daemon : Daemon) (name : String) (registered : Bool)
    (found : Option QObject) :
    (∃ extra, Silent extra ∧
      (∀ module, found = some module → module ∉ daemon.m_loadedModules →
        module ∈ daemon.m_modules → ¬Granted daemon registered) ∧
      daemon.loadFound name registered found = { daemon with calls := daemon.calls ++ extra }) ∨
    ∃ module extra, found = some module ∧ module ∉ daemon.m_loadedModules ∧
      module ∈ daemon.m_modules ∧ Granted daemon registered ∧ Silent extra ∧
      daemon.loadFound name registered found = { daemon with
        m_loadedModules := daemon.m_loadedModules ++ [module]
        calls := daemon.calls ++ extra ++ [.start module] } := by
  have same : daemon = { daemon with calls := daemon.calls ++ [] } := by rw [List.append_nil]
  cases found with
  | none => exact .inl ⟨[],⟨rfl,rfl⟩,fun _ none => (nomatch none),same⟩
  | some module =>
    dsimp only [loadFound]
    split
    next loaded =>
      refine .inl ⟨[],⟨rfl,rfl⟩,?_,same⟩
      intro other here unloaded
      cases here
      exact absurd loaded unloaded
    next absent =>
      split
      next unlisted =>
        refine .inl ⟨[],⟨rfl,rfl⟩,?_,same⟩
        intro other here _ listed
        cases here
        exact absurd listed unlisted
      next listed =>
        have listed : module ∈ daemon.m_modules := by simpa using listed
        split
        next systemd =>
          split
          next denied =>
            refine .inl ⟨_,⟨rfl,rfl⟩,?_,rfl⟩
            intro _ _ _ _ granted
            simp [granted systemd] at denied
          next allowed =>
            exact .inr ⟨module,_,rfl,absent,listed,fun _ => by simpa using allowed,⟨rfl,rfl⟩,rfl⟩
        next plain =>
          exact .inr ⟨module,[],rfl,absent,listed,fun systemd => absurd systemd plain,⟨rfl,rfl⟩,
            by simp [startLoaded,call]⟩

theorem unloadFound_cases (daemon : Daemon) (found : Option QObject) :
    daemon.unloadFound found = daemon ∨
    ∃ module extra, module ∈ daemon.m_loadedModules ∧ Silent extra ∧ daemon.unloadFound found =
      { daemon with
        m_loadedModules := daemon.m_loadedModules.erase module
        calls := daemon.calls ++ [.stop module] ++ extra } := by
  cases found with
  | none => exact .inl rfl
  | some module =>
    dsimp only [unloadFound]
    split
    · exact .inl rfl
    next loaded =>
      have loaded : module ∈ daemon.m_loadedModules := by simpa using loaded
      split
      · exact .inr ⟨module,_,loaded,⟨rfl,rfl⟩,rfl⟩
      · exact .inr ⟨module,[],loaded,⟨rfl,rfl⟩,by simp [call]⟩

/-- The module is found under an id that asks for it to be loaded by itself. -/
def AutoLoads (found : Discovery) (module : QObject) : Prop :=
  ∃ id, (id,some module) ∈ found.plugins.entries ∧ autoLoads found.registry id = true

structure Discovered (found : Discovery) (disabled : List String) (daemon : Daemon) : Prop where
  registry : daemon.m_pluginRegistry = found.registry
  disabled : daemon.m_disabledModules = disabled
  listed : ∀ module, module ∉ daemon.deleted →
    (module ∈ daemon.m_modules ↔ module.isModule = true ∧ AutoLoads found module)

def configuredWith (systemd : Bool) (disabled : List String) (interface : Bool) (calls : List Call) :
    Daemon :=
  { m_systemdEnabled := systemd, m_disabledModules := disabled, m_interface := interface,
    calls := calls }

def filled (daemon : Daemon) (found : Discovery) : Daemon :=
  { daemon with
    m_pluginRegistry := found.registry
    m_modules := found.plugins.entries.filterMap (autoLoadModule found.registry)
    m_modulesOnDemand := found.plugins.entries.filterMap (onDemandModule found.registry) }

/-- Either the bus refuses a name and the lists stay empty, or they are filled. -/
theorem initialize_cases (systemd : Bool) (disabled : List String) (bus : Registration)
    (found : Discovery) : ∃ interface calls, Silent calls ∧
      let daemon := configuredWith systemd disabled interface calls
      let ready := initializeDaemon
        { m_systemdEnabled := systemd, m_disabledModules := disabled } bus found
      ready = (true,filled daemon found) ∨ ready = (false,daemon) := by
  have loop (interface : Bool) (calls : List Call) :
      found.plugins.entries.foldl addModule
        { configuredWith systemd disabled interface calls with m_pluginRegistry := found.registry } =
      filled (configuredWith systemd disabled interface calls) found := by
    rw [addModules_eq]
    rfl
  obtain ⟨service,object⟩ := bus
  cases systemd with
  | true => exact ⟨false,[],⟨rfl,rfl⟩,.inl (congrArg (Prod.mk true) (loop false []))⟩
  | false =>
    cases service with
    | false => exact ⟨true,_,⟨rfl,rfl⟩,.inr rfl⟩
    | true =>
      cases object with
      | false => exact ⟨true,_,⟨rfl,rfl⟩,.inr rfl⟩
      | true => exact ⟨true,_,⟨rfl,rfl⟩,.inl (congrArg (Prod.mk true) (loop true _))⟩

theorem initialize_discovered (systemd : Bool) (disabled : List String) (bus : Registration)
    (found : Discovery) (ready : Daemon)
    (done : initializeDaemon { m_systemdEnabled := systemd, m_disabledModules := disabled } bus found =
      (true,ready)) : Discovered found disabled ready := by
  obtain ⟨interface,calls,_,result⟩ := initialize_cases systemd disabled bus found
  rcases result with success | failure
  · rw [success] at done
    cases done
    refine ⟨rfl,rfl,?_⟩
    intro module _
    simp only [filled,List.mem_filterMap,AutoLoads]
    apply Iff.intro
    · intro chosen
      obtain ⟨⟨id,pointer⟩,member,loads⟩ := chosen
      obtain ⟨auto,rfl,isModule⟩ := (autoLoadModule_eq_some found.registry id pointer module).mp loads
      exact ⟨isModule,id,member,auto⟩
    · intro chosen
      obtain ⟨isModule,id,member,auto⟩ := chosen
      exact ⟨_,member,(autoLoadModule_eq_some found.registry id _ module).mpr ⟨auto,rfl,isModule⟩⟩
  · rw [failure] at done
    cases done

def AfterInitialize : Event → Prop
  | .initializeDaemon _ _ => False
  | _ => True

theorem Discovered.same {found : Discovery} {disabled : List String} {daemon : Daemon}
    (discovered : Discovered found disabled daemon) (changed : Daemon)
    (registry : changed.m_pluginRegistry = daemon.m_pluginRegistry)
    (names : changed.m_disabledModules = daemon.m_disabledModules)
    (modules : changed.m_modules = daemon.m_modules) (deleted : changed.deleted = daemon.deleted) :
    Discovered found disabled changed := by
  refine ⟨registry.trans discovered.registry,names.trans discovered.disabled,?_⟩
  rw [modules,deleted]
  exact discovered.listed

theorem Discovered.delete {found : Discovery} {disabled : List String} {daemon : Daemon}
    (discovered : Discovered found disabled daemon) (gone : QObject) :
    Discovered found disabled (daemon.moduleDeleted gone) := by
  refine ⟨discovered.registry,discovered.disabled,?_⟩
  intro module undeleted
  obtain ⟨before,apart⟩ := not_or.mp (List.mem_append.not.mp undeleted)
  have apart : module ≠ gone := fun same => apart (List.mem_singleton.mpr same)
  rw [← discovered.listed module before]
  exact List.mem_erase_of_ne apart

theorem discovered_step (found : Discovery) (disabled : List String) (daemon next : Daemon)
    (event : Event) (later : AfterInitialize event) (discovered : Discovered found disabled daemon)
    (taken : step daemon event = some next) : Discovered found disabled next := by
  cases event with
  | initializeDaemon => exact later.elim
  | start =>
    cases taken
    unfold start
    split
    · exact discovered
    · rw [startModules_eq]
      exact discovered.same _ rfl rfl rfl rfl
  | loadModule name registered =>
    change daemon.loadModule name registered = some next at taken
    rw [loadModule_eq] at taken
    split at taken
    · cases taken
      exact discovered
    · obtain ⟨pointer,_,rfl⟩ := Option.map_eq_some_iff.mp taken
      rcases loadFound_cases daemon name registered pointer with
        ⟨extra,_,_,done⟩ | ⟨module,extra,_,_,_,_,_,done⟩
      · rw [done]
        exact discovered.same _ rfl rfl rfl rfl
      · rw [done]
        exact discovered.same _ rfl rfl rfl rfl
  | unloadModule name =>
    change daemon.unloadModule name = some next at taken
    rw [unloadModule_eq] at taken
    split at taken
    · cases taken
      exact discovered
    · obtain ⟨pointer,_,rfl⟩ := Option.map_eq_some_iff.mp taken
      rcases unloadFound_cases daemon pointer with done | ⟨module,extra,_,_,done⟩
      · rw [done]
        exact discovered
      · rw [done]
        exact discovered.same _ rfl rfl rfl rfl
  | moduleDeleted gone =>
    cases taken
    exact discovered.delete gone
  | shutdown =>
    change daemon.shutdown = some next at taken
    rw [shutdown_eq] at taken
    cases taken
    exact discovered.same _ rfl rfl rfl rfl

theorem discovered_run (found : Discovery) (disabled : List String) (ready daemon : Daemon)
    (events : List Event) (later : ∀ event ∈ events, AfterInitialize event)
    (initial : Discovered found disabled ready) (ran : run step ready events = some daemon) :
    Discovered found disabled daemon := by
  apply run_steps_invariant step (fun state _ => Discovered found disabled state)
    (fun _ event => AfterInitialize event) _ ready daemon events initial
    (steps_of_all step _ ready events fun event member _ => later event member) ran
  intro state event events next discovered later taken
  exact discovered_step found disabled state next event later discovered taken

/-- A module that a client may ask for under this name. -/
structure Eligible (found : Discovery) (disabled : List String) (daemon : Daemon) (name : String)
    (module : QObject) : Prop where
  entry : (name,some module) ∈ found.plugins.entries
  isModule : module.isModule = true
  enabled : name ∉ disabled
  unloaded : module ∉ daemon.m_loadedModules
  undeleted : module ∉ daemon.deleted

structure Loads (daemon next : Daemon) (module : QObject) : Prop where
  started : starts next.calls = starts daemon.calls ++ [module]
  stopped : stops next.calls = stops daemon.calls
  loaded : next.m_loadedModules = daemon.m_loadedModules ++ [module]
  modules : next.m_modules = daemon.m_modules
  onDemand : next.m_modulesOnDemand = daemon.m_modulesOnDemand

/-- What one call of `loadModule` is to do: load the module of that name if a client may
ask for it, whatever its metadata say, and otherwise start nothing. -/
structure LoadsByName (found : Discovery) (disabled : List String) (daemon : Daemon)
    (name : String) (registered : Bool) : Prop where
  loads : ∀ module, Eligible found disabled daemon name module → Granted daemon registered →
    ∃ next, daemon.loadModule name registered = some next ∧ Loads daemon next module
  others : (∀ module, Eligible found disabled daemon name module → ¬Granted daemon registered) →
    ∃ next, daemon.loadModule name registered = some next ∧
      starts next.calls = starts daemon.calls ∧ next.m_loadedModules = daemon.m_loadedModules

/-- The registry's pointer is not cast, or it is not one to a deleted object. -/
def CastDefined (found : Discovery) (disabled : List String) (daemon : Daemon) (name : String) : Prop :=
  name ∈ disabled ∨ ∀ object, (name,some object) ∈ found.plugins.entries → object ∉ daemon.deleted

theorem qobjectCast_some (module : QObject) (declares : module.declaresInterface = true) :
    qobjectCast (some module) = some module := by
  simp [qobjectCast,declares]

theorem getInstance_entry (registry : PluginRegistry) (name : String) (object : QObject)
    (held : registry.getInstance name = some object) :
    (name,some object) ∈ registry.m_plugins.entries := by
  unfold PluginRegistry.getInstance at held
  cases located : registry.m_plugins.find? name with
  | none => simp [located] at held
  | some pointer =>
    rw [located] at held
    cases held
    exact (PluginsMap.find?_eq_some ..).mp located

theorem findModule_entry (found : Discovery) (disabled : List String) (daemon : Daemon)
    (name : String) (module : QObject) (discovered : Discovered found disabled daemon)
    (entry : (name,some module) ∈ found.plugins.entries) (undeleted : module ∉ daemon.deleted) :
    daemon.findModule name = some (qobjectCast (some module)) := by
  have held : daemon.m_pluginRegistry.getInstance name = some module := by
    rw [discovered.registry]
    change (found.plugins.find? name).getD none = some module
    rw [(found.plugins.find?_eq_some name _).mpr entry]
    rfl
  rw [findModule,held]
  exact if_neg undeleted

theorem silent_counted (calls extra : List Call) (silent : Silent extra) (last : List Call) :
    starts (calls ++ extra ++ last) = starts calls ++ starts last ∧
      stops (calls ++ extra ++ last) = stops calls ++ stops last := by
  have first : starts extra = [] := silent.1
  have second : stops extra = [] := silent.2
  unfold starts stops at *
  simp [first,second]

theorem loadFound_listed (daemon : Daemon) (name : String) (registered : Bool) (module : QObject)
    (unloaded : module ∉ daemon.m_loadedModules) (listed : module ∈ daemon.m_modules)
    (granted : Granted daemon registered) :
    Loads daemon (daemon.loadFound name registered (some module)) module := by
  rcases loadFound_cases daemon name registered (some module) with
    ⟨_,_,refused,_⟩ | ⟨other,extra,same,_,_,_,silent,done⟩
  · exact absurd granted (refused module rfl unloaded listed)
  · cases same
    obtain ⟨started,stopped⟩ := silent_counted daemon.calls extra silent [.start module]
    rw [done]
    exact ⟨started,stopped.trans (List.append_nil _),rfl,rfl,rfl⟩

theorem loadFound_refused (daemon : Daemon) (name : String) (registered : Bool)
    (found : Option QObject) (refused : ∀ module, found = some module →
      module ∉ daemon.m_loadedModules → module ∈ daemon.m_modules → ¬Granted daemon registered) :
    starts (daemon.loadFound name registered found).calls = starts daemon.calls ∧
      (daemon.loadFound name registered found).m_loadedModules = daemon.m_loadedModules := by
  rcases loadFound_cases daemon name registered found with
    ⟨extra,silent,_,done⟩ | ⟨module,_,same,unloaded,listed,granted,_⟩
  · obtain ⟨started,_⟩ := silent_counted daemon.calls extra silent []
    rw [List.append_nil] at started
    rw [done]
    exact ⟨started.trans (List.append_nil _),rfl⟩
  · exact absurd granted (refused module same unloaded listed)

theorem loadModule_others (found : Discovery) (disabled : List String) (daemon : Daemon)
    (name : String) (registered : Bool) (discovered : Discovered found disabled daemon)
    (refused : ∀ module, Eligible found disabled daemon name module → ¬Granted daemon registered)
    (defined : CastDefined found disabled daemon name) :
    ∃ next, daemon.loadModule name registered = some next ∧
      starts next.calls = starts daemon.calls ∧ next.m_loadedModules = daemon.m_loadedModules := by
  rw [loadModule_eq,discovered.disabled]
  by_cases off : name ∈ disabled
  · exact ⟨daemon,if_pos off,rfl,rfl⟩
  · rw [if_neg off]
    have defined := defined.resolve_left off
    cases held : daemon.m_pluginRegistry.getInstance name with
    | none =>
      refine ⟨daemon,?_,rfl,rfl⟩
      simp [findModule,held,loadFound]
    | some object =>
      have entry := getInstance_entry daemon.m_pluginRegistry name object held
      rw [discovered.registry] at entry
      have undeleted := defined object entry
      rw [findModule_entry found disabled daemon name object discovered entry undeleted]
      refine ⟨_,rfl,loadFound_refused daemon name registered _ ?_⟩
      intro module same unloaded listed
      obtain ⟨same,_⟩ := Option.filter_eq_some_iff.mp same
      cases same
      have isModule := ((discovered.listed object undeleted).mp listed).1
      exact refused object ⟨entry,isModule,off,unloaded,undeleted⟩

/-- Under the name of a deleted module there is nothing else to ask for, and the call has
no defined outcome. -/
theorem castDefined_of_others (found : Discovery) (disabled : List String) (daemon : Daemon)
    (name : String) (registered : Bool) (discovered : Discovered found disabled daemon)
    (promised : LoadsByName found disabled daemon name registered) :
    CastDefined found disabled daemon name := by
  by_cases off : name ∈ disabled
  · exact .inl off
  · refine .inr ?_
    intro object entry deleted
    have none_eligible (module : QObject) (eligible : Eligible found disabled daemon name module) :
        ¬Granted daemon registered := by
      have same := List.inj_on_of_nodup_map found.plugins.distinct eligible.entry entry rfl
      cases same
      exact absurd deleted eligible.undeleted
    obtain ⟨next,taken,_⟩ := promised.others none_eligible
    have held : daemon.m_pluginRegistry.getInstance name = some object := by
      rw [discovered.registry]
      change (found.plugins.find? name).getD none = some object
      rw [(found.plugins.find?_eq_some name _).mpr entry]
      rfl
    have unanswered : daemon.findModule name = none := by
      rw [findModule,held]
      exact if_pos deleted
    rw [loadModule_eq,discovered.disabled,if_neg off,unanswered] at taken
    cases taken

/-- In every state of a running daemon a call of `loadModule` does what it is to do
exactly when it is not for a module that only loads on demand or whose class does not
declare the interface, and not for one that has been deleted. -/
theorem loadsByName_iff (systemd : Bool) (disabled : List String) (bus : Registration)
    (found : Discovery) (ready daemon : Daemon) (events : List Event) (name : String)
    (registered : Bool)
    (done : initializeDaemon { m_systemdEnabled := systemd, m_disabledModules := disabled } bus found =
      (true,ready))
    (later : ∀ event ∈ events, AfterInitialize event) (ran : run step ready events = some daemon) :
    LoadsByName found disabled daemon name registered ↔
      (∀ module, Eligible found disabled daemon name module → Granted daemon registered →
        AutoLoads found module ∧ module.declaresInterface = true) ∧
      CastDefined found disabled daemon name := by
  have discovered := discovered_run found disabled ready daemon events later
    (initialize_discovered systemd disabled bus found ready done) ran
  have called (module : QObject) (eligible : Eligible found disabled daemon name module) :
      daemon.loadModule name registered =
        some (daemon.loadFound name registered (qobjectCast (some module))) := by
    rw [loadModule_eq,discovered.disabled,if_neg eligible.enabled,
      findModule_entry found disabled daemon name module discovered eligible.entry eligible.undeleted]
    rfl
  apply Iff.intro
  · intro promised
    refine ⟨?_,castDefined_of_others found disabled daemon name registered discovered promised⟩
    intro module eligible granted
    obtain ⟨next,taken,loads⟩ := promised.loads module eligible granted
    rw [called module eligible] at taken
    rcases loadFound_cases daemon name registered (qobjectCast (some module)) with
      ⟨extra,_,_,unchanged⟩ | ⟨other,_,same,_,listed,_⟩
    · have longer := loads.loaded
      rw [← Option.some.inj taken,unchanged] at longer
      simp at longer
    · obtain ⟨same,declares⟩ := Option.filter_eq_some_iff.mp same
      cases same
      exact ⟨((discovered.listed module eligible.undeleted).mp listed).2,declares⟩
  · intro condition
    obtain ⟨auto,defined⟩ := condition
    apply LoadsByName.mk
    · intro module eligible granted
      obtain ⟨loads,declares⟩ := auto module eligible granted
      have listed := (discovered.listed module eligible.undeleted).mpr ⟨eligible.isModule,loads⟩
      refine ⟨_,called module eligible,?_⟩
      rw [qobjectCast_some module declares]
      exact loadFound_listed daemon name registered module eligible.unloaded listed granted
    · intro refused
      exact loadModule_others found disabled daemon name registered discovered refused defined

def onDemandCandidate : Candidate where
  object := some localeModule
  json := [("IID",.string "io.liri.Daemon.Module/1.0"),("MetaData",.map [("Id",.string "locale"),
    ("Type",.string "DaemonModule"),("X-Liri-DaemonModule-AutoLoad",.bool false),
    ("X-Liri-DaemonModule-ServiceName",.string "io.liri.Daemon.Modules.Locale")])]

def onDemandFound : Discovery where
  candidates := [onDemandCandidate]
  plugins := ⟨[("locale",some localeModule)],List.nodup_singleton _⟩
  enumerates := .refl _

theorem on_demand_not_loaded :
    let daemon := (initializeDaemon {} ⟨true,true⟩ onDemandFound).2
    ¬LoadsByName onDemandFound [] daemon "locale" true := by
  intro daemon promised
  have eligible : Eligible onDemandFound [] daemon "locale" localeModule :=
    ⟨by decide,rfl,by decide,by decide,by decide⟩
  obtain ⟨next,taken,loads⟩ := promised.loads localeModule eligible (fun _ => rfl)
  have same : daemon.loadModule "locale" true = some daemon := rfl
  rw [same] at taken
  have longer := loads.loaded
  rw [← Option.some.inj taken] at longer
  simp at longer

theorem locale_loads_by_name :
    let daemon := (initializeDaemon {} ⟨true,true⟩ localeFound).2
    LoadsByName localeFound [] daemon "locale" true := by
  intro daemon
  apply (loadsByName_iff true [] ⟨true,true⟩ localeFound daemon daemon [] "locale" true rfl
    (fun _ member => nomatch member) rfl).mpr
  refine ⟨?_,.inr (fun _ _ => List.not_mem_nil)⟩
  intro module eligible _
  have same := List.inj_on_of_nodup_map localeFound.plugins.distinct eligible.entry
    (List.mem_singleton.mpr rfl) rfl
  cases same
  exact ⟨⟨"locale",eligible.entry,by decide⟩,rfl⟩

end LiriSession.Daemon
