import LiriSession.DaemonLoading

/-! The lists of the daemon and the calls its modules get, over whole runs. The cast of
a pointer to a deleted object is left open: it may fail, or give the pointer back. -/
namespace LiriSession.Daemon
open Library

/-- The module registered under a name; `survives` is what a cast of a pointer to a
deleted object comes to. -/
def castInstance (daemon : Daemon) (name : String) (survives : Bool) : Option QObject :=
  match daemon.m_pluginRegistry.getInstance name with
  | none => none
  | some object => if object ∈ daemon.deleted && !survives then none else qobjectCast (some object)

inductive Operation
  | loadModule (name : String) (registered survives : Bool)
  | unloadModule (name : String) (survives : Bool)
  | moduleDeleted (module : QObject)
  | shutdown

def operate (daemon : Daemon) : Operation → Daemon
  | .loadModule name registered survives =>
    if name ∈ daemon.m_disabledModules then daemon
    else daemon.loadFound name registered (daemon.castInstance name survives)
  | .unloadModule name survives =>
    if daemon.isShuttingDown then daemon else daemon.unloadFound (daemon.castInstance name survives)
  | .moduleDeleted module => daemon.moduleDeleted module
  | .shutdown => daemon.shutdown.getD daemon

def Operation.event : Operation → Event
  | .loadModule name registered _ => .loadModule name registered
  | .unloadModule name _ => .unloadModule name
  | .moduleDeleted module => .moduleDeleted module
  | .shutdown => .shutdown

/-- Where the casts are defined, an operation is the step of the daemon. -/
theorem operate_of_step (daemon next : Daemon) (operation : Operation)
    (taken : step daemon operation.event = some next) : daemon.operate operation = next := by
  have cast (name : String) (survives : Bool) (found : Option QObject)
      (defined : daemon.findModule name = some found) : daemon.castInstance name survives = found := by
    unfold findModule at defined
    unfold castInstance
    cases held : daemon.m_pluginRegistry.getInstance name with
    | none =>
      rw [held] at defined
      exact Option.some.inj defined
    | some object =>
      simp only [held] at defined
      split at defined
      · cases defined
      next undeleted =>
        have skipped : ¬(object ∈ daemon.deleted && !survives) = true := by simp [undeleted]
        dsimp only
        rw [if_neg skipped]
        exact Option.some.inj defined
  cases operation with
  | loadModule name registered survives =>
    change daemon.loadModule name registered = some next at taken
    rw [loadModule_eq] at taken
    dsimp only [operate]
    split at taken
    next off => rw [if_pos off,Option.some.inj taken]
    next on =>
      obtain ⟨found,defined,done⟩ := Option.map_eq_some_iff.mp taken
      rw [if_neg on,cast name survives found defined,done]
  | unloadModule name survives =>
    change daemon.unloadModule name = some next at taken
    rw [unloadModule_eq] at taken
    dsimp only [operate]
    split at taken
    next down => rw [if_pos down,Option.some.inj taken]
    next up =>
      obtain ⟨found,defined,done⟩ := Option.map_eq_some_iff.mp taken
      rw [if_neg up,cast name survives found defined,done]
  | moduleDeleted module => exact Option.some.inj taken
  | shutdown =>
    change daemon.shutdown = some next at taken
    rw [operate,taken]
    rfl

/-- The calls that a module gets, in order: true for a start. -/
def turns (module : QObject) (calls : List Call) : List Bool :=
  calls.filterMap fun
    | .start other => if other = module then some true else none
    | .stop other => if other = module then some false else none
    | _ => none

/-- The turns strictly alternate, the first being the expected one. -/
def Alternate : Bool → List Bool → Prop
  | _, [] => True
  | expected, turn::rest => turn = expected ∧ Alternate (!expected) rest

def nextTurn (first : Bool) (made : List Bool) : Bool := made.foldl (fun _ turn => !turn) first

theorem alternate_append (first : Bool) (made : List Bool) (turn : Bool) :
    Alternate first (made ++ [turn]) ↔ Alternate first made ∧ turn = nextTurn first made := by
  induction made generalizing first with
  | nil => simp [Alternate,nextTurn]
  | cons head made ih =>
    rw [List.cons_append,Alternate,Alternate,ih,and_assoc]
    have same (alike : head = first) : nextTurn (!first) made = nextTurn first (head::made) := by
      rw [← alike]
      rfl
    apply and_congr_right
    intro alike
    rw [same alike]

theorem nextTurn_append (first : Bool) (made : List Bool) (turn : Bool) :
    nextTurn first (made ++ [turn]) = !turn := by
  simp [nextTurn]

/-- What is to hold of the lists and of the calls in every state of a run. -/
structure Kept (disabled : List String) (daemon : Daemon) : Prop where
  nodup : daemon.m_loadedModules.Nodup
  enabled : ∀ module ∈ daemon.m_loadedModules,
    daemon.m_pluginRegistry.getNameForInstance (some module) ∉ disabled
  undeleted : ∀ module ∈ daemon.m_loadedModules, module ∉ daemon.deleted
  subset : ∀ module ∈ daemon.m_loadedModules, module ∈ daemon.m_modules
  disjoint : ∀ module ∈ daemon.m_modules, module ∉ daemon.m_modulesOnDemand
  alternate : ∀ module, Alternate true (turns module daemon.calls)

/-- With it, what carries it from one state to the next. -/
structure Consistent (disabled : List String) (daemon : Daemon) : Prop extends Kept disabled daemon where
  names : daemon.m_disabledModules = disabled
  objects : daemon.m_pluginRegistry.m_plugins.objects.Nodup
  modules : daemon.m_modules.Nodup
  present : ∀ module ∈ daemon.m_modules, module ∉ daemon.deleted
  loaded : ∀ module ∈ daemon.m_modules,
    (module ∈ daemon.m_loadedModules ↔ nextTurn true (turns module daemon.calls) = false)

theorem turns_append (module : QObject) (first second : List Call) :
    turns module (first ++ second) = turns module first ++ turns module second :=
  List.filterMap_append

theorem turns_silent (module : QObject) (calls : List Call) (silent : Silent calls) :
    turns module calls = [] := by
  obtain ⟨unstarted,unstopped⟩ := silent
  apply List.filterMap_eq_nil_iff.mpr
  intro made member
  cases made with
  | start other =>
    have listed : other ∈ starts calls := List.mem_filterMap.mpr ⟨_,member,rfl⟩
    rw [unstarted] at listed
    cases listed
  | stop other =>
    have listed : other ∈ stops calls := List.mem_filterMap.mpr ⟨_,member,rfl⟩
    rw [unstopped] at listed
    cases listed
  | registerService => rfl
  | registerObject => rfl
  | quit => rfl

structure Takes (made : Call) (module : QObject) (turn : Bool) : Prop where
  own : turns module [made] = [turn]
  others : ∀ other, module ≠ other → turns other [made] = []

theorem start_takes (module : QObject) : Takes (.start module) module true := by
  apply Takes.mk
  · simp [turns]
  · intro other apart
    simp [turns,apart]

theorem stop_takes (module : QObject) : Takes (.stop module) module false := by
  apply Takes.mk
  · simp [turns]
  · intro other apart
    simp [turns,apart]

theorem Takes.turns_of_ne {made : Call} {module : QObject} {turn : Bool}
    (takes : Takes made module turn) (calls : List Call) (other : QObject) (apart : module ≠ other) :
    turns other (calls ++ [made]) = turns other calls := by
  rw [turns_append,takes.others other apart,List.append_nil]

theorem Takes.nextTurn {made : Call} {module : QObject} {turn : Bool}
    (takes : Takes made module turn) (calls : List Call) :
    Daemon.nextTurn true (turns module (calls ++ [made])) = !turn := by
  rw [turns_append,takes.own,nextTurn_append]

theorem Takes.alternate {made : Call} {module : QObject} {turn : Bool}
    (takes : Takes made module turn) (calls : List Call)
    (before : ∀ other, Alternate true (turns other calls))
    (ready : Daemon.nextTurn true (turns module calls) = turn) (other : QObject) :
    Alternate true (turns other (calls ++ [made])) := by
  by_cases same : module = other
  · rw [← same,turns_append,takes.own]
    exact (alternate_append true _ turn).mpr ⟨before module,ready.symm⟩
  · rw [takes.turns_of_ne calls other same]
    exact before other

section
variable {disabled : List String} {daemon : Daemon}

theorem Consistent.silent (consistent : Consistent disabled daemon) (extra : List Call)
    (silent : Silent extra) : Consistent disabled { daemon with calls := daemon.calls ++ extra } := by
  have same (module : QObject) : turns module (daemon.calls ++ extra) = turns module daemon.calls := by
    rw [turns_append,turns_silent module extra silent,List.append_nil]
  refine { consistent with alternate := ?_, loaded := ?_ }
  · intro module
    rw [same]
    exact consistent.alternate module
  · intro module listed
    rw [same]
    exact consistent.loaded module listed

theorem Consistent.load (consistent : Consistent disabled daemon) (module : QObject)
    (unloaded : module ∉ daemon.m_loadedModules) (listed : module ∈ daemon.m_modules)
    (enabled : daemon.m_pluginRegistry.getNameForInstance (some module) ∉ disabled) :
    Consistent disabled { daemon with
      m_loadedModules := daemon.m_loadedModules ++ [module]
      calls := daemon.calls ++ [.start module] } := by
  have takes := start_takes module
  have ready : nextTurn true (turns module daemon.calls) = true := by
    have stopped := (consistent.loaded module listed).not.mp unloaded
    simpa using stopped
  refine { consistent with
    nodup := ?_
    enabled := List.forall_mem_append.mpr ⟨consistent.enabled,List.forall_mem_singleton.mpr enabled⟩
    undeleted := List.forall_mem_append.mpr
      ⟨consistent.undeleted,List.forall_mem_singleton.mpr (consistent.present module listed)⟩
    subset := List.forall_mem_append.mpr ⟨consistent.subset,List.forall_mem_singleton.mpr listed⟩
    alternate := takes.alternate _ consistent.alternate ready
    loaded := ?_ }
  · exact List.nodup_append_comm.mp (List.nodup_cons.mpr ⟨unloaded,consistent.nodup⟩)
  · intro other member
    by_cases same : module = other
    · rw [← same,takes.nextTurn]
      simp
    · rw [takes.turns_of_ne _ other same,← consistent.loaded other member]
      simp [Ne.symm same]

theorem Consistent.unload (consistent : Consistent disabled daemon) (module : QObject)
    (loaded : module ∈ daemon.m_loadedModules) :
    Consistent disabled { daemon with
      m_loadedModules := daemon.m_loadedModules.erase module
      calls := daemon.calls ++ [.stop module] } := by
  have takes := stop_takes module
  have ready : nextTurn true (turns module daemon.calls) = false :=
    (consistent.loaded module (consistent.subset module loaded)).mp loaded
  have kept (other : QObject) (member : other ∈ daemon.m_loadedModules.erase module) :
      other ∈ daemon.m_loadedModules := List.mem_of_mem_erase member
  refine { consistent with
    nodup := consistent.nodup.erase module
    enabled := fun other member => consistent.enabled other (kept other member)
    undeleted := fun other member => consistent.undeleted other (kept other member)
    subset := fun other member => consistent.subset other (kept other member)
    alternate := takes.alternate _ consistent.alternate ready
    loaded := ?_ }
  intro other member
  by_cases same : module = other
  · rw [← same,takes.nextTurn]
    simp [consistent.nodup.mem_erase_iff]
  · rw [takes.turns_of_ne _ other same,← consistent.loaded other member]
    exact List.mem_erase_of_ne (Ne.symm same)

theorem Consistent.delete (consistent : Consistent disabled daemon) (module : QObject) :
    Consistent disabled (daemon.moduleDeleted module) := by
  have kept (other : QObject) (member : other ∈ daemon.m_modules.erase module) :
      other ≠ module ∧ other ∈ daemon.m_modules := consistent.modules.mem_erase_iff.mp member
  have still (other : QObject) (member : other ∈ daemon.m_loadedModules.erase module) :
      other ≠ module ∧ other ∈ daemon.m_loadedModules := consistent.nodup.mem_erase_iff.mp member
  refine { consistent with
    nodup := consistent.nodup.erase module
    enabled := fun other member => consistent.enabled other (still other member).2
    undeleted := ?_, subset := ?_, disjoint := ?_
    modules := consistent.modules.erase module
    present := ?_, loaded := ?_ }
  · intro other member
    obtain ⟨apart,old⟩ := still other member
    simpa [moduleDeleted,apart] using consistent.undeleted other old
  · intro other member
    obtain ⟨apart,old⟩ := still other member
    exact (List.mem_erase_of_ne apart).mpr (consistent.subset other old)
  · intro other member onDemand
    exact consistent.disjoint other (kept other member).2 (List.mem_of_mem_erase onDemand)
  · intro other member
    obtain ⟨apart,old⟩ := kept other member
    simpa [moduleDeleted,apart] using consistent.present other old
  · intro other member
    obtain ⟨apart,old⟩ := kept other member
    exact (List.mem_erase_of_ne apart).trans (consistent.loaded other old)

end

theorem castInstance_entry (daemon : Daemon) (name : String) (survives : Bool) (module : QObject)
    (found : daemon.castInstance name survives = some module) :
    (name,some module) ∈ daemon.m_pluginRegistry.m_plugins.entries := by
  unfold castInstance at found
  cases held : daemon.m_pluginRegistry.getInstance name with
  | none => simp [held] at found
  | some object =>
    simp only [held] at found
    split at found
    · cases found
    · cases (Option.filter_eq_some_iff.mp found).1
      exact getInstance_entry daemon.m_pluginRegistry name module held

theorem consistent_step (disabled : List String) (daemon : Daemon) (operation : Operation)
    (consistent : Consistent disabled daemon) : Consistent disabled (daemon.operate operation) := by
  cases operation with
  | loadModule name registered survives =>
    dsimp only [operate]
    split
    · exact consistent
    next on =>
      rcases loadFound_cases daemon name registered (daemon.castInstance name survives) with
        ⟨extra,silent,_,done⟩ | ⟨module,extra,same,unloaded,listed,_,silent,done⟩
      · rw [done]
        exact consistent.silent extra silent
      · rw [done]
        have entry := castInstance_entry daemon name survives module same
        have named := daemon.m_pluginRegistry.m_plugins.key_of_mem consistent.objects name module entry
        apply (consistent.silent extra silent).load module unloaded listed
        change daemon.m_pluginRegistry.m_plugins.key (some module) ∉ disabled
        rw [named,← consistent.names]
        exact on
  | unloadModule name survives =>
    dsimp only [operate]
    split
    · exact consistent
    · rcases unloadFound_cases daemon (daemon.castInstance name survives) with
        done | ⟨module,extra,loaded,silent,done⟩
      · rw [done]
        exact consistent
      · rw [done]
        exact (consistent.unload module loaded).silent extra silent
  | moduleDeleted module => exact consistent.delete module
  | shutdown =>
    rw [operate,shutdown_eq,Option.getD_some]
    have reversed := consistent.silent [.quit] ⟨rfl,rfl⟩
    exact { reversed with
      nodup := List.nodup_reverse.mpr consistent.nodup
      enabled := fun module member => consistent.enabled module (List.mem_reverse.mp member)
      undeleted := fun module member => consistent.undeleted module (List.mem_reverse.mp member)
      subset := fun module member => consistent.subset module (List.mem_reverse.mp member)
      loaded := fun module member => List.mem_reverse.trans (reversed.loaded module member) }

theorem consistent_run (disabled : List String) (daemon : Daemon) (operations : List Operation)
    (initial : Consistent disabled daemon) : Consistent disabled (operations.foldl operate daemon) := by
  induction operations generalizing daemon with
  | nil => exact initial
  | cons operation operations ih => exact ih _ (consistent_step disabled daemon operation initial)

theorem onDemand_mem (registry : PluginRegistry) (plugin : String × Option QObject) (module : QObject)
    (found : onDemandModule registry plugin = some module) :
    plugin.2 = some module ∧ autoLoads registry plugin.1 = false := by
  unfold onDemandModule at found
  split at found
  · cases found
  next manual => exact ⟨(Option.filter_eq_some_iff.mp found).1,by simpa using manual⟩

theorem configured_consistent (systemd : Bool) (disabled : List String) (interface : Bool)
    (calls : List Call) (silent : Silent calls) :
    Consistent disabled (configuredWith systemd disabled interface calls) := by
  have quiet (module : QObject) : turns module calls = [] := turns_silent module calls silent
  refine ⟨⟨.nil,?_,?_,?_,?_,?_⟩,rfl,.nil,.nil,?_,?_⟩
  · simp [configuredWith]
  · simp [configuredWith]
  · simp [configuredWith]
  · simp [configuredWith]
  · intro module
    change Alternate true (turns module calls)
    rw [quiet]
    trivial
  · simp [configuredWith]
  · simp [configuredWith]

theorem filled_consistent (systemd : Bool) (disabled : List String) (interface : Bool)
    (calls : List Call) (silent : Silent calls) (found : Discovery)
    (distinct : found.plugins.objects.Nodup) :
    Consistent disabled (filled (configuredWith systemd disabled interface calls) found) := by
  have before := configured_consistent systemd disabled interface calls silent
  have quiet (module : QObject) : turns module calls = [] := turns_silent module calls silent
  refine { before with
    enabled := fun _ member => nomatch member
    subset := fun _ member => nomatch member
    disjoint := ?_
    objects := distinct
    modules := autoLoad_nodup found.registry found.plugins.entries distinct
    present := fun _ _ => List.not_mem_nil
    loaded := ?_ }
  · intro module listed other
    obtain ⟨⟨first,pointer⟩,member,auto⟩ := List.mem_filterMap.mp listed
    obtain ⟨⟨second,_⟩,present,manual⟩ := List.mem_filterMap.mp other
    obtain ⟨loads,rfl,_⟩ := (autoLoadModule_eq_some _ first pointer module).mp auto
    obtain ⟨same,waits⟩ := onDemand_mem _ _ module manual
    change _ = some module at same
    subst same
    rw [PluginsMap.object_id_unique found.plugins.entries module distinct first second member present]
      at loads
    exact Bool.eq_false_iff.mp waits loads
  · intro module _
    change module ∈ [] ↔ nextTurn true (turns module calls) = false
    rw [quiet]
    simp [nextTurn]

theorem initialize_consistent (systemd : Bool) (disabled : List String) (bus : Registration)
    (found : Discovery) (distinct : found.plugins.objects.Nodup) :
    let ready := (initializeDaemon
      { m_systemdEnabled := systemd, m_disabledModules := disabled } bus found).2
    Consistent disabled ready ∧ ready.m_loadedModules = [] := by
  obtain ⟨interface,calls,silent,result⟩ := initialize_cases systemd disabled bus found
  rcases result with success | failure
  · rw [success]
    exact ⟨filled_consistent systemd disabled interface calls silent found distinct,rfl⟩
  · rw [failure]
    exact ⟨configured_consistent systemd disabled interface calls silent,rfl⟩

theorem startModules_consistent (disabled : List String) (daemon : Daemon) (modules : List QObject)
    (distinct : modules.Nodup) (consistent : Consistent disabled daemon)
    (listed : ∀ module ∈ modules, module ∈ daemon.m_modules)
    (fresh : ∀ module ∈ modules, module ∉ daemon.m_loadedModules) :
    Consistent disabled (modules.foldl startModule daemon) := by
  induction modules generalizing daemon with
  | nil => exact consistent
  | cons module modules ih =>
    obtain ⟨apart,distinct⟩ := List.nodup_cons.mp distinct
    obtain ⟨here,listed⟩ := List.forall_mem_cons.mp listed
    obtain ⟨unloaded,fresh⟩ := List.forall_mem_cons.mp fresh
    rw [List.foldl_cons]
    by_cases off : daemon.m_pluginRegistry.getNameForInstance (some module) ∈ daemon.m_disabledModules
    · have skipped : daemon.startModule module = daemon := if_pos off
      rw [skipped]
      exact ih daemon distinct consistent listed fresh
    · have started : daemon.startModule module = { daemon with
          m_loadedModules := daemon.m_loadedModules ++ [module]
          calls := daemon.calls ++ [.start module] } := if_neg off
      rw [started]
      rw [consistent.names] at off
      apply ih _ distinct (consistent.load module unloaded here off) listed
      intro other member loaded
      rcases List.mem_append.mp loaded with old | new
      · exact fresh other member old
      · exact apart (List.mem_singleton.mp new ▸ member)

theorem start_consistent (disabled : List String) (daemon : Daemon)
    (consistent : Consistent disabled daemon) (unloaded : daemon.m_loadedModules = []) :
    Consistent disabled daemon.start := by
  unfold start
  split
  · exact consistent
  · apply startModules_consistent disabled daemon daemon.m_modules consistent.modules consistent
    · exact fun _ member => member
    · simp [unloaded]

/-- In every state of every run the loaded modules are distinct, enabled, not deleted and
listed, no module is in both lists, and each is started and stopped in turn. -/
theorem kept_run (systemd : Bool) (disabled : List String) (bus : Registration) (found : Discovery)
    (distinct : found.plugins.objects.Nodup) (started : Bool) (operations : List Operation) :
    let ready := (initializeDaemon
      { m_systemdEnabled := systemd, m_disabledModules := disabled } bus found).2
    Kept disabled (operations.foldl operate (if started then ready.start else ready)) := by
  intro ready
  obtain ⟨consistent,unloaded⟩ := initialize_consistent systemd disabled bus found distinct
  have initial : Consistent disabled (if started then ready.start else ready) := by
    split
    · exact start_consistent disabled ready consistent unloaded
    · exact consistent
  exact (consistent_run disabled _ operations initial).toKept

theorem kept_after_reload :
    let ready := (initializeDaemon { m_systemdEnabled := false } ⟨true,true⟩ localeFound).2
    let operations : List Operation := [.unloadModule "locale" true,.loadModule "locale" true true]
    Kept [] (operations.foldl operate ready.start) :=
  kept_run false [] ⟨true,true⟩ localeFound (by decide) true
    [.unloadModule "locale" true,.loadModule "locale" true true]

end LiriSession.Daemon
