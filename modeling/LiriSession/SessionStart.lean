import LiriSession.SessionShutdown
import Mathlib.Data.List.Dedup
import Mathlib.Data.List.Pairwise
import Mathlib.Data.List.Sort

/-! What the start loop of the session manager does to the modules that were
discovered, when nothing is delivered while it runs. -/
namespace LiriSession.Session
open Library

def called (calls : List Call) : List QObject :=
  calls.filterMap fun | .start module _ => some module | _ => none

def Enabled (disabled : List String) (found : Discovery) (module : QObject) : Prop :=
  ∃ name, (name,some module) ∈ found.plugins.entries ∧ module.isModule = true ∧ name ∉ disabled

/-- The phases in which a module is started, each once, in the order of the calls. -/
def phases (behaviour : Behaviour) (calls : List Call) : List StartupPhase :=
  ((called calls).map behaviour.startupPhase).dedup

/-- What the loop makes of its modules: it ends with the first that fails. -/
def attempted (behaviour : Behaviour) : List QObject → List QObject
  | [] => []
  | module::modules =>
    if (behaviour.start module).success then module::attempted behaviour modules else [module]

def Succeeds (behaviour : Behaviour) (modules : List QObject) : Prop :=
  ∀ module ∈ modules, (behaviour.start module).success = true

theorem called_append (first second : List Call) :
    called (first ++ second) = called first ++ called second :=
  List.filterMap_append

theorem called_round (behaviour : Behaviour) (modules : List QObject) :
    called (round behaviour modules) = [] := by
  simp [called,round]

theorem Unstarted.called (session : Session) (unstarted : Unstarted session) :
    Session.called session.calls = [] := by
  apply List.filterMap_eq_nil_iff.mpr
  intro made member
  have allowed := unstarted.preliminary made member
  cases made <;> first | rfl | exact allowed.elim

theorem attempted_cons (behaviour : Behaviour) (module : QObject) (modules : List QObject)
    (success : (behaviour.start module).success = true) :
    attempted behaviour (module::modules) = module::attempted behaviour modules := by
  simp [attempted,success]

theorem attempted_failure (behaviour : Behaviour) (module : QObject) (modules : List QObject)
    (failure : (behaviour.start module).success = false) :
    attempted behaviour (module::modules) = [module] := by
  simp [attempted,failure]

theorem attempted_front (behaviour : Behaviour) (modules : List QObject) :
    attempted behaviour modules <+: modules := by
  induction modules with
  | nil => exact List.prefix_rfl
  | cons module modules ih =>
    unfold attempted
    split
    · exact (List.prefix_cons_inj module).mpr ih
    · exact ⟨modules,rfl⟩

theorem attempted_all (behaviour : Behaviour) (modules : List QObject)
    (succeeds : Succeeds behaviour (attempted behaviour modules)) :
    attempted behaviour modules = modules := by
  induction modules with
  | nil => rfl
  | cons module modules ih =>
    cases success : (behaviour.start module).success with
    | true =>
      rw [attempted_cons behaviour module modules success] at succeeds ⊢
      rw [ih fun other member => succeeds other (List.mem_cons_of_mem module member)]
    | false =>
      rw [attempted_failure behaviour module modules success] at succeeds
      have contrary := succeeds module (List.mem_singleton_self module)
      rw [success] at contrary
      cases contrary

theorem attempted_cases (behaviour : Behaviour) (modules : List QObject) :
    Succeeds behaviour (attempted behaviour modules) ∨ ∃ before module,
      attempted behaviour modules = before ++ [module] ∧ Succeeds behaviour before ∧
        (behaviour.start module).success = false := by
  induction modules with
  | nil => exact .inl (by simp [Succeeds,attempted])
  | cons module modules ih =>
    cases success : (behaviour.start module).success with
    | true =>
      rw [attempted_cons behaviour module modules success]
      rcases ih with succeeds | ⟨before,last,split,succeed,failure⟩
      · exact .inl (List.forall_mem_cons.mpr ⟨success,succeeds⟩)
      · refine .inr ⟨module::before,last,?_,List.forall_mem_cons.mpr ⟨success,succeed⟩,failure⟩
        rw [split,List.cons_append]
    | false =>
      rw [attempted_failure behaviour module modules success]
      exact .inr ⟨[],module,rfl,by simp [Succeeds],success⟩

/-- In a list sorted by phase, the phases reached are those that no failing module
precedes. -/
theorem mem_attempted_phases (behaviour : Behaviour) (modules : List QObject)
    (sorted : modules.Pairwise fun first second =>
      behaviour.startupPhase first ≤ behaviour.startupPhase second) (phase : StartupPhase) :
    phase ∈ (attempted behaviour modules).map behaviour.startupPhase ↔
      phase ∈ modules.map behaviour.startupPhase ∧ ∀ module ∈ modules,
        (behaviour.start module).success = false → phase ≤ behaviour.startupPhase module := by
  induction modules with
  | nil => simp [attempted]
  | cons module modules ih =>
    obtain ⟨least,sorted⟩ := List.pairwise_cons.mp sorted
    cases success : (behaviour.start module).success with
    | true =>
      rw [attempted_cons behaviour module modules success,List.map_cons,List.mem_cons,ih sorted]
      rw [List.forall_mem_cons,List.map_cons,List.mem_cons]
      simp only [success,Bool.true_eq_false,false_implies,true_and]
      apply Iff.intro
      · intro reached
        rcases reached with here | ⟨there,early⟩
        · exact ⟨.inl here,fun other member _ => here ▸ least other member⟩
        · exact ⟨.inr there,early⟩
      · intro reached
        rcases reached with ⟨here | there,early⟩
        · exact .inl here
        · exact .inr ⟨there,early⟩
    | false =>
      rw [attempted_failure behaviour module modules success,List.forall_mem_cons,List.map_cons,
        List.map_nil,List.mem_singleton,List.map_cons,List.mem_cons]
      simp only [success,true_implies]
      apply Iff.intro
      · intro here
        exact ⟨.inl here,here.le,fun other member _ => here.le.trans (least other member)⟩
      · intro reached
        rcases reached with ⟨here | there,early,_⟩
        · exact here
        · obtain ⟨other,member,rfl⟩ := List.mem_map.mp there
          exact early.antisymm (least other member)

theorem dedup_eq_of_mem (first second : List StartupPhase)
    (left : first.Pairwise (· ≤ ·)) (right : second.Pairwise (· ≤ ·))
    (same : ∀ phase, phase ∈ first ↔ phase ∈ second) : first.dedup = second.dedup := by
  have permuted : first.dedup.Perm second.dedup := by
    apply (List.perm_ext_iff_of_nodup first.nodup_dedup second.nodup_dedup).mpr
    intro phase
    rw [List.mem_dedup,List.mem_dedup,same]
  exact permuted.eq_of_pairwise (fun a b _ _ => le_antisymm)
    (left.sublist first.dedup_sublist) (right.sublist second.dedup_sublist)

theorem quiet_entered (session : Session) (module : QObject) :
    called (session.entered module).calls = called session.calls ++ [module] ∧
      loaded (session.entered module).calls = loaded session.calls := by
  simp [entered,called,loaded]

theorem quiet_kept (behaviour : Behaviour) (session : Session) (module : QObject) :
    called (session.kept behaviour.quiet module).calls = called session.calls ++ [module] ∧
      loaded (session.kept behaviour.quiet module).calls = loaded session.calls ++ [module] := by
  have calm : session.returned behaviour.quiet module = session.entered module := rfl
  obtain ⟨visits,keeps⟩ := quiet_entered session module
  rw [kept,calm,called_append,loaded_append,visits,keeps]
  simp [called,loaded]

theorem quiet_failed (behaviour : Behaviour) (session : Session) (module : QObject) :
    let last := (session.returned behaviour.quiet module).call (.failed module)
    called (last.shutdown behaviour.quiet).calls = called session.calls ++ [module] ∧
      loaded (last.shutdown behaviour.quiet).calls = loaded session.calls := by
  intro last
  have calm : session.returned behaviour.quiet module = session.entered module := rfl
  obtain ⟨visits,keeps⟩ := quiet_entered session module
  dsimp only [last]
  rw [shutdown_eq,calm]
  apply And.intro
  · simp only [called_append,called_round,call,visits]
    simp [called]
  · simp only [loaded_append,loaded_round,call,keeps]
    simp [loaded]

theorem quiet_calls (behaviour : Behaviour) (session : Session) (modules : List QObject) :
    let result := session.startModules behaviour.quiet modules
    let made := attempted behaviour (modules.filter session.enabled)
    called result.2.calls = called session.calls ++ made ∧
      loaded result.2.calls = loaded session.calls ++
        made.filter (fun module => (behaviour.start module).success) ∧
      (result.1 = true ↔ Succeeds behaviour made) := by
  induction modules generalizing session with
  | nil => simp [startModules,attempted,Succeeds]
  | cons module modules ih =>
    by_cases visited : session.enabled module = true
    · rw [List.filter_cons_of_pos visited]
      cases success : (behaviour.start module).success with
      | true =>
        rw [loop_success behaviour.quiet session module modules visited success,
          attempted_cons behaviour module _ success]
        obtain ⟨noted,reported⟩ := quiet_kept behaviour session module
        obtain ⟨made,kept,returns⟩ := ih (session.kept behaviour.quiet module)
        rw [kept_enabled behaviour.quiet session module] at made kept returns
        refine ⟨?_,?_,?_⟩
        · rw [made,noted,List.append_assoc]
          rfl
        · rw [kept,reported,List.append_assoc]
          simp [success]
        · rw [returns]
          exact ⟨fun rest => List.forall_mem_cons.mpr ⟨success,rest⟩,
            fun all => (List.forall_mem_cons.mp all).2⟩
      | false =>
        rw [loop_failure behaviour.quiet session module modules visited success,
          attempted_failure behaviour module _ success]
        obtain ⟨noted,reported⟩ := quiet_failed behaviour session module
        refine ⟨noted,?_,?_⟩
        · rw [reported]
          simp [success]
        · simp [Succeeds,success]
    · rw [loop_disabled behaviour.quiet session module modules (by simpa using visited),
        List.filter_cons_of_neg visited]
      exact ih session

def Grouped (behaviour : Behaviour) (session : Session) : Prop :=
  ∀ phase modules, session.m_modules.find? phase = some modules →
    ∀ module ∈ modules, behaviour.startupPhase module = phase

theorem addModule_grouped (behaviour : Behaviour) (session : Session)
    (plugin : String × Option QObject) (grouped : Grouped behaviour session) :
    Grouped behaviour (addModule behaviour session plugin) := by
  unfold addModule
  cases asModule plugin.2 with
  | none => exact grouped
  | some module =>
    intro phase modules present other member
    rcases OrderedMap.find?_insert_some _ _ _ _ _ present with ⟨same,rfl⟩ | ⟨_,old⟩
    · rcases List.mem_append.mp member with before | last
      · cases listed : session.m_modules.find? (behaviour.startupPhase module) with
        | none => simp [call,listed] at before
        | some listed' =>
          have here : other ∈ listed' := by simpa [call,listed] using before
          rw [same]
          exact grouped _ listed' listed other here
      · rw [List.mem_singleton.mp last,same]
    · exact grouped phase modules old other member

theorem opened_grouped (behaviour : Behaviour) (systemd : Bool) (disabled : List String)
    (args : OrderedMap String (List String)) (found : Discovery) :
    Grouped behaviour (opened behaviour systemd disabled args found) := by
  unfold opened loadPlugins
  refine List.foldlRecOn found.plugins.entries (addModule behaviour)
    (motive := Grouped behaviour) ?_ ?_
  · intro phase modules present
    cases present
  · intro session grouped plugin _
    exact addModule_grouped behaviour session plugin grouped

theorem Grouped.sorted (behaviour : Behaviour) (session : Session)
    (grouped : Grouped behaviour session) :
    session.modulesInOrder.Pairwise fun first second =>
      behaviour.startupPhase first ≤ behaviour.startupPhase second := by
  have phased (entry : StartupPhase × List QObject) (member : entry ∈ session.m_modules.entries)
      (module : QObject) (listed : module ∈ entry.2) : behaviour.startupPhase module = entry.1 :=
    grouped entry.1 entry.2 ((session.m_modules.find?_eq_some _ _).mpr member) module listed
  apply List.pairwise_flatten.mpr
  refine ⟨?_,?_⟩
  · intro modules member
    obtain ⟨entry,present,rfl⟩ := List.mem_map.mp member
    apply List.pairwise_of_forall_mem_list
    intro first left second right
    rw [phased entry present first left,phased entry present second right]
  · apply List.pairwise_map.mpr
    apply session.m_modules.sorted.imp_of_mem
    intro earlier later left right below first listed second follows
    rw [phased earlier left first listed,phased later right second follows]
    exact below.le

theorem addModule_enabled (behaviour : Behaviour) (session : Session)
    (plugin : String × Option QObject) :
    (addModule behaviour session plugin).enabled = session.enabled := by
  unfold addModule
  cases asModule plugin.2 <;> rfl

theorem opened_enabled (behaviour : Behaviour) (systemd : Bool) (disabled : List String)
    (args : OrderedMap String (List String)) (found : Discovery) (module : QObject) :
    (opened behaviour systemd disabled args found).enabled module =
      decide (found.plugins.key (some module) ∉ disabled) := by
  unfold opened loadPlugins
  refine List.foldlRecOn found.plugins.entries (addModule behaviour)
    (motive := fun session => session.enabled module =
      decide (found.plugins.key (some module) ∉ disabled)) ?_ ?_
  · rfl
  · intro session same plugin _
    rw [addModule_enabled,same]

theorem mem_toStart (behaviour : Behaviour) (systemd : Bool) (disabled : List String)
    (args : OrderedMap String (List String)) (found : Discovery) (module : QObject) :
    module ∈ (opened behaviour systemd disabled args found).toStart ↔
      Enabled disabled found module := by
  have listed : module ∈ (opened behaviour systemd disabled args found).modulesInOrder ↔
      ∃ name, (name,some module) ∈ found.plugins.entries ∧ module.isModule = true := by
    rw [opened,loadPlugins,(loadPlugins_order behaviour _ found.plugins.entries).mem_iff]
    simp [modulesInOrder,asModule,Option.filter_eq_some_iff]
  rw [toStart,List.mem_filter,opened_enabled,listed,Enabled,decide_eq_true_eq]
  apply Iff.intro
  · intro both
    obtain ⟨⟨name,present,loads⟩,allowed⟩ := both
    rw [found.plugins.key_of_mem found.distinct name module present] at allowed
    exact ⟨name,present,loads,allowed⟩
  · intro both
    obtain ⟨name,present,loads,allowed⟩ := both
    rw [found.plugins.key_of_mem found.distinct name module present]
    exact ⟨⟨name,present,loads⟩,allowed⟩

/-- Discovery, `loadPlugins` and `start`, with no trigger delivered meanwhile. -/
def startedQuietly (behaviour : Behaviour) (systemd : Bool) (disabled : List String)
    (args : OrderedMap String (List String)) (found : Discovery) : Bool × Session :=
  (opened behaviour.quiet systemd disabled args found).start behaviour.quiet

/-- What `start` is to do with the modules: in the order of their phases, up to the
first that fails, after which those that started are stopped again. -/
structure StartsInOrder (behaviour : Behaviour) (disabled : List String) (found : Discovery)
    (result : Bool × Session) : Prop where
  enabledOnly : ∀ module ∈ called result.2.calls, Enabled disabled found module
  once : (called result.2.calls).Nodup
  byPhase : (called result.2.calls).Pairwise fun first second =>
    behaviour.startupPhase first ≤ behaviour.startupPhase second
  returns : result.1 = true ↔ Succeeds behaviour (called result.2.calls)
  success : result.1 = true →
    stops result.2.calls = [] ∧ ∀ module, Enabled disabled found module → module ∈ called result.2.calls
  failure : result.1 = false → ∃ before module, called result.2.calls = before ++ [module] ∧
    Succeeds behaviour before ∧ (behaviour.start module).success = false ∧
      stops result.2.calls = before.reverse

theorem startedQuietly_calls (behaviour : Behaviour) (systemd : Bool) (disabled : List String)
    (args : OrderedMap String (List String)) (found : Discovery) :
    let result := startedQuietly behaviour systemd disabled args found
    let made := attempted behaviour (opened behaviour.quiet systemd disabled args found).toStart
    called result.2.calls = made ∧ (result.1 = true ↔ Succeeds behaviour made) ∧
      stops result.2.calls = if result.1 then []
        else (made.filter fun module => (behaviour.start module).success).reverse := by
  intro result made
  let session := opened behaviour.quiet systemd disabled args found
  have unstarted := prepared_unstarted behaviour.quiet session
    (opened_unstarted behaviour.quiet systemd disabled args found)
  have same : (session.prepared behaviour.quiet).enabled = session.enabled := by
    rw [prepared_frame]
    rfl
  obtain ⟨visits,keeps,returns⟩ :=
    quiet_calls behaviour (session.prepared behaviour.quiet) session.modulesInOrder
  obtain ⟨_,halts⟩ := quiet_loop behaviour (session.prepared behaviour.quiet) session.modulesInOrder
    (unstarted.empty.trans (unstarted.loaded _).symm)
  rw [← start_eq] at visits keeps returns halts
  rw [unstarted.called,List.nil_append,same] at visits
  rw [unstarted.loaded,List.nil_append,same] at keeps
  rw [unstarted.stops,List.nil_append,keeps] at halts
  rw [same] at returns
  refine ⟨visits,returns,halts.trans ?_⟩
  change stops (rounds _ (if result.1 then 0 else 1) _) = _
  cases result.1 with
  | true => rfl
  | false => exact (stops_rounds_iff behaviour.quiet 1 _).mpr (.inr rfl)

theorem toStart_sorted (behaviour : Behaviour) (systemd : Bool) (disabled : List String)
    (args : OrderedMap String (List String)) (found : Discovery) :
    (opened behaviour.quiet systemd disabled args found).toStart.Pairwise fun first second =>
      behaviour.startupPhase first ≤ behaviour.startupPhase second :=
  (opened_grouped behaviour.quiet systemd disabled args found).sorted.filter _

theorem startsInOrder (behaviour : Behaviour) (systemd : Bool) (disabled : List String)
    (args : OrderedMap String (List String)) (found : Discovery) :
    StartsInOrder behaviour disabled found (startedQuietly behaviour systemd disabled args found) := by
  obtain ⟨visits,returns,halts⟩ := startedQuietly_calls behaviour systemd disabled args found
  let modules := (opened behaviour.quiet systemd disabled args found).toStart
  have front : attempted behaviour modules <+: modules := attempted_front behaviour modules
  refine ⟨?_,?_,?_,?_,?_,?_⟩
  · intro module member
    rw [visits] at member
    exact (mem_toStart behaviour.quiet systemd disabled args found module).mp (front.subset member)
  · rw [visits]
    exact (opened_nodup behaviour.quiet systemd disabled args found).sublist front.sublist
  · rw [visits]
    exact (toStart_sorted behaviour systemd disabled args found).sublist front.sublist
  · rw [visits]
    exact returns
  · intro success
    rw [halts,success]
    refine ⟨rfl,?_⟩
    intro module eligible
    rw [visits,attempted_all behaviour _ (returns.mp success)]
    exact (mem_toStart behaviour.quiet systemd disabled args found module).mpr eligible
  · intro failure
    rcases attempted_cases behaviour modules with succeeds | ⟨before,module,split,succeed,fails⟩
    · rw [returns.mpr succeeds] at failure
      cases failure
    · refine ⟨before,module,visits.trans split,succeed,fails,?_⟩
      rw [halts,failure]
      change (List.filter _ (attempted behaviour modules)).reverse = _
      rw [split,List.filter_append,List.filter_eq_self.mpr succeed]
      simp [fails]

section
variable (behaviour : Behaviour) (systemd : Bool) (disabled : List String)
  (args : OrderedMap String (List String)) (found other : Discovery)
  (permuted : other.plugins.entries.Perm found.plugins.entries)
include permuted

theorem mem_toStart_perm (module : QObject) :
    module ∈ (opened behaviour.quiet systemd disabled args other).toStart ↔
      module ∈ (opened behaviour.quiet systemd disabled args found).toStart := by
  rw [mem_toStart,mem_toStart]
  simp only [Enabled,permuted.mem_iff]

theorem phases_perm : phases behaviour (startedQuietly behaviour systemd disabled args other).2.calls =
    phases behaviour (startedQuietly behaviour systemd disabled args found).2.calls := by
  obtain ⟨visits,_,_⟩ := startedQuietly_calls behaviour systemd disabled args found
  obtain ⟨revisits,_,_⟩ := startedQuietly_calls behaviour systemd disabled args other
  apply dedup_eq_of_mem
  · exact List.pairwise_map.mpr (startsInOrder behaviour systemd disabled args other).byPhase
  · exact List.pairwise_map.mpr (startsInOrder behaviour systemd disabled args found).byPhase
  · intro phase
    rw [revisits,visits,
      mem_attempted_phases behaviour _ (toStart_sorted behaviour systemd disabled args other),
      mem_attempted_phases behaviour _ (toStart_sorted behaviour systemd disabled args found)]
    simp only [List.mem_map,mem_toStart_perm behaviour systemd disabled args found other permuted]

theorem success_perm (success : (startedQuietly behaviour systemd disabled args found).1 = true) :
    (startedQuietly behaviour systemd disabled args other).1 = true := by
  obtain ⟨_,returns,_⟩ := startedQuietly_calls behaviour systemd disabled args found
  obtain ⟨_,again,_⟩ := startedQuietly_calls behaviour systemd disabled args other
  have succeeds := returns.mp success
  rw [attempted_all behaviour _ succeeds] at succeeds
  apply again.mpr
  intro module member
  apply succeeds
  rw [← mem_toStart_perm behaviour systemd disabled args found other permuted]
  exact (attempted_front behaviour _).subset member

theorem called_perm (success : (startedQuietly behaviour systemd disabled args found).1 = true) :
    (called (startedQuietly behaviour systemd disabled args other).2.calls).Perm
      (called (startedQuietly behaviour systemd disabled args found).2.calls) := by
  have fine := success_perm behaviour systemd disabled args found other permuted success
  have ordered := startsInOrder behaviour systemd disabled args found
  have reordered := startsInOrder behaviour systemd disabled args other
  have same (module : QObject) : Enabled disabled other module ↔ Enabled disabled found module := by
    simp only [Enabled,permuted.mem_iff]
  apply (List.perm_ext_iff_of_nodup reordered.once ordered.once).mpr
  intro module
  apply Iff.intro
  · intro member
    exact (ordered.success success).2 module ((same module).mp (reordered.enabledOnly module member))
  · intro member
    exact (reordered.success fine).2 module ((same module).mpr (ordered.enabledOnly module member))

end

/-- The session manager starts its enabled modules in the order of their phases, each
once, and undoes what it started when one fails. The phases it goes through do not
depend on how the hash enumerates the plugins; nor, when nothing fails, do the set
of modules and the phase of each call. -/
theorem session_start (behaviour : Behaviour) (systemd : Bool) (disabled : List String)
    (args : OrderedMap String (List String)) (found : Discovery) :
    let result := startedQuietly behaviour systemd disabled args found
    StartsInOrder behaviour disabled found result ∧
      ∀ other : Discovery, other.plugins.entries.Perm found.plugins.entries →
        let again := startedQuietly behaviour systemd disabled args other
        phases behaviour again.2.calls = phases behaviour result.2.calls ∧
          (result.1 = true → again.1 = true ∧
            (∀ module, module ∈ called again.2.calls ↔ module ∈ called result.2.calls) ∧
            (called again.2.calls).map behaviour.startupPhase =
              (called result.2.calls).map behaviour.startupPhase) := by
  intro result
  refine ⟨startsInOrder behaviour systemd disabled args found,?_⟩
  intro other permuted again
  refine ⟨phases_perm behaviour systemd disabled args found other permuted,?_⟩
  intro success
  have same := called_perm behaviour systemd disabled args found other permuted success
  refine ⟨success_perm behaviour systemd disabled args found other permuted success,
    fun module => same.mem_iff,?_⟩
  have ordered := startsInOrder behaviour systemd disabled args found
  have reordered := startsInOrder behaviour systemd disabled args other
  exact (same.map behaviour.startupPhase).eq_of_pairwise (fun a b _ _ => le_antisymm)
    (List.pairwise_map.mpr reordered.byPhase) (List.pairwise_map.mpr ordered.byPhase)

def servicesAndShell : Discovery where
  candidates := shellAndServices.candidates
  plugins := ⟨[("shell",some shellModule),("services",some servicesModule)],by decide⟩
  enumerates := .swap _ _ _
  distinct := by decide

theorem shell_starts_first :
    let result := startedQuietly (shellBehaviour []) true ["services"] .empty shellAndServices
    let again := startedQuietly (shellBehaviour []) true ["services"] .empty servicesAndShell
    result.1 = true ∧ again.1 = true ∧ shellModule ∈ called result.2.calls ∧
      phases (shellBehaviour []) again.2.calls = phases (shellBehaviour []) result.2.calls := by
  have both := session_start (shellBehaviour []) true ["services"] .empty shellAndServices
  have same := both.2 servicesAndShell (.swap _ _ _)
  have success : (startedQuietly (shellBehaviour []) true ["services"] .empty
    shellAndServices).1 = true := by decide
  exact ⟨success,(same.2 success).1,by decide,same.1⟩

end LiriSession.Session
