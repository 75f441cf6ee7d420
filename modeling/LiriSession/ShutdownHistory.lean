import LiriSession.SessionShutdown

/-! What each run of the shutdown slot finds loaded, over the whole life of a session: the
module list, and which modules have been stopped how often, follow from it. -/
namespace LiriSession.Session
open Library

/-- What had been loaded by the time of each run of the slot, in the order of loading. -/
def foundFrom : List QObject → List Call → List (List QObject)
  | _, [] => []
  | seen, .closing::calls => seen::foundFrom seen calls
  | seen, .started module::calls => foundFrom (seen ++ [module]) calls
  | seen, _::calls => foundFrom seen calls

def shutdownsFound (calls : List Call) : List (List QObject) := foundFrom [] calls

theorem foundFrom_append (seen : List QObject) (first second : List Call) :
    foundFrom seen (first ++ second) = foundFrom seen first ++ foundFrom (seen ++ loaded first) second := by
  induction first generalizing seen with
  | nil => simp [foundFrom,loaded]
  | cons made first ih =>
    cases made with
    | closing => exact congrArg (seen :: ·) (ih seen)
    | started module =>
      have later := ih (seen ++ [module])
      rw [List.append_assoc] at later
      exact later
    | _ => exact ih seen

theorem foundFrom_open (seen : List QObject) (calls : List Call) (open_ : .closing ∉ calls) :
    foundFrom seen calls = [] := by
  induction calls generalizing seen with
  | nil => rfl
  | cons made calls ih =>
    obtain ⟨apart,rest⟩ := not_or.mp (List.mem_cons.not.mp open_)
    cases made with
    | closing => exact absurd rfl apart
    | started module => exact ih _ rest
    | _ => exact ih seen rest

theorem shutdownsFound_open (first second : List Call) (open_ : .closing ∉ second) :
    shutdownsFound (first ++ second) = shutdownsFound first := by
  rw [shutdownsFound,foundFrom_append,foundFrom_open _ second open_,List.append_nil]
  rfl

theorem shutdownsFound_round (behaviour : Behaviour) (calls : List Call) (modules : List QObject) :
    shutdownsFound (calls ++ round behaviour modules) = shutdownsFound calls ++ [loaded calls] := by
  have stopping : .closing ∉ modules.reverse.map (fun module => Call.stop module (behaviour.stop module)) ++
      [.quit] := by simp
  rw [shutdownsFound,foundFrom_append,List.nil_append]
  exact congrArg (fun rest => shutdownsFound calls ++ loaded calls::rest)
    (foundFrom_open (loaded calls) _ stopping)

/-- The runs of the slot that found a module loaded. -/
def fullShutdowns (calls : List Call) : List (List QObject) :=
  (shutdownsFound calls).filter (!·.isEmpty)

theorem flatten_eq_nil_of_filter (lists : List (List QObject)) (none : lists.filter (!·.isEmpty) = []) :
    lists.flatten = [] := by
  apply List.flatten_eq_nil_iff.mpr
  intro list member
  simpa using List.filter_eq_nil_iff.mp none list member

/-- The list, what has been loaded and what has been stopped, against the runs of the
slot so far. Until one of them finds a module loaded the list stands in the order of
loading; the first to do so stops it backwards. -/
structure Tracked (session : Session) : Prop where
  listed : session.m_loadedModules.Perm (loaded session.calls)
  distinct : (loaded session.calls).Nodup
  initials : ∀ list ∈ shutdownsFound session.calls, list <+: loaded session.calls
  stopped : (stops session.calls).Perm (shutdownsFound session.calls).flatten
  ordered : fullShutdowns session.calls = [] → session.m_loadedModules = loaded session.calls
  once : ∀ list, fullShutdowns session.calls = [list] → stops session.calls = list.reverse

theorem Tracked.unstarted (session : Session) (unstarted : Unstarted session) : Tracked session := by
  have none := unstarted.loaded session
  have found : shutdownsFound session.calls = [] :=
    foundFrom_open [] session.calls (unstarted.preliminary _)
  refine ⟨?_,?_,?_,?_,?_,?_⟩
  · rw [unstarted.empty,none]
  · rw [none]
    exact .nil
  · rw [found]
    intro list member
    exact absurd member List.not_mem_nil
  · rw [found,unstarted.stops session]
    exact .nil
  · intro _
    rw [unstarted.empty,none]
  · intro list full
    rw [fullShutdowns,found] at full
    cases full

theorem Tracked.quiet (session changed : Session) (extra : List Call) (tracked : Tracked session)
    (same : changed.m_loadedModules = session.m_loadedModules)
    (calls : changed.calls = session.calls ++ extra) (open_ : .closing ∉ extra)
    (unloaded : loaded extra = []) (unstopped : stops extra = []) : Tracked changed := by
  have reported : loaded changed.calls = loaded session.calls := by
    rw [calls,loaded_append,unloaded,List.append_nil]
  have halted : stops changed.calls = stops session.calls := by
    rw [calls,stops_append,unstopped,List.append_nil]
  have found : shutdownsFound changed.calls = shutdownsFound session.calls := by
    rw [calls,shutdownsFound_open _ _ open_]
  refine ⟨?_,?_,?_,?_,?_,?_⟩
  · rw [same,reported]
    exact tracked.listed
  · rw [reported]
    exact tracked.distinct
  · rw [reported,found]
    exact tracked.initials
  · rw [halted,found]
    exact tracked.stopped
  · rw [same,reported,fullShutdowns,found]
    exact tracked.ordered
  · rw [halted,fullShutdowns,found]
    exact tracked.once

theorem Tracked.shutdown (behaviour : Behaviour) (session : Session) (tracked : Tracked session) :
    Tracked (session.shutdown behaviour) := by
  have reported : loaded (session.calls ++ round behaviour session.m_loadedModules) =
      loaded session.calls := by rw [loaded_append,loaded_round,List.append_nil]
  have halted : stops (session.calls ++ round behaviour session.m_loadedModules) =
      stops session.calls ++ session.m_loadedModules.reverse := by rw [stops_append,stops_round]
  have found := shutdownsFound_round behaviour session.calls session.m_loadedModules
  have full : fullShutdowns (session.calls ++ round behaviour session.m_loadedModules) =
      fullShutdowns session.calls ++ [loaded session.calls].filter (!·.isEmpty) := by
    rw [fullShutdowns,found,List.filter_append]
    rfl
  have unlisted (none : loaded session.calls = []) : session.m_loadedModules = [] :=
    List.perm_nil.mp (none ▸ tracked.listed)
  rw [shutdown_eq]
  refine ⟨?_,?_,?_,?_,?_,?_⟩
  · dsimp only
    rw [reported]
    exact (List.reverse_perm _).trans tracked.listed
  · dsimp only
    rw [reported]
    exact tracked.distinct
  · dsimp only
    rw [reported,found]
    intro list member
    rcases List.mem_append.mp member with before | last
    · exact tracked.initials list before
    · cases List.mem_singleton.mp last
      exact List.prefix_rfl
  · dsimp only
    rw [halted,found,List.flatten_append,List.flatten_singleton]
    exact tracked.stopped.append ((List.reverse_perm _).trans tracked.listed)
  · dsimp only
    rw [full,reported]
    intro none
    have empty : loaded session.calls = [] := by simpa using (List.append_eq_nil_iff.mp none).2
    rw [unlisted empty,empty]
    rfl
  · dsimp only
    rw [full,halted]
    intro list single
    by_cases empty : loaded session.calls = []
    · have before : fullShutdowns session.calls = [list] := by simpa [empty] using single
      rw [unlisted empty,tracked.once list before]
      exact List.append_nil _
    · have last : [loaded session.calls].filter (!·.isEmpty) = [loaded session.calls] := by
        simp [empty]
      obtain ⟨none,same⟩ := List.append_eq_singleton_iff.mp (last ▸ single) |>.resolve_right
        (fun other => absurd other.2 (by simp))
      have unstopped : stops session.calls = [] := by
        have counted := tracked.stopped
        rw [flatten_eq_nil_of_filter _ none] at counted
        exact List.perm_nil.mp counted
      rw [unstopped,tracked.ordered none,List.cons.inj same |>.1]
      rfl

theorem Tracked.shutdowns (behaviour : Behaviour) (n : Nat) (session : Session)
    (tracked : Tracked session) : Tracked ((Session.shutdown behaviour)^[n] session) := by
  induction n generalizing session with
  | zero => exact tracked
  | succ n ih =>
    rw [Function.iterate_succ_apply]
    exact ih _ (tracked.shutdown behaviour session)

theorem Tracked.load (session : Session) (module : QObject) (tracked : Tracked session)
    (fresh : module ∉ loaded session.calls) :
    Tracked { session with
      m_loadedModules := session.m_loadedModules ++ [module]
      calls := session.calls ++ [.started module] } := by
  have reported : loaded (session.calls ++ [.started module]) = loaded session.calls ++ [module] :=
    loaded_append _ _
  have halted : stops (session.calls ++ [.started module]) = stops session.calls := by
    rw [stops_append]
    exact List.append_nil _
  have found : shutdownsFound (session.calls ++ [.started module]) = shutdownsFound session.calls :=
    shutdownsFound_open _ _ (by simp)
  refine ⟨?_,?_,?_,?_,?_,?_⟩
  · dsimp only
    rw [reported]
    exact tracked.listed.append_right _
  · dsimp only
    rw [reported]
    exact tracked.distinct.append (List.nodup_singleton _) (by simpa using fresh)
  · dsimp only
    rw [reported,found]
    exact fun list member => (tracked.initials list member).trans (List.prefix_append _ _)
  · dsimp only
    rw [halted,found]
    exact tracked.stopped
  · dsimp only
    rw [reported,fullShutdowns,found]
    exact fun none => congrArg (· ++ [module]) (tracked.ordered none)
  · dsimp only
    rw [halted,fullShutdowns,found]
    exact tracked.once

theorem returned_loaded (behaviour : Behaviour) (session : Session) (module : QObject) :
    loaded (session.returned behaviour module).calls = loaded session.calls := by
  rw [returned_eq,loaded_append,loaded_rounds,List.append_nil,entered,loaded_append]
  exact List.append_nil _

theorem Tracked.returned (behaviour : Behaviour) (session : Session) (module : QObject)
    (tracked : Tracked session) : Tracked (session.returned behaviour module) := by
  have entry : Tracked (session.entered module) :=
    tracked.quiet session _ [.start module (session.argsOf module)] rfl rfl (by simp) rfl rfl
  exact entry.shutdowns behaviour _ _

theorem Tracked.startModules (behaviour : Behaviour) (session : Session) (modules : List QObject)
    (tracked : Tracked session) (distinct : modules.Nodup)
    (fresh : ∀ module ∈ modules, module ∉ loaded session.calls) :
    Tracked (session.startModules behaviour modules).2 := by
  induction modules generalizing session with
  | nil => exact tracked
  | cons module modules ih =>
    obtain ⟨apart,distinct⟩ := List.nodup_cons.mp distinct
    have back := tracked.returned behaviour session module
    have reported := returned_loaded behaviour session module
    by_cases visited : session.enabled module = true
    · cases success : (behaviour.start module).success with
      | true =>
        rw [loop_success behaviour session module modules visited success]
        have unloaded : module ∉ loaded (session.returned behaviour module).calls := by
          rw [reported]
          exact fresh module (by simp)
        apply ih (session.kept behaviour module) (back.load _ module unloaded) distinct
        intro other member
        rw [kept,loaded_append,reported]
        have first := fresh other (List.mem_cons_of_mem _ member)
        have second : other ≠ module := fun same => apart (same ▸ member)
        exact List.mem_append.not.mpr (not_or.mpr ⟨first,List.mem_singleton.not.mpr second⟩)
      | false =>
        rw [loop_failure behaviour session module modules visited success]
        have failed : Tracked ((session.returned behaviour module).call (.failed module)) :=
          back.quiet _ _ [.failed module] rfl rfl (by simp) rfl rfl
        exact failed.shutdown behaviour _
    · rw [loop_disabled behaviour session module modules (by simpa using visited)]
      exact ih session tracked distinct fun other member => fresh other (List.mem_cons_of_mem _ member)

theorem tracked_start (behaviour : Behaviour) (systemd : Bool) (disabled : List String)
    (args : OrderedMap String (List String)) (found : Discovery) :
    Tracked ((opened behaviour systemd disabled args found).start behaviour).2 := by
  have unstarted := prepared_unstarted behaviour _ (opened_unstarted behaviour systemd disabled args found)
  have same : ((opened behaviour systemd disabled args found).prepared behaviour).enabled =
      (opened behaviour systemd disabled args found).enabled := by
    rw [prepared_frame]
    rfl
  rw [start_eq,startModules_enabled,same]
  apply Tracked.startModules behaviour _ _ (.unstarted _ unstarted)
    (opened_nodup behaviour systemd disabled args found)
  intro module _
  rw [unstarted.loaded _]
  exact List.not_mem_nil

/-- A beginning of the list that has its last element is the whole of it. -/
theorem initial_of_last (list modules : List QObject) (distinct : modules.Nodup)
    (initial : list <+: modules) (some_ : modules ≠ []) (member : modules.getLast some_ ∈ list) :
    list = modules := by
  obtain ⟨rest,split⟩ := initial
  by_cases none : rest = []
  · rw [← split,none,List.append_nil]
  · subst split
    rw [List.getLast_append_of_ne_nil _ none] at member
    exact absurd (List.getLast_mem none) (List.disjoint_of_nodup_append distinct member)

theorem filter_of_flatten (lists : List (List QObject)) (list : List QObject) (listed : list ∈ lists)
    (some_ : list ≠ []) (size : lists.flatten.length = list.length) :
    lists.filter (!·.isEmpty) = [list] := by
  obtain ⟨before,after,split⟩ := List.append_of_mem listed
  rw [split,List.flatten_append,List.flatten_cons,List.length_append,List.length_append] at size
  have none (part : List (List QObject)) (short : part.flatten.length = 0) :
      part.filter (!·.isEmpty) = [] := by
    apply List.filter_eq_nil_iff.mpr
    intro other member
    have empty := List.flatten_eq_nil_iff.mp (List.eq_nil_of_length_eq_zero short) other member
    simp [empty]
  rw [split,List.filter_append,none before (by omega),List.filter_cons_of_pos (by simpa using some_),
    none after (by omega)]
  rfl

/-- What a session is shut down to: the modules it has loaded have been stopped, the one
started last first. The slot gets there exactly when it has run once with a module loaded,
and that after the last of them was loaded. -/
theorem Tracked.stopped_iff (session : Session) (tracked : Tracked session) :
    stops session.calls = (loaded session.calls).reverse ↔
      loaded session.calls = [] ∨ fullShutdowns session.calls = [loaded session.calls] := by
  have total := tracked.stopped.length_eq
  refine ⟨?_,?_⟩
  · intro down
    by_cases empty : loaded session.calls = []
    · exact .inl empty
    · refine .inr ?_
      let last := (loaded session.calls).getLast empty
      have halted : last ∈ stops session.calls := by
        rw [down]
        exact List.mem_reverse.mpr (List.getLast_mem empty)
      obtain ⟨list,listed,member⟩ := List.mem_flatten.mp (tracked.stopped.mem_iff.mp halted)
      have whole := initial_of_last list _ tracked.distinct (tracked.initials list listed) empty member
      subst whole
      rw [down,List.length_reverse] at total
      exact filter_of_flatten _ _ listed empty total.symm
  · intro condition
    rcases condition with empty | single
    · have nothing : (shutdownsFound session.calls).flatten = [] := by
        apply List.flatten_eq_nil_iff.mpr
        intro list member
        exact List.prefix_nil.mp (empty ▸ tracked.initials list member)
      rw [nothing] at total
      rw [empty,List.eq_nil_of_length_eq_zero total]
      rfl
    · exact tracked.once _ single

end LiriSession.Session
