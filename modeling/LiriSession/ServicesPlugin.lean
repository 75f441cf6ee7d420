import LiriSession.Library.OrderedMap
import LiriSession.Library.Run

/-! The module that has the daemon of the session started over the bus and ends it with the
session. It knows the process by its number only, and other processes come and go: a number
that it has recorded may be another's by the time it is used. -/
namespace LiriSession
open Library

namespace Services

inductive Signal
  | sigterm
  | sigkill
deriving DecidableEq, Repr

/-- Which of the bus calls of `startService` get a valid reply, and the number of the process
that the bus starts if it has to. -/
structure Replies where
  existsReply : Bool
  reply : Bool
  pidReply : Bool
  number : Nat

/-- A call of `kill`, with the process that had the number. -/
structure Kill where
  pid : Nat
  signal : Signal
  reached : Option Nat
deriving DecidableEq, Repr

end Services

open Services

structure ServicesPlugin where
  m_pids : List Nat := []

/-- The module among the processes, each of which has a number while it lives and another
identity than all before it; the number of the one that has the name of the daemon. With it
what the recorded numbers stood for, and all that were ever recorded. -/
structure ServiceProcesses where
  plugin : ServicesPlugin := {}
  processes : OrderedMap Nat Nat := .empty
  born : Nat := 0
  owner : Option Nat := none
  recorded : List (Nat × Nat) := []
  ever : List (Nat × Nat) := []
  killed : List Kill := []

namespace ServiceProcesses

def appears (state : ServiceProcesses) (pid : Nat) : ServiceProcesses :=
  { state with processes := state.processes.insert pid state.born, born := state.born + 1 }

/-- A process that ends loses its name on the bus. -/
def exits (state : ServiceProcesses) (pid : Nat) : ServiceProcesses :=
  { state with
    processes := state.processes.erase pid
    owner := if state.owner = some pid then none else state.owner }

def living (state : ServiceProcesses) (pid : Nat) : Bool := (state.processes.find? pid).isSome

/-- The reply to `servicePid` is taken into `m_pids` if it is valid; there is none to give
when nothing has the name. -/
def record (state : ServiceProcesses) (valid : Bool) : ServiceProcesses :=
  match state.owner with
  | none => state
  | some pid =>
    if valid then
      let process := (state.processes.find? pid).toList.map fun process => (pid,process)
      { state with
        plugin := { state.plugin with m_pids := state.plugin.m_pids ++ [pid] }
        recorded := state.recorded ++ process
        ever := state.ever ++ process }
    else state

/-- `startService`. The bus starts nothing for a name that has an owner. -/
def startService (state : ServiceProcesses) (replies : Replies) : Option ServiceProcesses :=
  if replies.existsReply && state.owner.isSome then some (state.record replies.pidReply)
  else if replies.reply then
    if state.owner.isSome then some (state.record replies.pidReply)
    else if state.living replies.number then none
    else some ({ state.appears replies.number with owner := some replies.number }.record replies.pidReply)
  else some state

/-- The processes are those that the session may signal, so no `kill` is refused. -/
def kill (state : ServiceProcesses) (pid : Nat) (signal : Signal) : ServiceProcesses :=
  let state := { state with killed := state.killed ++ [⟨pid,signal,state.processes.find? pid⟩] }
  match signal with
  | .sigterm => state
  | .sigkill => state.exits pid

def stopLoop (state : ServiceProcesses) : List Nat → ServiceProcesses
  | [] => { state with plugin := { state.plugin with m_pids := [] }, recorded := [] }
  | pid::rest => stopLoop ((state.kill pid .sigterm).kill pid .sigkill) rest

def stop (state : ServiceProcesses) : ServiceProcesses := state.stopLoop state.plugin.m_pids.reverse

inductive Event
  | start (replies : Replies)
  | stop
  | appears (pid : Nat)
  | exits (pid : Nat)
  | acquires (pid : Nat)
  | releases

def step (state : ServiceProcesses) : Event → Option ServiceProcesses
  | .start replies => state.startService replies
  | .stop => some state.stop
  | .appears pid => if state.living pid then none else some (state.appears pid)
  | .exits pid => if state.living pid then some (state.exits pid) else none
  | .acquires pid =>
    if state.living pid && state.owner.isNone then some { state with owner := some pid } else none
  | .releases => some { state with owner := none }

/-- No number that is recorded has become another process's when the module stops. -/
def Careful (state : ServiceProcesses) : Event → Prop
  | .stop => ∀ pid ∈ state.plugin.m_pids, ∀ process, state.processes.find? pid = some process →
    (pid,process) ∈ state.recorded
  | _ => True

/-- Every process that a signal has reached was the daemon when its number was recorded. -/
def Spares (state : ServiceProcesses) : Prop :=
  ∀ kill ∈ state.killed, ∀ process, kill.reached = some process → (kill.pid,process) ∈ state.ever

/-- Two signals for each recorded number, the last one first. -/
def signals (pids : List Nat) : List (Nat × Signal) :=
  pids.reverse.flatMap fun pid => [(pid,.sigterm),(pid,.sigkill)]

/-- What a stop does in this state. -/
structure Ends (state after : ServiceProcesses) : Prop where
  forgotten : after.plugin.m_pids = []
  signalled : after.killed.map (fun kill => (kill.pid,kill.signal)) =
    state.killed.map (fun kill => (kill.pid,kill.signal)) ++ signals state.plugin.m_pids
  gone : ∀ pid process, (pid,process) ∈ state.recorded → ∀ other, after.processes.find? other ≠ some process
  others : ∀ pid, pid ∉ state.plugin.m_pids → after.processes.find? pid = state.processes.find? pid
  owner : after.owner = none ↔ ∀ pid, state.owner = some pid → pid ∈ state.plugin.m_pids

/-- What has been recorded before the last stop does not live any more, and any stop ends the
processes that are recorded now. -/
structure Attended (state : ServiceProcesses) : Prop where
  ended : ∀ pid process, (pid,process) ∈ state.ever → (pid,process) ∉ state.recorded →
    ∀ other, state.processes.find? other ≠ some process
  ends : Ends state state.stop

/-- The identities are given out once, and what is recorded is where it was recorded or gone. -/
structure Sound (state : ServiceProcesses) : Prop where
  fresh : ∀ pid process, state.processes.find? pid = some process → process < state.born
  once : ∀ pid other process, state.processes.find? pid = some process →
    state.processes.find? other = some process → pid = other
  owner : ∀ pid, state.owner = some pid → ∃ process, state.processes.find? pid = some process
  parallel : state.recorded.map Prod.fst = state.plugin.m_pids
  within : ∀ entry ∈ state.recorded, entry ∈ state.ever
  old : ∀ pid process, (pid,process) ∈ state.ever → process < state.born
  place : ∀ pid process, (pid,process) ∈ state.ever →
    ∀ other, state.processes.find? other = some process → other = pid
  ended : ∀ pid process, (pid,process) ∈ state.ever → (pid,process) ∉ state.recorded →
    ∀ other, state.processes.find? other ≠ some process

theorem exits_find? (state : ServiceProcesses) (pid other : Nat) :
    (state.exits pid).processes.find? other = if other = pid then none else state.processes.find? other :=
  state.processes.find?_erase pid other

theorem exits_owner (state : ServiceProcesses) (pid other : Nat) :
    (state.exits pid).owner = some other ↔ state.owner = some other ∧ other ≠ pid := by
  simp only [exits]
  split
  next own => simp_all [eq_comm]
  next foreign =>
    constructor
    · intro same
      exact ⟨same,fun equal => foreign (equal ▸ same)⟩
    · exact And.left

/-- What the loop over the recorded numbers does. -/
structure Looped (state after : ServiceProcesses) (pids : List Nat) : Prop where
  processes : ∀ other, after.processes.find? other =
    if other ∈ pids then none else state.processes.find? other
  owner : ∀ other, after.owner = some other ↔ state.owner = some other ∧ other ∉ pids
  signalled : after.killed.map (fun kill => (kill.pid,kill.signal)) =
    state.killed.map (fun kill => (kill.pid,kill.signal)) ++
      pids.flatMap fun pid => [(pid,.sigterm),(pid,.sigkill)]
  kept : ∀ kill ∈ state.killed, kill ∈ after.killed
  reached : ∀ kill ∈ after.killed, kill ∈ state.killed ∨
    kill.pid ∈ pids ∧ (kill.reached = none ∨ kill.reached = state.processes.find? kill.pid)
  hits : ∀ pid ∈ pids, ∃ kill ∈ after.killed, kill.pid = pid ∧ kill.reached = state.processes.find? pid
  born : after.born = state.born
  ever : after.ever = state.ever
  recorded : after.recorded = []
  forgotten : after.plugin.m_pids = []

theorem stopLoop_spec (state : ServiceProcesses) (pids : List Nat) : Looped state (state.stopLoop pids) pids := by
  induction pids generalizing state with
  | nil =>
    rw [stopLoop]
    constructor <;> simp
  | cons pid rest ih =>
    let after := (state.kill pid .sigterm).kill pid .sigkill
    have later := ih after
    have processes : ∀ other, after.processes.find? other =
        if other = pid then none else state.processes.find? other := fun other => exits_find? _ pid other
    have owner : ∀ other, after.owner = some other ↔ state.owner = some other ∧ other ≠ pid :=
      fun other => exits_owner _ pid other
    have killed : after.killed = state.killed ++
        [⟨pid,.sigterm,state.processes.find? pid⟩,⟨pid,.sigkill,state.processes.find? pid⟩] := by
      simp [after,kill,exits]
    rw [stopLoop]
    refine ⟨?_,?_,?_,?_,?_,?_,later.born,later.ever,later.recorded,later.forgotten⟩
    · intro other
      rw [later.processes,processes]
      by_cases same : other = pid <;> simp [same]
    · intro other
      rw [later.owner,owner,List.mem_cons,not_or,and_assoc]
    · rw [later.signalled,killed]
      simp
    · intro one member
      exact later.kept one (killed ▸ List.mem_append_left _ member)
    · intro one member
      rcases later.reached one member with before | ⟨listed,reached⟩
      · rw [killed,List.mem_append] at before
        rcases before with old | new
        · exact .inl old
        · right
          simp only [List.mem_cons,List.not_mem_nil,or_false] at new
          rcases new with rfl | rfl <;> exact ⟨List.mem_cons_self ..,.inr rfl⟩
      · refine .inr ⟨List.mem_cons_of_mem _ listed,?_⟩
        rw [processes] at reached
        split at reached
        · exact .inl (reached.elim id id)
        · exact reached
    · intro other member
      by_cases same : other = pid
      · subst same
        refine ⟨⟨other,.sigterm,state.processes.find? other⟩,later.kept _ ?_,rfl,rfl⟩
        rw [killed]
        simp
      · have listed := (List.mem_cons.mp member).resolve_left same
        obtain ⟨one,there,number,reached⟩ := later.hits other listed
        rw [processes,if_neg same] at reached
        exact ⟨one,there,number,reached⟩

theorem stop_spec (state : ServiceProcesses) : Looped state state.stop state.plugin.m_pids.reverse :=
  stopLoop_spec state _

theorem Sound.appears {state : ServiceProcesses} (sound : Sound state) (pid : Nat)
    (unused : state.living pid = false) : Sound (state.appears pid) := by
  have absent : state.processes.find? pid = none := by simpa [living] using unused
  have found : ∀ other process, (state.appears pid).processes.find? other = some process →
      other = pid ∧ process = state.born ∨ other ≠ pid ∧ state.processes.find? other = some process :=
    fun other process => state.processes.find?_insert_some pid other state.born process
  have new : ∀ other process, state.processes.find? other = some process → process ≠ state.born := by
    intro other process before same
    exact Nat.lt_irrefl _ (same ▸ sound.fresh other process before)
  have unborn : ∀ other process, (other,process) ∈ state.ever → process ≠ state.born := by
    intro other process before same
    exact Nat.lt_irrefl _ (same ▸ sound.old other process before)
  refine { sound with fresh := ?_, once := ?_, owner := ?_, old := ?_, place := ?_, ended := ?_ }
  · intro other process present
    change process < state.born + 1
    rcases found other process present with ⟨_,rfl⟩ | ⟨_,before⟩
    · omega
    · have below := sound.fresh other process before
      omega
  · intro first second process one two
    rcases found first process one with ⟨rfl,rfl⟩ | ⟨_,before⟩
    · rcases found second _ two with ⟨rfl,_⟩ | ⟨_,other⟩
      · rfl
      · exact absurd rfl (new second _ other)
    · rcases found second process two with ⟨_,rfl⟩ | ⟨_,other⟩
      · exact absurd rfl (new first _ before)
      · exact sound.once first second process before other
  · intro other own
    obtain ⟨process,before⟩ := sound.owner other own
    have apart : other ≠ pid := by
      intro same
      rw [same,absent] at before
      cases before
    refine ⟨process,?_⟩
    change (state.processes.insert pid state.born).find? other = _
    rw [OrderedMap.find?_insert,if_neg apart,before]
  · intro other process before
    exact Nat.lt_succ_of_lt (sound.old other process before)
  · intro first process before other present
    rcases found other process present with ⟨_,same⟩ | ⟨_,old⟩
    · exact absurd same (unborn first process before)
    · exact sound.place first process before other old
  · intro first process before dropped other present
    rcases found other process present with ⟨_,same⟩ | ⟨_,old⟩
    · exact unborn first process before same
    · exact sound.ended first process before dropped other old

theorem Sound.exits {state : ServiceProcesses} (sound : Sound state) (pid : Nat) : Sound (state.exits pid) := by
  have found : ∀ other process, (state.exits pid).processes.find? other = some process →
      state.processes.find? other = some process :=
    fun other process present => (state.processes.find?_erase_some pid other process present).2
  refine { sound with fresh := ?_, once := ?_, owner := ?_, place := ?_, ended := ?_ }
  · exact fun other process present => sound.fresh other process (found other process present)
  · exact fun first second process one two =>
      sound.once first second process (found first process one) (found second process two)
  · intro other own
    obtain ⟨before,apart⟩ := (exits_owner state pid other).mp own
    rw [exits_find?,if_neg apart]
    exact sound.owner other before
  · exact fun first process before other present =>
      sound.place first process before other (found other process present)
  · exact fun first process before dropped other present =>
      sound.ended first process before dropped other (found other process present)

theorem Sound.record {state : ServiceProcesses} (sound : Sound state) (valid : Bool) :
    Sound (state.record valid) := by
  unfold ServiceProcesses.record
  split
  next => exact sound
  next pid own =>
    split
    next =>
      obtain ⟨process,present⟩ := sound.owner pid own
      rw [present]
      have new : ∀ other number, (other,number) ∈ state.ever ++ [(pid,process)] →
          (other,number) ∈ state.ever ∨ other = pid ∧ number = process := by
        simp
      refine { sound with parallel := ?_, within := ?_, old := ?_, place := ?_, ended := ?_ }
      · simp [sound.parallel]
      · intro entry member
        rcases List.mem_append.mp member with before | last
        · exact List.mem_append_left _ (sound.within entry before)
        · exact List.mem_append_right _ last
      · intro other number member
        rcases new other number member with before | ⟨_,rfl⟩
        · exact sound.old other number before
        · exact sound.fresh pid number present
      · intro first number member other there
        rcases new first number member with before | ⟨rfl,rfl⟩
        · exact sound.place first number before other there
        · exact sound.once other first number there present
      · intro first number member dropped other
        obtain ⟨unrecorded,apart⟩ := not_or.mp (List.mem_append.not.mp dropped)
        rcases new first number member with before | ⟨rfl,rfl⟩
        · exact sound.ended first number before unrecorded other
        · exact absurd (List.mem_singleton.mpr rfl) apart
    next => exact sound

theorem Sound.stop {state : ServiceProcesses} (sound : Sound state) : Sound state.stop := by
  have looped := stop_spec state
  have found : ∀ other process, state.stop.processes.find? other = some process →
      other ∉ state.plugin.m_pids ∧ state.processes.find? other = some process := by
    intro other process present
    rw [looped.processes] at present
    split at present
    next => cases present
    next absent => exact ⟨by simpa using absent,present⟩
  refine ⟨?_,?_,?_,?_,?_,?_,?_,?_⟩
  · intro other process present
    rw [looped.born]
    exact sound.fresh other process (found other process present).2
  · exact fun first second process one two =>
      sound.once first second process (found first process one).2 (found second process two).2
  · intro other own
    obtain ⟨before,apart⟩ := (looped.owner other).mp own
    rw [looped.processes,if_neg apart]
    exact sound.owner other before
  · rw [looped.recorded,looped.forgotten]
    rfl
  · rw [looped.recorded]
    simp
  · intro other process member
    rw [looped.born]
    exact sound.old other process (looped.ever ▸ member)
  · intro first process member other present
    exact sound.place first process (looped.ever ▸ member) other (found other process present).2
  · intro first process member _ other present
    rw [looped.ever] at member
    obtain ⟨absent,there⟩ := found other process present
    have same := sound.place first process member other there
    by_cases held : (first,process) ∈ state.recorded
    · -- its number is one that the loop went through
      apply absent
      rw [same,← sound.parallel]
      exact List.mem_map_of_mem held
    · exact sound.ended first process member held other there

theorem Sound.acquired {state : ServiceProcesses} (sound : Sound state) (pid : Nat)
    (alive : state.living pid = true) : Sound { state with owner := some pid } := by
  refine { sound with owner := ?_ }
  intro other own
  cases own
  exact Option.isSome_iff_exists.mp alive

theorem appears_living (state : ServiceProcesses) (pid : Nat) : (state.appears pid).living pid = true := by
  simp [living,appears]

theorem Sound.started {state next : ServiceProcesses} (sound : Sound state) (replies : Replies)
    (taken : state.startService replies = some next) : Sound next := by
  unfold startService at taken
  split at taken
  · cases taken
    exact sound.record replies.pidReply
  · split at taken
    · split at taken
      · cases taken
        exact sound.record replies.pidReply
      · obtain ⟨unused,same⟩ := Option.ite_none_left_eq_some.mp taken
        cases same
        have free : state.living replies.number = false := by simpa using unused
        exact ((sound.appears replies.number free).acquired _ (appears_living ..)).record replies.pidReply
    · cases taken
      exact sound

theorem sound_step (state next : ServiceProcesses) (event : Event) (sound : Sound state)
    (taken : step state event = some next) : Sound next := by
  cases event with
  | start replies => exact sound.started replies taken
  | stop =>
    cases taken
    exact sound.stop
  | appears pid =>
    obtain ⟨unused,same⟩ := Option.ite_none_left_eq_some.mp taken
    cases same
    exact sound.appears pid (by simpa using unused)
  | exits pid =>
    obtain ⟨_,same⟩ := Option.ite_none_right_eq_some.mp taken
    cases same
    exact sound.exits pid
  | acquires pid =>
    obtain ⟨both,same⟩ := Option.ite_none_right_eq_some.mp taken
    cases same
    exact sound.acquired pid ((Bool.and_eq_true ..).mp both).1
  | releases =>
    cases taken
    exact { sound with owner := fun _ own => nomatch own }

theorem Sound.attended {state : ServiceProcesses} (sound : Sound state) : Attended state := by
  have looped := stop_spec state
  refine ⟨sound.ended,⟨looped.forgotten,looped.signalled,?_,?_,?_⟩⟩
  · intro pid process held
    apply sound.stop.ended pid process
    · rw [looped.ever]
      exact sound.within _ held
    · rw [looped.recorded]
      simp
  · intro pid absent
    rw [looped.processes,if_neg (by simpa using absent)]
  · rw [Option.eq_none_iff_forall_ne_some]
    constructor
    · intro none pid own
      by_contra absent
      exact none pid ((looped.owner pid).mpr ⟨own,by simpa using absent⟩)
    · intro all pid left
      obtain ⟨own,absent⟩ := (looped.owner pid).mp left
      exact absent (List.mem_reverse.mpr (all pid own))

theorem record_killed (state : ServiceProcesses) (valid : Bool) :
    (state.record valid).killed = state.killed ∧ ∀ entry ∈ state.ever, entry ∈ (state.record valid).ever := by
  unfold record
  split
  next => exact ⟨rfl,fun _ => id⟩
  next =>
    split
    next => exact ⟨rfl,fun _ => List.mem_append_left _⟩
    next => exact ⟨rfl,fun _ => id⟩

/-- Only a stop sends signals. -/
theorem step_killed (state next : ServiceProcesses) (event : Event) (other : event ≠ .stop)
    (taken : step state event = some next) :
    next.killed = state.killed ∧ ∀ entry ∈ state.ever, entry ∈ next.ever := by
  cases event with
  | stop => exact absurd rfl other
  | start replies =>
    change state.startService replies = some next at taken
    unfold startService at taken
    split at taken
    · cases taken
      exact record_killed state _
    · split at taken
      · split at taken
        · cases taken
          exact record_killed state _
        · obtain ⟨_,same⟩ := Option.ite_none_left_eq_some.mp taken
          cases same
          exact record_killed { state.appears replies.number with owner := some replies.number } _
      · cases taken
        exact ⟨rfl,fun _ => id⟩
  | appears pid =>
    obtain ⟨_,same⟩ := Option.ite_none_left_eq_some.mp taken
    cases same
    exact ⟨rfl,fun _ => id⟩
  | exits pid =>
    obtain ⟨_,same⟩ := Option.ite_none_right_eq_some.mp taken
    cases same
    exact ⟨rfl,fun _ => id⟩
  | acquires pid =>
    obtain ⟨_,same⟩ := Option.ite_none_right_eq_some.mp taken
    cases same
    exact ⟨rfl,fun _ => id⟩
  | releases =>
    cases taken
    exact ⟨rfl,fun _ => id⟩

theorem careful_iff (state next : ServiceProcesses) (event : Event) (sound : Sound state)
    (spares : Spares state) (taken : step state event = some next) : Careful state event ↔ Spares next := by
  by_cases stopped : event = .stop
  · subst stopped
    cases taken
    have looped := stop_spec state
    constructor
    · intro careful one member process reached
      rw [looped.ever]
      rcases looped.reached one member with before | ⟨listed,none | there⟩
      · exact spares one before process reached
      · rw [none] at reached
        cases reached
      · exact sound.within _ (careful one.pid (List.mem_reverse.mp listed) process (there ▸ reached))
    · intro all pid listed process present
      obtain ⟨one,member,number,reached⟩ := looped.hits pid (List.mem_reverse.mpr listed)
      have known := all one member process (reached.trans present)
      rw [looped.ever,number] at known
      by_contra unrecorded
      exact sound.ended pid process known unrecorded pid present
  · obtain ⟨killed,ever⟩ := step_killed state next event stopped taken
    have always : Careful state event := by
      cases event with
      | stop => exact absurd rfl stopped
      | _ => trivial
    refine iff_of_true always ?_
    intro one member process reached
    exact ever _ (spares one (killed ▸ member) process reached)

/-- In any run the stops end all that has been recorded; they reach nothing else exactly when
no number has been given to another process in between. -/
theorem spares_iff (events : List Event) :
    Along step Attended {} events ∧ (Along step Spares {} events ↔ Steps step Careful {} events) := by
  have sound : Sound {} := by constructor <;> simp
  have kept : ∀ state event (events : List Event) next, Sound state → step state event = some next →
      Sound next := fun state event _ next before taken => sound_step state next event before taken
  constructor
  · exact along_of_steps step (fun state _ => Sound state) Attended (fun _ _ => True)
      (fun state event events next before _ taken => kept state event events next before taken)
      (fun _ _ before => before.attended) {} events sound (steps_of_all step _ _ events fun _ _ _ => trivial)
  · exact along_iff_steps step (fun state _ => Sound state) Spares Careful kept
      (fun state event _ next before spares taken => careful_iff state next event before spares taken)
      {} events sound (by simp [Spares])

end ServiceProcesses

end LiriSession
