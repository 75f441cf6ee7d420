import LiriSession.Shell

/-! What the start of the shell leaves behind when it reports a failure: the retry loop,
the nested loop and the watchdog act on one process. -/
namespace LiriSession.ShellPlugin
open Library Shell

/-- What a notification says about the process, if anything: whether it has crashed. -/
def mark : Notification → Option Bool
  | .started => some false
  | .failedToStart => some false
  | .crashed => some true
  | .exited _ => some false
  | _ => none

/-- The last news of the process is a crash that the watchdog still answers. -/
def Relaunched (plugin : ShellPlugin) (nested : List Notification) : Prop :=
  (nested.filterMap mark).getLast? = some true ∧
    (nested.filterMap mark).count true ≤ plugin.m_watchDogCounter ∧ plugin.m_stopping = false

/-- The attempt that the retry loop ends with. -/
def lastAttempt : List Attempt → Option Attempt
  | [] => none
  | .started nested::_ => some (.started nested)
  | [attempt] => some attempt
  | _::attempts => lastAttempt attempts

/-- Nothing runs before, if there is nothing to start; the last wait does not run out of
time, if all of them fail; the watchdog does not answer the last crash, if one succeeds. -/
def EndsClean (plugin : ShellPlugin) : Option Attempt → Prop
  | none => plugin.process = .notRunning
  | some .failed => True
  | some .timedOut => False
  | some (.started nested) => ¬Relaunched plugin nested

def LeavesNothing (result : Bool × ShellPlugin) : Prop :=
  result.1 = false → result.2.process = .notRunning

theorem notify_unmarked (plugin next : ShellPlugin) (notification : Notification)
    (unmarked : mark notification = none) (taken : plugin.notify notification = some next) :
    next.process = plugin.process ∧ next.m_watchDogCounter = plugin.m_watchDogCounter ∧
      next.m_stopping = plugin.m_stopping := by
  cases notification with
  | started => cases unmarked
  | failedToStart => cases unmarked
  | crashed => cases unmarked
  | exited => cases unmarked
  | error error =>
    obtain ⟨other,same⟩ := Option.ite_none_left_eq_some.mp taken
    have unchanged : plugin.processCrashed error = plugin := by
      cases error <;> first | rfl | exact absurd (by decide) other
    rw [← Option.some.inj same,unchanged]
    exact ⟨rfl,rfl,rfl⟩
  | serviceRegistered serviceName =>
    cases taken
    unfold handleServiceRegistered
    split <;> (try split) <;> exact ⟨rfl,rfl,rfl⟩
  | serviceUnregistered serviceName =>
    cases taken
    unfold handleServiceUnregistered
    split <;> (try split) <;> exact ⟨rfl,rfl,rfl⟩
  | quit =>
    cases taken
    exact ⟨rfl,rfl,rfl⟩

theorem notify_alive (plugin next : ShellPlugin) (notification : Notification)
    (marked : mark notification = some false) (taken : plugin.notify notification = some next) :
    next.process ≠ .starting ∧ next.m_watchDogCounter = plugin.m_watchDogCounter ∧
      next.m_stopping = plugin.m_stopping := by
  cases notification with
  | started =>
    obtain ⟨_,same⟩ := Option.ite_none_right_eq_some.mp taken
    cases same
    exact ⟨ProcessState.noConfusion,rfl,rfl⟩
  | failedToStart =>
    obtain ⟨_,same⟩ := Option.ite_none_right_eq_some.mp taken
    cases same
    exact ⟨by simp [processCrashed],rfl,rfl⟩
  | exited =>
    obtain ⟨_,same⟩ := Option.ite_none_right_eq_some.mp taken
    cases same
    exact ⟨by simp,rfl,rfl⟩
  | _ => cases marked

theorem notify_crashed (plugin next : ShellPlugin) (taken : plugin.notify .crashed = some next) :
    (next.process = .starting ↔ 1 ≤ plugin.m_watchDogCounter ∧ plugin.m_stopping = false) ∧
      (plugin.m_stopping = false → next.m_watchDogCounter = plugin.m_watchDogCounter - 1) ∧
      next.m_stopping = plugin.m_stopping := by
  obtain ⟨_,same⟩ := Option.ite_none_right_eq_some.mp taken
  rw [← Option.some.inj same]
  dsimp only [processCrashed]
  cases stopping : plugin.m_stopping with
  | true => simp
  | false =>
    by_cases watched : plugin.m_watchDogCounter > 0
    · have one : 1 ≤ plugin.m_watchDogCounter := by omega
      simp [watched,launch,call,one]
    · have none : ¬1 ≤ plugin.m_watchDogCounter := by omega
      simp [watched,none]

/-- The process is left starting if the watchdog answers the last news, or if there is no
news and it was starting before. -/
theorem runLoop_starting_iff (plugin final : ShellPlugin) (nested : List Notification)
    (ran : plugin.runLoop nested = some final) :
    final.process = .starting ↔
      Relaunched plugin nested ∨ nested.filterMap mark = [] ∧ plugin.process = .starting := by
  induction nested generalizing plugin with
  | nil =>
    obtain ⟨_,same⟩ := Option.ite_none_right_eq_some.mp ran
    simp [Relaunched,← Option.some.inj same]
  | cons notification nested ih =>
    obtain ⟨next,taken,ran⟩ := Option.bind_eq_some_iff.mp ran
    rw [ih next ran]
    unfold Relaunched
    cases marked : mark notification with
    | none =>
      obtain ⟨process,counter,stopping⟩ := notify_unmarked plugin next notification marked taken
      rw [List.filterMap_cons_none marked,process,counter,stopping]
    | some crash =>
      rw [List.filterMap_cons_some marked]
      cases crash with
      | false =>
        obtain ⟨process,counter,stopping⟩ := notify_alive plugin next notification marked taken
        rw [counter,stopping]
        cases nested.filterMap mark <;> simp [process]
      | true =>
        cases notification with
        | crashed =>
          obtain ⟨process,counter,stopping⟩ := notify_crashed plugin next taken
          rw [process,stopping]
          cases stopped : plugin.m_stopping with
          | true => simp
          | false =>
            rw [counter stopped]
            cases nested.filterMap mark with
            | nil => simp
            | cons later rest =>
              -- the crash that is handled now is one more to be answered
              have answered : ((later::rest).count true : Int) ≤ plugin.m_watchDogCounter - 1 ↔
                  ((true::later::rest).count true : Int) ≤ plugin.m_watchDogCounter := by
                rw [List.count_cons_self]
                omega
              rw [answered,List.getLast?_cons_cons]
              simp
        | _ => cases marked

theorem launch_counters (plugin : ShellPlugin) :
    plugin.launch.m_watchDogCounter = plugin.m_watchDogCounter ∧
      plugin.launch.m_stopping = plugin.m_stopping := by
  unfold launch
  split <;> exact ⟨rfl,rfl⟩

theorem lastAttempt_cons (attempt : Attempt) (attempts : List Attempt) :
    lastAttempt (attempt::attempts) ≠ none := by
  induction attempts generalizing attempt with
  | nil => cases attempt <;> simp [lastAttempt]
  | cons second rest ih =>
    cases attempt with
    | started nested => simp [lastAttempt]
    | failed => exact ih second
    | timedOut => exact ih second

theorem endsClean_later (plugin next : ShellPlugin) (attempt : Attempt) (attempts : List Attempt)
    (unstarted : ∀ nested, attempt ≠ .started nested)
    (counter : next.m_watchDogCounter = plugin.m_watchDogCounter)
    (stopping : next.m_stopping = plugin.m_stopping)
    (empty : next.process = .notRunning ↔ EndsClean plugin (some attempt)) :
    EndsClean next (lastAttempt attempts) ↔ EndsClean plugin (lastAttempt (attempt::attempts)) := by
  cases attempts with
  | nil =>
    cases attempt with
    | started nested => exact absurd rfl (unstarted nested)
    | _ => exact empty
  | cons second rest =>
    have same : lastAttempt (attempt::second::rest) = lastAttempt (second::rest) := by
      cases attempt with
      | started nested => exact absurd rfl (unstarted nested)
      | _ => rfl
    rw [same]
    cases last : lastAttempt (second::rest) with
    | none => exact absurd last (lastAttempt_cons second rest)
    | some ending =>
      cases ending with
      | started nested =>
        unfold EndsClean Relaunched
        rw [counter,stopping]
      | _ => rfl

/-- A loop that is entered with a running process leaves nothing exactly when no crash has
been answered last. -/
theorem nested_leavesNothing_iff (plugin final : ShellPlugin) (nested : List Notification)
    (running : plugin.process = .running) (ran : plugin.runLoop nested = some final) :
    LeavesNothing (decide (final.process = .running),final) ↔ ¬Relaunched plugin nested := by
  have left := runLoop_starting_iff plugin final nested ran
  rw [running] at left
  unfold LeavesNothing
  cases process : final.process <;> simp_all

theorem startLoop_leavesNothing_iff (plugin : ShellPlugin) (retries : Nat) (attempts : List Attempt)
    (result : Bool × ShellPlugin) (ran : plugin.startLoop retries attempts = some result) :
    LeavesNothing result ↔ EndsClean plugin (lastAttempt attempts) := by
  obtain ⟨counter,stopping⟩ := launch_counters plugin
  induction retries generalizing plugin attempts with
  | zero =>
    cases attempts with
    | nil =>
      cases ran
      simp [LeavesNothing,EndsClean,lastAttempt]
    | cons => cases ran
  | succ retries ih =>
    cases attempts with
    | nil => cases ran
    | cons attempt attempts =>
      unfold startLoop at ran
      dsimp only at ran
      split at ran
      next failed _ =>
        rw [ih _ attempts ran (launch_counters _).1 (launch_counters _).2]
        exact endsClean_later plugin _ .failed attempts (fun _ => Attempt.noConfusion) counter stopping
          (iff_of_true rfl trivial)
      next timedOut starting =>
        rw [ih _ attempts ran (launch_counters _).1 (launch_counters _).2]
        exact endsClean_later plugin _ .timedOut attempts (fun _ => Attempt.noConfusion) counter stopping
          (iff_of_false (by rw [starting]; decide) id)
      next nested starting =>
        obtain ⟨final,entered,same⟩ := Option.map_eq_some_iff.mp ran
        rw [← same,nested_leavesNothing_iff _ final nested rfl entered]
        unfold Relaunched
        rw [counter,stopping]
        rfl
      next nested running =>
        obtain ⟨final,entered,same⟩ := Option.map_eq_some_iff.mp ran
        rw [← same,nested_leavesNothing_iff { plugin.launch with quitLoop := false } final nested running
          entered]
        unfold Relaunched
        rw [counter,stopping]
        rfl
      next => cases ran

/-- When the start fails, nothing is left starting or running exactly when the attempt
it ends with ends clean. -/
theorem start_leavesNothing_iff (plugin : ShellPlugin) (installed : Bool) (attempts : List Attempt)
    (result : Bool × ShellPlugin) (ran : plugin.start installed attempts = some result) :
    LeavesNothing result ↔ EndsClean plugin (if installed then lastAttempt attempts else none) := by
  cases installed with
  | true => exact startLoop_leavesNothing_iff plugin 5 attempts result ran
  | false =>
    cases ran
    simp [LeavesNothing,EndsClean]

theorem failed_start_clean : ∃ result, ({} : ShellPlugin).start true
    [.failed,.failed,.timedOut,.failed,.failed] = some result ∧ result.1 = false ∧ LeavesNothing result :=
  ⟨_,rfl,rfl,(start_leavesNothing_iff {} true [.failed,.failed,.timedOut,.failed,.failed] _ rfl).mpr trivial⟩

/-- The shell crashes before it registers: the watchdog launches it again while the loop
is told to quit. -/
theorem crash_leaves_starting : ¬ ∀ (plugin : ShellPlugin) (installed : Bool)
    (attempts : List Attempt) (result : Bool × ShellPlugin), plugin.process = .notRunning →
      plugin.start installed attempts = some result → LeavesNothing result := by
  intro all
  have left := all {} true [.started [.crashed]] _ rfl rfl rfl
  cases left

end LiriSession.ShellPlugin
