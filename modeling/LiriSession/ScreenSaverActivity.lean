import LiriSession.Inhibition
import LiriSession.Library.Changes

/-! Whether the screen saver is active and for how long, over the notifications of the
backend. Two sources make them, so one can come when nothing changes. -/
namespace LiriSession
open Library

namespace ScreenSaver

def GetActive (saver : ScreenSaver) : Bool := saver.m_active

/-- The timer counts in 64 bits, and the result has 32. -/
def GetActiveTime (saver : ScreenSaver) (now : Nat) : UInt32 :=
  match saver.m_elapsedTimer with
  | none => 0
  | some started =>
    let elapsed := Int64.ofNat (now - started)
    if elapsed > 0 then elapsed.toUInt64.toUInt32 else 0

end ScreenSaver

/-- The screen saver on a clock, with what `ActiveChanged` has carried and when the screen
saver last became active, if it is. -/
structure ScreenSaverActivity where
  saver : ScreenSaver := {}
  now : Nat := 0
  emitted : List Bool := []
  since : Option Nat := none

namespace ScreenSaverActivity

inductive Event
  | sessionLocked
  | sessionUnlocked
  | elapse (milliseconds : Nat)

def handle (state : ScreenSaverActivity) : Event → ScreenSaverActivity
  | .sessionLocked => { state with
      saver := state.saver.handleLock state.now
      emitted := state.emitted ++ [true]
      since := if state.saver.GetActive then state.since else some state.now }
  | .sessionUnlocked => { state with
      saver := state.saver.handleUnlock
      emitted := state.emitted ++ [false]
      since := none }
  | .elapse milliseconds => { state with now := state.now + milliseconds }

def step (state : ScreenSaverActivity) (event : Event) : Option ScreenSaverActivity :=
  some (state.handle event)

/-- `ActiveChanged` has carried the changes, and the time is that since the last of them. -/
structure Reported (state : ScreenSaverActivity) : Prop where
  announced : Follows false state.emitted state.saver.GetActive
  inactive : state.saver.GetActive = false → state.saver.GetActiveTime state.now = 0
  active : state.saver.GetActive = true → ∃ start, state.since = some start ∧
    (state.saver.GetActiveTime state.now).toNat = state.now - start

/-- The time does not go back while the screen saver stays active. -/
def Grows (state : ScreenSaverActivity) (event : Event) : Prop :=
  state.saver.GetActive = true → (state.handle event).saver.GetActive = true →
    state.saver.GetActiveTime state.now ≤ (state.handle event).saver.GetActiveTime (state.handle event).now

/-- A notification brings a change, and the screen saver is not active for 2^32 milliseconds. -/
def Prompt (state : ScreenSaverActivity) : Event → Prop
  | .sessionLocked => state.saver.GetActive = false
  | .sessionUnlocked => state.saver.GetActive = true
  | .elapse milliseconds => ∀ start, state.since = some start →
    state.now + milliseconds - start < 2^32

/-- The timer is that of the last change, unless a notification has been repeated. -/
structure Timed (state : ScreenSaverActivity) : Prop where
  last : state.emitted.getLast?.getD false = state.saver.GetActive
  inactive : state.saver.GetActive = false → state.saver.m_elapsedTimer = none
  active : state.saver.GetActive = true → ∃ start, state.since = some start ∧ start ≤ state.now
  since : state.saver.GetActive = false → state.since = none
  started : (false::state.emitted).IsChain (· ≠ ·) → state.saver.m_elapsedTimer = state.since

theorem activeTime_none (saver : ScreenSaver) (now : Nat) (invalid : saver.m_elapsedTimer = none) :
    saver.GetActiveTime now = 0 := by
  rw [ScreenSaver.GetActiveTime,invalid]

theorem activeTime_iff (saver : ScreenSaver) (now started : Nat)
    (valid : saver.m_elapsedTimer = some started) :
    (saver.GetActiveTime now).toNat = now - started ↔ now - started < 2^32 := by
  apply Iff.intro
  · intro same
    rw [← same]
    exact (saver.GetActiveTime now).toNat_lt
  · intro small
    rw [ScreenSaver.GetActiveTime,valid]
    dsimp only
    generalize now - started = elapsed at small
    have exact64 : (Int64.ofNat elapsed).toInt = elapsed := Int64.toInt_ofNat_of_lt (by omega)
    have positive : Int64.ofNat elapsed > 0 ↔ 0 < elapsed := by
      rw [gt_iff_lt,Int64.lt_iff_toInt_lt,exact64]
      simp
    rw [if_congr positive rfl rfl]
    split
    next =>
      have narrowed : (Int64.ofNat elapsed).toUInt64.toUInt32.toNat = elapsed % 2^32 := by simp
      rw [narrowed,Nat.mod_eq_of_lt small]
    next none =>
      have zero : elapsed = 0 := by omega
      simp [zero]

theorem timed_start : Timed {} :=
  ⟨rfl,fun _ => rfl,fun active => Bool.noConfusion active,fun _ => rfl,fun _ => rfl⟩

/-- A history with an added notification changes each time only if the last brings a change. -/
theorem chain_concat (state : ScreenSaverActivity) (value : Bool) (timed : Timed state)
    (chain : (false::(state.emitted ++ [value])).IsChain (· ≠ ·)) :
    (false::state.emitted).IsChain (· ≠ ·) ∧ state.saver.GetActive ≠ value := by
  rw [← List.cons_append] at chain
  have before := (List.isChain_append.mp chain).1
  have follows : Follows false state.emitted state.saver.GetActive := ⟨before,timed.last⟩
  have after : Follows false (state.emitted ++ [value]) value := ⟨chain,by simp⟩
  exact ⟨before,((follows.concat_iff value value).mp after).1⟩

theorem timed_handle (state : ScreenSaverActivity) (event : Event) (timed : Timed state) :
    Timed (state.handle event) := by
  cases event with
  | sessionLocked =>
    refine ⟨by simp [handle,ScreenSaver.handleLock,ScreenSaver.GetActive],
      fun inactive => Bool.noConfusion inactive,fun _ => ?_,fun inactive => Bool.noConfusion inactive,
      fun chain => ?_⟩
    · cases active : state.saver.GetActive with
      | false => exact ⟨state.now,by simp [handle,active],Nat.le_refl _⟩
      | true =>
        obtain ⟨start,since,past⟩ := timed.active active
        exact ⟨start,by simp [handle,active,since],past⟩
    · have changed := (chain_concat state true timed chain).2
      simp [handle,ScreenSaver.handleLock,changed]
  | sessionUnlocked =>
    exact ⟨by simp [handle,ScreenSaver.handleUnlock,ScreenSaver.GetActive],fun _ => rfl,
      fun active => Bool.noConfusion active,fun _ => rfl,fun _ => rfl⟩
  | elapse milliseconds =>
    refine ⟨timed.last,timed.inactive,fun active => ?_,timed.since,timed.started⟩
    obtain ⟨start,since,past⟩ := timed.active active
    exact ⟨start,since,Nat.le_add_right_of_le past⟩

theorem locked_reported_iff (state : ScreenSaverActivity) (reported : Reported state) :
    state.saver.GetActive = false ↔ Reported (state.handle .sessionLocked) := by
  apply Iff.intro
  · intro inactive
    refine ⟨?_,fun inactive => Bool.noConfusion inactive,fun _ => ⟨state.now,?_,?_⟩⟩
    · exact (reported.announced.concat_iff true true).mpr ⟨by simp [inactive],rfl⟩
    · simp [handle,inactive]
    · exact (activeTime_iff _ state.now state.now rfl).mpr (by simp)
  · intro after
    have changed := ((reported.announced.concat_iff true true).mp after.announced).1
    simpa using changed

theorem unlocked_reported_iff (state : ScreenSaverActivity) (reported : Reported state) :
    state.saver.GetActive = true ↔ Reported (state.handle .sessionUnlocked) := by
  apply Iff.intro
  · intro active
    refine ⟨?_,fun _ => rfl,fun active => Bool.noConfusion active⟩
    exact (reported.announced.concat_iff false false).mpr ⟨by simp [active],rfl⟩
  · intro after
    have changed := ((reported.announced.concat_iff false false).mp after.announced).1
    simpa using changed

theorem elapse_reported_iff (state : ScreenSaverActivity) (milliseconds : Nat) (timed : Timed state)
    (reported : Reported state) : Prompt state (.elapse milliseconds) ↔
      Reported (state.handle (.elapse milliseconds)) := by
  have started := timed.started reported.announced.changing
  cases active : state.saver.GetActive with
  | false =>
    apply iff_of_true
    · intro start since
      rw [timed.since active] at since
      cases since
    · refine ⟨reported.announced,fun _ => activeTime_none _ _ (timed.inactive active),fun now => ?_⟩
      rw [show state.saver.GetActive = true from now] at active
      cases active
  | true =>
    obtain ⟨start,since,_⟩ := timed.active active
    have right := activeTime_iff state.saver (state.now + milliseconds) start (started.trans since)
    apply Iff.intro
    · intro small
      refine ⟨reported.announced,fun inactive => ?_,fun _ => ⟨start,since,right.mpr (small start since)⟩⟩
      rw [show state.saver.GetActive = false from inactive] at active
      cases active
    · intro after other same
      obtain ⟨found,stays,exactly⟩ := after.active active
      rw [show state.since = some found from stays] at same since
      cases same
      cases since
      exact right.mp exactly

theorem step_reported_iff (state next : ScreenSaverActivity) (event : Event) (timed : Timed state)
    (reported : Reported state) (taken : step state event = some next) :
    Prompt state event ↔ Reported next := by
  cases taken
  cases event with
  | sessionLocked => exact locked_reported_iff state reported
  | sessionUnlocked => exact unlocked_reported_iff state reported
  | elapse milliseconds => exact elapse_reported_iff state milliseconds timed reported

theorem step_grows (state : ScreenSaverActivity) (event : Event) (timed : Timed state)
    (reported : Reported state) (prompt : Prompt state event) : Grows state event := by
  intro before after
  cases event with
  | sessionLocked =>
    rw [show state.saver.GetActive = false from prompt] at before
    cases before
  | sessionUnlocked => cases after
  | elapse milliseconds =>
    have next := (elapse_reported_iff state milliseconds timed reported).mp prompt
    obtain ⟨start,since,earlier⟩ := reported.active before
    obtain ⟨same,stays,later⟩ := next.active after
    rw [show state.since = some same from stays] at since
    cases since
    rw [UInt32.le_iff_toNat_le,earlier,later]
    exact Nat.sub_le_sub_right (Nat.le_add_right _ _) start

/-- In every run `ActiveChanged` carries the changes and the time is that since the last one,
exactly when no notification is repeated and the time fits into 32 bits. -/
theorem reported_iff (events : List Event) :
    Along step Reported {} events ∧ Steps step Grows {} events ↔ Steps step Prompt {} events := by
  apply along_and_steps_iff step (fun state _ => Timed state) Reported Prompt Grows
  · intro state event _ next timed taken
    cases taken
    exact timed_handle state event timed
  · exact fun state event _ next timed reported taken =>
      step_reported_iff state next event timed reported taken
  · exact fun state event _ timed reported prompt => step_grows state event timed reported prompt
  · exact timed_start
  · exact ⟨follows_nil false,fun _ => rfl,fun active => Bool.noConfusion active⟩

/-- The session is locked and the system goes to sleep: the time starts again. -/
theorem locked_before_sleep : ¬ ∀ events,
    Along step Reported {} events ∧ Steps step Grows {} events := by
  intro all
  obtain ⟨along,_⟩ := all [.sessionLocked,.elapse 5000,.sessionLocked]
  have reached := along_start step Reported _ [] (((along.2 _ rfl).2 _ rfl).2 _ rfl)
  have repeated : [false,true,true].IsChain (· ≠ ·) := reached.announced.changing
  exact absurd repeated (by decide)

end ScreenSaverActivity

end LiriSession
