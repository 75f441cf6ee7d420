import LiriSession.LockLoop

/-! How long the cookies of `Inhibit` stay apart. The counter is 32 bits wide, and no call
looks into the table before it enters its cookie. -/
namespace LiriSession
open Library Logind Inhibition

/-- The screen saver with the number of calls of `Inhibit`, and for each cookie how many
there had been when `UnInhibit` last removed it. -/
structure CookieHistory where
  state : Inhibition
  calls : Nat := 0
  removed : Nat → Option Nat := fun _ => none

namespace CookieHistory

def step (reading : LockReading) (history : CookieHistory) (event : Event) : Option CookieHistory :=
  (Inhibition.step reading history.state event).map fun next =>
    match event with
    | .inhibit _ _ => { history with state := next, calls := history.calls + 1 }
    | .unInhibit cookie =>
      if (history.state.saver.m_inhibitFd.find? cookie).getD (-1) ≠ -1 then
        { history with
          state := next
          removed := Function.update history.removed cookie (some history.calls) }
      else { history with state := next }
    | _ => { history with state := next }

/-- Since the next cookie was last removed, or else since the start, there have been
fewer calls than there are cookies. -/
def Spared (history : CookieHistory) : Prop :=
  history.calls < (history.removed (history.calls % 2^32)).getD 0 + 2^32

/-- A cookie is vacant if no call since its last removal has had it. -/
structure Numbered (history : CookieHistory) : Prop where
  counter : history.state.saver.cookieSeed = history.calls % 2^32
  past : ∀ cookie, (history.removed cookie).getD 0 ≤ history.calls
  vacant : ∀ cookie, history.state.saver.m_inhibit.find? cookie = none ↔
    ∀ call, (history.removed cookie).getD 0 ≤ call → call < history.calls → call % 2^32 ≠ cookie

/-- The table and the counter, which only `Inhibit` and `UnInhibit` touch. -/
def Same (before after : Inhibition) : Prop :=
  after.saver.m_inhibit = before.saver.m_inhibit ∧ after.saver.cookieSeed = before.saver.cookieSeed

theorem same_uninhibit (before state : Inhibition) (fd : Int) (same : Same before state) :
    Same before (state.uninhibit fd) :=
  uninhibit_keeps (Same before) state fd (fun _ _ same => same) same

theorem same_handleInhibited (state : Inhibition) (who why : String) (fd : Int) :
    (state.saver.handleInhibited who why fd).m_inhibit = state.saver.m_inhibit ∧
    (state.saver.handleInhibited who why fd).cookieSeed = state.saver.cookieSeed := by
  unfold ScreenSaver.handleInhibited
  split <;> exact ⟨rfl,rfl⟩

theorem same_lock (reading : LockReading) (state next : Inhibition) (now : Nat)
    (returned : state.handleSessionLocked reading now = some next) : Same state next := by
  cases reading with
  | asWritten turns =>
    obtain ⟨_,same⟩ := (handleSessionLocked_asWritten state next turns now).mp returned
    rw [← same]
    exact ⟨rfl,rfl⟩
  | releaseEach =>
    cases returned
    exact releaseEach_keeps (Same state) (fun _ _ _ _ same => same) state ⟨rfl,rfl⟩

theorem same_of_other (reading : LockReading) (state next : Inhibition) (event : Event)
    (other : ofClient event = false) (taken : Inhibition.step reading state event = some next) :
    Same state next := by
  cases moves_of_step reading state next event taken with
  | unsent => cases other
  | sent => cases other
  | unbound => cases other
  | bound => cases other
  | registered => exact ⟨rfl,rfl⟩
  | unregistered => exact ⟨rfl,rfl⟩
  | uninhibit fd => exact same_uninhibit state state fd ⟨rfl,rfl⟩
  | error => exact ⟨rfl,rfl⟩
  | granted serial request fd => exact same_handleInhibited state request.who request.why fd
  | lock now _ _ _ returned => exact same_lock reading state next now returned
  | unlock =>
    exact handleSessionUnlocked_keeps (Same state) (fun _ _ _ _ same => same)
      (fun _ same => same) state ⟨rfl,rfl⟩

theorem Numbered.of_same (history : CookieHistory) (next : Inhibition) (numbered : Numbered history)
    (same : Same history.state next) : Numbered { history with state := next } := by
  refine ⟨same.2.trans numbered.counter,numbered.past,?_⟩
  intro cookie
  dsimp only
  rw [same.1]
  exact numbered.vacant cookie

theorem Numbered.enter (history : CookieHistory) (next : Inhibition) (appName reason : String)
    (numbered : Numbered history) (entered : next.saver = history.state.saver.addEntry appName reason) :
    Numbered { history with state := next, calls := history.calls + 1 } := by
  apply Numbered.mk
  · dsimp only
    rw [entered]
    change (history.state.saver.cookieSeed + 1) % 2^32 = (history.calls + 1) % 2^32
    rw [numbered.counter,Nat.mod_add_mod]
  · exact fun cookie => Nat.le_succ_of_le (numbered.past cookie)
  · intro cookie
    dsimp only
    rw [entered]
    change (history.state.saver.m_inhibit.insert history.state.saver.cookieSeed _).find? cookie = none ↔ _
    rw [OrderedMap.find?_insert,numbered.counter]
    split
    next given =>
      apply iff_of_false (Option.some_ne_none _)
      intro unused
      exact unused history.calls (numbered.past cookie) (Nat.lt_succ_self _) given.symm
    next other =>
      rw [numbered.vacant]
      apply Iff.intro
      · intro unused call since before
        rcases Nat.lt_succ_iff_lt_or_eq.mp before with earlier | last
        · exact unused call since earlier
        · exact last ▸ fun given => other given.symm
      · exact fun unused call since before => unused call since (Nat.lt_succ_of_lt before)

theorem Numbered.remove (history : CookieHistory) (next : Inhibition) (cookie : Nat)
    (numbered : Numbered history) (left : next.saver = history.state.saver.removeEntry cookie) :
    Numbered { history with
      state := next
      removed := Function.update history.removed cookie (some history.calls) } := by
  apply Numbered.mk
  · dsimp only
    rw [left]
    exact numbered.counter
  · intro other
    by_cases same : other = cookie
    · simp [same]
    · simpa [Function.update_of_ne same] using numbered.past other
  · intro other
    dsimp only
    rw [left]
    change (history.state.saver.m_inhibit.erase cookie).find? other = none ↔ _
    rw [OrderedMap.find?_erase]
    by_cases same : other = cookie
    · simp [same]
      omega
    · simpa [Function.update_of_ne same,same] using numbered.vacant other

theorem inhibit_saver (state : Inhibition) (appName reason : String) :
    (state.inhibit appName reason).2.saver = state.saver.addEntry appName reason := by
  generalize found : (state.inhibit appName reason).2 = next
  have moves := moves_of_inhibit (.asWritten 0) state appName reason
  rw [found] at moves
  cases moves with
  | unsent => rfl
  | sent => rfl

theorem step_numbered (reading : LockReading) (history next : CookieHistory) (event : Event)
    (numbered : Numbered history) (taken : step reading history event = some next) : Numbered next := by
  obtain ⟨state,moved,after⟩ := Option.map_eq_some_iff.mp taken
  rw [← after]
  cases event with
  | inhibit appName reason =>
    cases moved
    exact numbered.enter history _ appName reason (inhibit_saver history.state appName reason)
  | unInhibit cookie =>
    cases moved
    dsimp only
    rcases unInhibit_cases history.state cookie with ⟨unbound,same⟩ | ⟨fd,bound,valid,same⟩
    · rw [if_neg (not_not_intro unbound),same]
      exact numbered.of_same history _ ⟨rfl,rfl⟩
    · rw [if_pos (by rw [bound]; exact valid),same]
      apply numbered.remove history
      rw [← uninhibitIdle_saver history.state fd]
      rfl
  | _ => exact numbered.of_same history state (same_of_other reading history.state state _ rfl moved)

theorem numbered_start (backend : SessionBackend) : Numbered { state := constructed backend } := by
  cases backend with
  | fake => exact ⟨rfl,fun _ => Nat.zero_le _,fun _ => iff_of_true rfl fun _ _ none => absurd none (Nat.not_lt_zero _)⟩
  | logind => exact ⟨rfl,fun _ => Nat.zero_le _,fun _ => iff_of_true rfl fun _ _ none => absurd none (Nat.not_lt_zero _)⟩

theorem run_numbered (reading : LockReading) (backend : SessionBackend) (events : List Event)
    (history : CookieHistory)
    (ran : run (step reading) { state := constructed backend } events = some history) :
    Numbered history :=
  run_invariant (step reading) (fun history _ => Numbered history)
    (fun history event _ next numbered taken => step_numbered reading history next event numbered taken)
    _ history events (numbered_start backend) ran

theorem Numbered.spared_iff (history : CookieHistory) (numbered : Numbered history) :
    history.state.saver.m_inhibit.find? history.state.saver.cookieSeed = none ↔ history.Spared := by
  rw [numbered.vacant,numbered.counter]
  unfold Spared
  have past := numbered.past (history.calls % 2^32)
  apply Iff.intro
  · intro unused
    by_contra many
    refine unused (history.calls - 2^32) (by omega) (by omega) ?_
    rw [← Nat.mod_eq_sub_mod (by omega)]
  · intro few call since before same
    omega

/-- In every run, a call of `Inhibit` returns a cookie that is not in the table exactly
when fewer calls than there are cookies have been made since that cookie was removed. -/
theorem unused_iff (reading : LockReading) (backend : SessionBackend) (events : List Event)
    (history : CookieHistory) (appName reason : String)
    (ran : run (step reading) { state := constructed backend } events = some history) :
    history.state.saver.m_inhibit.find? (history.state.inhibit appName reason).1 = none ↔
      history.Spared :=
  (run_numbered reading backend events history ran).spared_iff history

def playedOnce : List Event := [.serviceRegistered graphicalSession,.inhibit "player" "video",
  .reply 0 (.granted 5),.unInhibit 0]

theorem first_cookie_unused : ∃ history,
    run (step .releaseEach) { state := constructed .logind } playedOnce = some history ∧
      history.removed 0 = some 1 ∧
      history.state.saver.m_inhibit.find? (history.state.inhibit "viewer" "slides").1 = none := by
  have vacant (history : CookieHistory)
      (ran : run (step .releaseEach) { state := constructed .logind } playedOnce = some history)
      (calls : history.calls = 1) :
      history.state.saver.m_inhibit.find? (history.state.inhibit "viewer" "slides").1 = none := by
    refine (unused_iff .releaseEach .logind playedOnce history "viewer" "slides" ran).mpr ?_
    rw [Spared,calls]
    omega
  exact ⟨_,rfl,rfl,vacant _ rfl rfl⟩

theorem step_inhibit (reading : LockReading) (history : CookieHistory) (appName reason : String) :
    step reading history (.inhibit appName reason) =
      some { history with
        state := (history.state.inhibit appName reason).2
        calls := history.calls + 1 } := by
  simp [step,Inhibition.step]

theorem run_inhibits (reading : LockReading) (appName reason : String) (count : Nat)
    (history : CookieHistory) : ∃ final,
      run (step reading) history (List.replicate count (.inhibit appName reason)) = some final ∧
        final.calls = history.calls + count ∧ final.removed = history.removed := by
  induction count generalizing history with
  | zero => exact ⟨history,rfl,rfl,rfl⟩
  | succ count ih =>
    obtain ⟨final,ran,calls,removed⟩ := ih { history with
      state := (history.state.inhibit appName reason).2
      calls := history.calls + 1 }
    refine ⟨final,?_,by rw [calls]; exact Nat.add_right_comm ..,removed⟩
    rw [List.replicate_succ,run_cons,step_inhibit]
    exact ran

/-- After as many calls as there are cookies the first one is returned again, though
nobody has given it back. -/
theorem first_cookie_again : ¬ ∀ (reading : LockReading) (backend : SessionBackend)
    (events : List Event) (history : CookieHistory) (appName reason : String),
      run (step reading) { state := constructed backend } events = some history →
        history.state.saver.m_inhibit.find? (history.state.inhibit appName reason).1 = none := by
  intro all
  obtain ⟨history,ran,calls,removed⟩ := run_inhibits .releaseEach "player" "video" (2^32)
    { state := constructed .logind }
  have numbered := run_numbered .releaseEach .logind _ history ran
  have spared := (numbered.spared_iff history).mp (all _ _ _ history "player" "video" ran)
  rw [Spared,removed,calls] at spared
  exact absurd spared (by simp)

end CookieHistory

end LiriSession
