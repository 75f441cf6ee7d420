import LiriSession.InhibitionSteps

/-! The loop of `handleSessionLocked` as the source has it: when it returns, and
what it does when it does not. -/
namespace LiriSession.Inhibition
open Library Logind

def closes (outputs : List Output) : List Int :=
  outputs.filterMap fun | .logind (.close fd) => some fd | _ => none

/-- What the lock handler is to do: return, with the map empty and every
descriptor that was in it closed once, and then emit `sessionLocked` once. -/
def LockReleases (state : Inhibition) (now : Nat) : Prop :=
  ∃ turns next released, state.handleSessionLocked (.asWritten turns) now = some next ∧
    next.m_fds = .empty ∧ next.log = state.log ++ released ++ [.sessionLocked,.activeChanged true] ∧
    .sessionLocked ∉ released ∧ (closes released).Perm state.m_fds.values

theorem releaseLoop_on_entry (who : String) (turns : Nat) (state next : Inhibition) :
    releaseLoop (some who) turns state ≠ .returned next := by
  induction turns generalizing state with
  | zero =>
    intro returned
    cases returned
  | succ turns ih =>
    intro returned
    unfold releaseLoop at returned
    cases found : state.m_fds.find? who with
    | none =>
      rw [found] at returned
      cases returned
    | some fd =>
      rw [found] at returned
      exact ih (state.uninhibit fd) returned

theorem handleSessionLocked_asWritten (state next : Inhibition) (turns now : Nat) :
    state.handleSessionLocked (.asWritten turns) now = some next ↔
      state.m_fds = .empty ∧ state.emitLocked now = next := by
  unfold handleSessionLocked release
  cases first : state.m_fds.firstKey? with
  | none =>
    have empty := state.m_fds.firstKey?_eq_none.mp first
    simp [releaseLoop,empty]
  | some who =>
    have occupied : state.m_fds ≠ .empty := by
      intro empty
      rw [state.m_fds.firstKey?_eq_none.mpr empty] at first
      cases first
    dsimp only
    split
    next after returned => exact absurd returned (releaseLoop_on_entry who turns state after)
    next => simp [occupied]
    next => simp [occupied]

/-- In every state, the lock handler does what it is for exactly when the map of
descriptors is empty. -/
theorem lock_releases_iff_empty (state : Inhibition) (now : Nat) :
    LockReleases state now ↔ state.m_fds = .empty := by
  refine ⟨?_,?_⟩
  · intro releases
    obtain ⟨turns,next,released,returned,rest⟩ := releases
    exact ((handleSessionLocked_asWritten state next turns now).mp returned).1
  · intro empty
    refine ⟨0,state.emitLocked now,[],?_,empty,?_,?_,?_⟩
    · exact (handleSessionLocked_asWritten state _ 0 now).mpr ⟨empty,rfl⟩
    · simp [emitLocked,output]
    · exact List.not_mem_nil
    · rw [empty]
      exact .refl _

theorem handleSessionLocked_releaseEach (state next : Inhibition) (now : Nat)
    (returned : state.handleSessionLocked .releaseEach now = some next) :
    state.releaseEach.emitLocked now = next := by
  simpa [handleSessionLocked,release] using returned

/-- What every release keeps and the emission keeps, a lock handler that returns
keeps, however its loop is read. -/
theorem handleSessionLocked_keeps (holds : Inhibition → Prop)
    (kept : ∀ state fd, state.logind.isConnected = true → fd ∈ state.logind.inhibitFds →
      holds state → holds (state.released fd))
    (emitted : ∀ state now, holds state → holds (state.emitLocked now))
    (state next : Inhibition) (reading : LockReading) (now : Nat) (initial : holds state)
    (returned : state.handleSessionLocked reading now = some next) : holds next := by
  cases reading with
  | asWritten turns =>
    have same := ((handleSessionLocked_asWritten state next turns now).mp returned).2
    rw [← same]
    exact emitted state now initial
  | releaseEach =>
    rw [← handleSessionLocked_releaseEach state next now returned]
    exact emitted state.releaseEach now (releaseEach_keeps holds kept state initial)

/-- If the first entry is not removed, because its name is empty or because the
release is refused, the loop goes round for ever. -/
theorem releaseLoop_running (state : Inhibition) (who : String) (fd : Int) (turns : Nat)
    (first : state.m_fds.firstKey? = some who) (entry : state.m_fds.find? who = some fd)
    (stays : who = "" ∨ state.logind.isConnected = false ∨ fd ∉ state.logind.inhibitFds) :
    releaseLoop (some who) turns state = .running := by
  induction turns generalizing state with
  | zero => rfl
  | succ turns ih =>
    unfold releaseLoop
    rw [entry]
    dsimp only
    rcases uninhibit_cases state fd with ⟨_,same⟩ | ⟨connected,held,same⟩
    · rw [same]
      exact ih state first entry stays
    · have unnamed : who = "" := by
        rcases stays with empty | disconnected | foreign
        · exact empty
        · rw [connected] at disconnected
          cases disconnected
        · exact absurd held foreign
      have key := state.m_fds.findKey?_first (fun value => value = fd) who fd first entry (by simp)
      have kept : (state.released fd).m_fds = state.m_fds := by
        simp [released,LogindBackend.handleUninhibited,key,unnamed]
      rw [same]
      exact ih (state.released fd) (kept ▸ first) (kept ▸ entry) (.inl unnamed)

/-- If it is removed, the next turn reads through the iterator that stands on it. -/
theorem releaseLoop_undefined (state : Inhibition) (who : String) (fd : Int) (turns : Nat)
    (first : state.m_fds.firstKey? = some who) (entry : state.m_fds.find? who = some fd)
    (named : who ≠ "") (connected : state.logind.isConnected = true)
    (held : fd ∈ state.logind.inhibitFds) : releaseLoop (some who) (turns+2) state = .undefined := by
  have key := state.m_fds.findKey?_first (fun value => value = fd) who fd first entry (by simp)
  have erased : (state.released fd).m_fds = state.m_fds.erase who := by
    simp [released,LogindBackend.handleUninhibited,key,named]
  unfold releaseLoop
  rw [entry]
  dsimp only
  rw [uninhibit_held state fd connected held]
  unfold releaseLoop
  rw [erased,OrderedMap.find?_erase,if_pos rfl]

/-- A loop that does not return goes round for ever, or reads an erased entry in
its second turn. -/
theorem release_asWritten (state : Inhibition) (occupied : state.m_fds ≠ .empty) :
    ∃ who fd, state.m_fds.firstKey? = some who ∧ state.m_fds.find? who = some fd ∧
      if who ≠ "" ∧ state.logind.isConnected = true ∧ fd ∈ state.logind.inhibitFds then
        ∀ turns, state.release (.asWritten (turns+2)) = .undefined
      else ∀ turns, state.release (.asWritten turns) = .running := by
  cases first : state.m_fds.firstKey? with
  | none => exact absurd (state.m_fds.firstKey?_eq_none.mp first) occupied
  | some who =>
    obtain ⟨fd,entry⟩ := state.m_fds.firstKey?_spec who first
    refine ⟨who,fd,rfl,entry,?_⟩
    split
    next removed =>
      intro turns
      unfold release
      rw [first]
      exact releaseLoop_undefined state who fd turns first entry removed.1 removed.2.1 removed.2.2
    next stays =>
      intro turns
      unfold release
      rw [first]
      apply releaseLoop_running state who fd turns first entry
      by_cases named : who = ""
      · exact .inl named
      · cases connected : state.logind.isConnected with
        | false => exact .inr (.inl rfl)
        | true => exact .inr (.inr fun held => stays ⟨named,connected,held⟩)

/-- A client with an empty name inhibits, is granted a descriptor, and the
session is locked: the handler does not return. -/
theorem lock_after_unnamed_inhibit : ∃ state,
    run (step (.asWritten 0)) (constructed .logind) [.serviceRegistered graphicalSession,
      .inhibit "" "Playing",.reply 0 (.granted 5)] = some state ∧
    state.logind.isConnected = true ∧ ¬LockReleases state 0 ∧
    ∀ turns, state.release (.asWritten turns) = .running := by
  refine ⟨_,rfl,rfl,?_,?_⟩
  · rw [lock_releases_iff_empty]
    intro empty
    exact absurd (congrArg OrderedMap.entries empty) (by decide)
  · intro turns
    exact releaseLoop_running _ "" 5 turns rfl rfl (.inl rfl)

end LiriSession.Inhibition
