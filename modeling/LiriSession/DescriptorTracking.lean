import LiriSession.Descriptors

/-! The two tables of descriptors, `m_fds` of the backend and `inhibitFds` of the
client of logind, along runs in which the lock handler releases each entry once. -/
namespace LiriSession.Inhibition
open Library Logind

/-- Every held descriptor is tracked under some key, and no other is. -/
def Tracked (state : Inhibition) : Prop := state.m_fds.values.Perm state.logind.inhibitFds

/-- A release of the descriptor is refused, or it removes the entry as well: the
entry is not the one under the empty key. -/
def Releasable (state : Inhibition) (fd : Int) : Prop :=
  state.logind.isConnected = true → fd ∈ state.logind.inhibitFds → state.m_fds.find? "" ≠ some fd

/-- The events that keep the two tables together: a reply whose `who` is no key
yet, and releases that do not meet the empty key. -/
def KeepsTrack (state : Inhibition) : Event → Prop
  | .reply serial (.granted _) =>
    ∀ request, state.inFlight.find? serial = some request → state.m_fds.find? request.who = none
  | .uninhibit fd => state.Releasable fd
  | .unInhibit cookie => ∀ fd, state.saver.m_inhibitFd.find? cookie = some fd → state.Releasable fd
  | .lock _ => state.logind.isConnected = true → state.m_fds.find? "" = none
  | _ => True

structure Successful (state : Inhibition) (events : List Event) : Prop where
  backend : state.backend = .logind
  sound : Sound state
  valid : -1 ∉ state.logind.inhibitFds
  coming : ∀ serial, .reply serial (.granted (-1)) ∉ events

theorem Successful.distinct (state : Inhibition) (events : List Event)
    (successful : Successful state events) : state.logind.inhibitFds.Nodup := by
  apply List.nodup_iff_count_le_one.mpr
  intro fd
  by_cases failed : fd = -1
  · rw [failed,List.count_eq_zero_of_not_mem successful.valid]
    omega
  · exact successful.sound.once fd failed

theorem handleUninhibited_key (map : OrderedMap String Int) (fd : Int) (who : String)
    (found : map.findKey? (fun value => value = fd) = some who) :
    LogindBackend.handleUninhibited map fd = if who = "" then map else map.erase who := by
  simp [LogindBackend.handleUninhibited,found]

theorem handleUninhibited_empty (map : OrderedMap String Int) (fd : Int) :
    (LogindBackend.handleUninhibited map fd).find? "" = map.find? "" := by
  unfold LogindBackend.handleUninhibited
  dsimp only
  split
  next => rfl
  next named => rw [OrderedMap.find?_erase,if_neg (Ne.symm named)]

theorem released_tracked (state : Inhibition) (fd : Int) (tracked : state.Tracked)
    (held : fd ∈ state.logind.inhibitFds) (named : state.m_fds.find? "" ≠ some fd) :
    (state.released fd).Tracked := by
  have stored : fd ∈ state.m_fds.values := tracked.mem_iff.mpr held
  cases found : state.m_fds.findKey? (fun value => value = fd) with
  | none =>
    have absent := (state.m_fds.findKey?_eq_none _).mp found fd stored
    simp at absent
  | some who =>
    obtain ⟨value,entry,same⟩ := state.m_fds.findKey?_spec _ who found
    have value_eq : value = fd := by simpa using same
    subst value_eq
    have apart : who ≠ "" := by
      intro empty
      exact named (empty ▸ entry)
    have removed := state.m_fds.values_erase_present who value entry
    have erased := List.perm_cons_erase held
    unfold Tracked released
    dsimp only
    rw [handleUninhibited_key state.m_fds value who found,if_neg apart]
    exact (removed.symm.trans (tracked.trans erased)).cons_inv

def Stuck (state : Inhibition) (fd : Int) : Prop :=
  state.m_fds.find? "" = some fd ∧ fd ∉ state.logind.inhibitFds

theorem Stuck.untracked (state : Inhibition) (fd : Int) (stuck : state.Stuck fd) :
    ¬state.Tracked := by
  intro tracked
  have stored : fd ∈ state.m_fds.values := (state.m_fds.mem_values fd).mpr ⟨"",stuck.1⟩
  exact stuck.2 (tracked.mem_iff.mp stored)

theorem released_stuck (state : Inhibition) (fd other : Int) (stuck : state.Stuck fd) :
    (state.released other).Stuck fd := by
  refine ⟨(handleUninhibited_empty state.m_fds other).trans stuck.1,?_⟩
  intro member
  exact stuck.2 (List.mem_of_mem_erase member)

theorem uninhibit_stuck (state : Inhibition) (fd other : Int) (stuck : state.Stuck fd) :
    (state.uninhibit other).Stuck fd :=
  uninhibit_keeps (·.Stuck fd) state other (fun _ _ stuck => released_stuck state fd other stuck) stuck

theorem uninhibit_empty_key (state : Inhibition) (fd : Int) (connected : state.logind.isConnected = true)
    (distinct : state.logind.inhibitFds.Nodup) (entry : state.m_fds.find? "" = some fd) :
    (state.uninhibit fd).Stuck fd := by
  rcases uninhibit_cases state fd with ⟨refused,same⟩ | ⟨_,_,same⟩
  · rw [same]
    refine ⟨entry,?_⟩
    rcases refused with disconnected | absent
    · rw [connected] at disconnected
      cases disconnected
    · exact absent
  · rw [same]
    exact ⟨(handleUninhibited_empty state.m_fds fd).trans entry,distinct.not_mem_erase⟩

theorem uninhibit_tracked_iff (state : Inhibition) (fd : Int) (tracked : state.Tracked)
    (distinct : state.logind.inhibitFds.Nodup) :
    state.Releasable fd ↔ (state.uninhibit fd).Tracked := by
  refine ⟨?_,?_⟩
  · intro releasable
    apply uninhibit_keeps Tracked state fd _ tracked
    intro connected held tracked
    exact released_tracked state fd tracked held (releasable connected held)
  · intro still connected _ entry
    exact (uninhibit_empty_key state fd connected distinct entry).untracked _ _ still

theorem uninhibit_connected (state : Inhibition) (fd : Int) :
    (state.uninhibit fd).logind.isConnected = state.logind.isConnected :=
  uninhibit_keeps (·.logind.isConnected = state.logind.isConnected) state fd (fun _ _ same => same) rfl

theorem uninhibit_distinct (state : Inhibition) (fd : Int) (distinct : state.logind.inhibitFds.Nodup) :
    (state.uninhibit fd).logind.inhibitFds.Nodup :=
  uninhibit_keeps (·.logind.inhibitFds.Nodup) state fd (fun _ _ distinct => distinct.erase fd) distinct

theorem uninhibit_entry (state : Inhibition) (fd : Int) :
    (state.uninhibit fd).m_fds.find? "" = state.m_fds.find? "" :=
  uninhibit_keeps (·.m_fds.find? "" = state.m_fds.find? "") state fd
    (fun _ _ _ => handleUninhibited_empty state.m_fds fd) rfl

theorem uninhibits_stuck (fds : List Int) (state : Inhibition) (fd : Int)
    (connected : state.logind.isConnected = true) (distinct : state.logind.inhibitFds.Nodup)
    (entry : state.m_fds.find? "" = some fd) (listed : fd ∈ fds) :
    (fds.foldl uninhibit state).Stuck fd := by
  induction fds generalizing state with
  | nil => cases listed
  | cons first fds ih =>
    rw [List.foldl_cons]
    rcases List.mem_cons.mp listed with same | later
    · rw [← same]
      refine List.foldlRecOn fds uninhibit (motive := fun next => next.Stuck fd)
        (uninhibit_empty_key state fd connected distinct entry) ?_
      intro state stuck other _
      exact uninhibit_stuck state fd other stuck
    · apply ih (state.uninhibit first) _ _ _ later
      · rw [uninhibit_connected,connected]
      · exact uninhibit_distinct state first distinct
      · rw [uninhibit_entry,entry]

theorem releaseEach_tracked_iff (state : Inhibition) (tracked : state.Tracked)
    (distinct : state.logind.inhibitFds.Nodup) :
    (state.logind.isConnected = true → state.m_fds.find? "" = none) ↔ state.releaseEach.Tracked := by
  refine ⟨?_,?_⟩
  · intro named
    have both := releaseEach_keeps
      (fun next => next.Tracked ∧ (next.logind.isConnected = true → next.m_fds.find? "" = none))
      (fun next fd connected held before => by
        have absent := before.2 connected
        refine ⟨released_tracked next fd before.1 held (by simp [absent]),?_⟩
        intro _
        exact (handleUninhibited_empty next.m_fds fd).trans absent)
      state ⟨tracked,named⟩
    exact both.1
  · intro still connected
    cases entry : state.m_fds.find? "" with
    | none => rfl
    | some fd =>
      have listed : fd ∈ state.m_fds.values := (state.m_fds.mem_values fd).mpr ⟨"",entry⟩
      have stuck := uninhibits_stuck state.m_fds.values state fd connected distinct entry listed
      exact absurd still (stuck.untracked _ _)

/-- A granted descriptor is tracked exactly when its name is no key yet: a key
that is there loses the descriptor that it tracked. -/
theorem insert_tracked_iff (map : OrderedMap String Int) (fds : List Int) (who : String) (fd : Int)
    (tracked : map.values.Perm fds) :
    map.find? who = none ↔ (map.insert who fd).values.Perm (fds ++ [fd]) := by
  have appended := List.perm_append_singleton fd fds
  refine ⟨?_,?_⟩
  · intro absent
    exact (map.values_insert_absent who fd absent).trans ((tracked.cons fd).trans appended.symm)
  · intro still
    cases present : map.find? who with
    | none => rfl
    | some old =>
      have kept := (map.values_insert who fd).length_eq
      have dropped := (map.values_erase_present who old present).length_eq
      have grown := still.length_eq
      have same := tracked.length_eq
      simp only [List.length_cons,List.length_append,List.length_nil] at kept dropped grown
      omega

theorem uninhibit_valid (state : Inhibition) (fd : Int) (valid : -1 ∉ state.logind.inhibitFds) :
    -1 ∉ (state.uninhibit fd).logind.inhibitFds :=
  uninhibit_keeps (-1 ∉ ·.logind.inhibitFds) state fd
    (fun _ _ valid member => valid (List.mem_of_mem_erase member)) valid

theorem successful_step (state next : Inhibition) (event : Event) (events : List Event)
    (before : Successful state (event::events))
    (taken : step .releaseEach state event = some next) : Successful next events := by
  have backend := (step_backend .releaseEach state next event taken).trans before.backend
  have sound := sound_step .releaseEach state next event before.sound taken
  have coming : ∀ serial, .reply serial (.granted (-1)) ∉ events :=
    fun serial member => before.coming serial (List.mem_cons_of_mem event member)
  refine ⟨backend,sound,?_,coming⟩
  cases moves_of_step .releaseEach state next event taken with
  | unsent => exact before.valid
  | sent => exact before.valid
  | unbound => exact before.valid
  | bound cookie fd =>
    rw [uninhibitIdle_logind state fd before.backend]
    exact uninhibit_valid state fd before.valid
  | registered lookups => exact state.logind.registered_fds lookups ▸ before.valid
  | unregistered => exact before.valid
  | uninhibit fd => exact uninhibit_valid state fd before.valid
  | error => exact before.valid
  | granted serial request fd =>
    intro member
    rcases List.mem_append.mp member with old | new
    · exact before.valid old
    · exact before.coming serial (by simp [List.mem_singleton.mp new])
  | lock now next backend hears returned =>
    exact handleSessionLocked_keeps (fun next => -1 ∉ next.logind.inhibitFds)
      (fun _ _ _ _ valid member => valid (List.mem_of_mem_erase member)) (fun _ _ valid => valid)
      state next .releaseEach now before.valid returned
  | unlock =>
    exact handleSessionUnlocked_keeps (fun next => -1 ∉ next.logind.inhibitFds)
      (fun _ _ _ _ valid => valid) (fun _ valid => valid) state before.valid

theorem tracked_step_iff (state next : Inhibition) (event : Event) (events : List Event)
    (before : Successful state (event::events)) (tracked : state.Tracked)
    (taken : step .releaseEach state event = some next) :
    KeepsTrack state event ↔ next.Tracked := by
  have distinct := before.distinct state (event::events)
  cases moves_of_step .releaseEach state next event taken with
  | unsent => exact ⟨fun _ => tracked,fun _ => trivial⟩
  | sent => exact ⟨fun _ => tracked,fun _ => trivial⟩
  | unbound cookie unbound =>
    refine ⟨fun _ => tracked,?_⟩
    intro _ fd bound _ held
    have failed : fd = -1 := by simpa [bound] using unbound
    exact absurd (failed ▸ held) before.valid
  | bound cookie fd bound valid =>
    have once : (state.uninhibitIdle fd).Tracked ↔ state.Releasable fd := by
      rw [uninhibitIdle_logind state fd before.backend]
      exact (uninhibit_tracked_iff state fd tracked distinct).symm
    refine ⟨fun keeps => once.mpr (keeps fd bound),?_⟩
    intro still other found
    rw [bound] at found
    cases found
    exact once.mp still
  | registered lookups =>
    refine ⟨fun _ => ?_,fun _ => trivial⟩
    unfold Tracked
    rw [state.logind.registered_fds lookups]
    exact tracked
  | unregistered =>
    refine ⟨fun _ => ?_,fun _ => trivial⟩
    unfold Tracked
    rw [state.logind.unregistered_fds]
    exact tracked
  | uninhibit fd => exact uninhibit_tracked_iff state fd tracked distinct
  | error => exact ⟨fun _ => tracked,fun _ => trivial⟩
  | granted serial request fd log asked backend fresh =>
    have once := insert_tracked_iff state.m_fds state.logind.inhibitFds request.who fd tracked
    refine ⟨fun keeps => once.mp (keeps request asked),?_⟩
    intro still other found
    rw [asked] at found
    cases found
    exact once.mpr still
  | lock now next backend hears returned =>
    rw [← handleSessionLocked_releaseEach state next now returned]
    exact releaseEach_tracked_iff state tracked distinct
  | unlock =>
    have after := handleSessionUnlocked_keeps Tracked (fun _ _ _ _ kept => kept)
      (fun _ kept => kept) state tracked
    exact ⟨fun _ => after,fun _ => trivial⟩

/-- In every run with successful replies, the two tables agree at the end of each
handler exactly when every reply brings a name that is no key yet, and no release
meets the empty key. -/
theorem tracked_iff_keepsTrack (events : List Event)
    (successful : ∀ serial, .reply serial (.granted (-1)) ∉ events) :
    Along (step .releaseEach) Tracked (constructed .logind) events ↔
      Steps (step .releaseEach) KeepsTrack (constructed .logind) events := by
  have initial : Successful (constructed .logind) events :=
    ⟨rfl,sound_constructed .logind,List.not_mem_nil,successful⟩
  have first : (constructed .logind).Tracked := .refl _
  exact along_iff_steps (step .releaseEach) Successful Tracked KeepsTrack
    (fun state event events next => successful_step state next event events)
    (fun state event events next => tracked_step_iff state next event events)
    (constructed .logind) events initial first

def sameName : List Event := [.serviceRegistered graphicalSession,.inhibit "player" "film",
  .inhibit "player" "music",.reply 0 (.granted 5),.reply 1 (.granted 6)]

/-- The second descriptor takes the place of the first, which stays held. -/
theorem same_name_untracked :
    ¬Along (step .releaseEach) Tracked (constructed .logind) sameName := by
  intro along
  have tracked := (along_iff_front (step .releaseEach) Tracked _ sameName).mp along sameName []
    _ (by simp) rfl
  exact absurd tracked.length_eq (by decide)

def otherName : List Event := [.serviceRegistered graphicalSession,.inhibit "player" "film",
  .inhibit "viewer" "slides",.reply 0 (.granted 5),.reply 1 (.granted 6),.unInhibit 0]

theorem other_name_tracked :
    Along (step .releaseEach) Tracked (constructed .logind) otherName := by
  apply (tracked_iff_keepsTrack otherName (by simp [otherName])).mpr
  refine (steps_cons _ _ _ _ _ _ rfl).mpr ⟨trivial,?_⟩
  refine (steps_cons _ _ _ _ _ _ rfl).mpr ⟨trivial,?_⟩
  refine (steps_cons _ _ _ _ _ _ rfl).mpr ⟨trivial,?_⟩
  refine (steps_cons _ _ _ _ _ _ rfl).mpr ⟨?_,?_⟩
  · intro request found
    cases found
    rfl
  · refine (steps_cons _ _ _ _ _ _ rfl).mpr ⟨?_,?_⟩
    · intro request found
      cases found
      rfl
    · refine (steps_cons _ _ _ _ _ _ rfl).mpr ⟨?_,trivial⟩
      intro fd bound connected held named
      cases named

end LiriSession.Inhibition
