import LiriSession.LockLoop

/-! What every step keeps, in every connection state and with either reading of
the lock handler: requests are numbered, and a number is held at most once and
only while it is open. -/
namespace LiriSession.Inhibition
open Library Logind

/-- The tables agree on what has been asked for and what is open. A failed `dup`
leaves -1 in `inhibitFds`, which is no descriptor. -/
structure Sound (state : Inhibition) : Prop where
  once : ∀ fd, fd ≠ -1 → state.logind.inhibitFds.count fd ≤ 1
  open_ : ∀ fd ∈ state.logind.inhibitFds, fd ≠ -1 → ∃ request, state.openFds.find? fd = some request
  flight : ∀ serial request, state.inFlight.find? serial = some request →
    request.serial = serial ∧ serial < state.issued
  granted : ∀ fd request, state.openFds.find? fd = some request →
    request.serial < state.issued ∧ state.inFlight.find? request.serial = none
  valid : ∀ fd request, state.openFds.find? fd = some request → fd ≠ -1
  asked : ∀ cookie serial, state.asked.find? cookie = some (some serial) → serial < state.issued
  fake : state.backend = .fake → state.inFlight = .empty

theorem Sound.emitLocked (state : Inhibition) (now : Nat) (sound : Sound state) :
    Sound (state.emitLocked now) :=
  { sound with }

theorem Sound.emitUnlocked (state : Inhibition) (sound : Sound state) : Sound state.emitUnlocked :=
  { sound with }

theorem Sound.apart (state : Inhibition) (fd other : Int) (sound : Sound state)
    (held : other ∈ state.logind.inhibitFds.erase fd) (valid : other ≠ -1) : other ≠ fd := by
  intro same
  subst same
  have positive := List.count_pos_iff.mpr held
  have single := sound.once other valid
  rw [List.count_erase_self] at positive
  omega

theorem released_open (state : Inhibition) (fd other : Int) (apart : other ≠ fd) :
    (state.released fd).openFds.find? other = state.openFds.find? other := by
  change (state.openFds.erase fd).find? other = _
  rw [OrderedMap.find?_erase,if_neg apart]

theorem released_open_some (state : Inhibition) (fd other : Int) (request : Request)
    (found : (state.released fd).openFds.find? other = some request) :
    other ≠ fd ∧ state.openFds.find? other = some request :=
  state.openFds.find?_erase_some fd other request found

theorem Sound.released (state : Inhibition) (fd : Int) (sound : Sound state) :
    Sound (state.released fd) := by
  have fewer : (state.logind.inhibitFds.erase fd).Sublist state.logind.inhibitFds := List.erase_sublist
  refine { sound with once := ?_, open_ := ?_, granted := ?_, valid := ?_ }
  · intro other valid
    exact (fewer.count_le other).trans (sound.once other valid)
  · intro other held valid
    rw [released_open state fd other (sound.apart state fd other held valid)]
    exact sound.open_ other (List.mem_of_mem_erase held) valid
  · intro other request found
    exact sound.granted other request (released_open_some state fd other request found).2
  · intro other request found
    exact sound.valid other request (released_open_some state fd other request found).2

theorem uninhibitIdle_frame (state : Inhibition) (fd : Int) : (state.uninhibitIdle fd).backend = state.backend ∧
    (state.uninhibitIdle fd).inFlight = state.inFlight ∧ (state.uninhibitIdle fd).asked = state.asked ∧
    ∀ other, other ≠ fd → (state.uninhibitIdle fd).openFds.find? other = state.openFds.find? other := by
  refine uninhibitIdle_keeps (fun next => next.backend = state.backend ∧
    next.inFlight = state.inFlight ∧ next.asked = state.asked ∧
    ∀ other, other ≠ fd → next.openFds.find? other = state.openFds.find? other) state fd ?_
    ⟨rfl,rfl,rfl,fun _ _ => rfl⟩
  intro _ _ _ _
  exact ⟨rfl,rfl,rfl,released_open state fd⟩

theorem Sound.uninhibitIdle (state : Inhibition) (fd : Int) (sound : Sound state) :
    Sound (state.uninhibitIdle fd) :=
  uninhibitIdle_keeps Sound state fd (fun _ _ _ sound => sound.released state fd) sound

theorem Sound.asking (state : Inhibition) (cookie : Option Nat) (call : LogindBackend.Inhibitor)
    (backend : state.backend = .logind) (sound : Sound state) : Sound (state.asking cookie call) := by
  refine { sound with flight := ?_, granted := ?_, asked := ?_, fake := ?_ }
  · intro serial request found
    change _ ∧ serial < state.issued + 1
    rcases state.inFlight.find?_insert_some _ serial _ request found with ⟨same,new⟩ | ⟨_,old⟩
    · rw [new]
      exact ⟨same.symm,by omega⟩
    · obtain ⟨numbered,before⟩ := sound.flight serial request old
      exact ⟨numbered,by omega⟩
  · intro fd request found
    obtain ⟨before,answered⟩ := sound.granted fd request found
    change request.serial < state.issued + 1 ∧
      (state.inFlight.insert state.issued (state.requested cookie call)).find? request.serial = none
    rw [OrderedMap.find?_insert,if_neg (by omega)]
    exact ⟨by omega,answered⟩
  · intro other serial found
    have before := sound.asked other serial found
    change serial < state.issued + 1
    omega
  · intro fake
    rw [show state.backend = .fake from fake] at backend
    cases backend

theorem dupped_some (state : Inhibition) (fd other : Int) (request found : Request)
    (present : (state.dupped fd request).find? other = some found) :
    other = fd ∧ fd ≠ -1 ∧ found = request ∨ state.openFds.find? other = some found := by
  unfold dupped at present
  split at present
  · exact .inr present
  · rcases state.openFds.find?_insert_some fd other request found present with ⟨same,new⟩ | ⟨_,old⟩
    · exact .inl ⟨same,by assumption,new⟩
    · exact .inr old

theorem dupped_old (state : Inhibition) (fd other : Int) (request : Request) (apart : other ≠ fd) :
    (state.dupped fd request).find? other = state.openFds.find? other := by
  unfold dupped
  split
  · rfl
  · rw [OrderedMap.find?_insert,if_neg apart]

/-- A number that is not open takes nothing from those that are. -/
theorem dupped_kept (state : Inhibition) (fd other : Int) (request owner : Request)
    (fresh : fd = -1 ∨ 0 ≤ fd ∧ state.openFds.find? fd = none)
    (open_ : state.openFds.find? other = some owner) :
    (state.dupped fd request).find? other = some owner := by
  by_cases failed : fd = -1
  · unfold dupped
    rw [if_pos failed,open_]
  · have apart : other ≠ fd := by
      intro same
      rw [same,(fresh.resolve_left failed).2] at open_
      cases open_
    rw [dupped_old state fd other request apart,open_]

theorem dupped_new (state : Inhibition) (fd : Int) (request : Request) (valid : fd ≠ -1) :
    (state.dupped fd request).find? fd = some request := by
  unfold dupped
  rw [if_neg valid,OrderedMap.find?_insert_self]

theorem Sound.grant (state next : Inhibition) (serial : Nat) (request : Request) (fd : Int)
    (sound : Sound state) (found : state.inFlight.find? serial = some request)
    (fresh : fd = -1 ∨ 0 ≤ fd ∧ state.openFds.find? fd = none)
    (flight : next.inFlight = state.inFlight.erase serial) (opened : next.openFds = state.dupped fd request)
    (held : next.logind.inhibitFds = state.logind.inhibitFds ++ [fd])
    (issued : next.issued = state.issued) (asked : next.asked = state.asked)
    (backend : next.backend = state.backend) : Sound next := by
  refine ⟨?_,?_,?_,?_,?_,?_,?_⟩
  · intro other valid
    rw [held,List.count_append,List.count_singleton]
    have before := sound.once other valid
    by_cases same : fd = other
    · have new : other ∉ state.logind.inhibitFds := by
        intro member
        obtain ⟨old,open_⟩ := sound.open_ other member valid
        have closed := (fresh.resolve_left (fun failed => valid (same ▸ failed))).2
        rw [same,open_] at closed
        cases closed
      rw [List.count_eq_zero_of_not_mem new]
      split <;> omega
    · simp [same,before]
  · intro other member valid
    rw [held,List.mem_append,List.mem_singleton] at member
    rw [opened]
    by_cases same : other = fd
    · subst same
      exact ⟨request,dupped_new state other request valid⟩
    · rw [dupped_old state fd other request same]
      exact sound.open_ other (member.resolve_right same) valid
  · intro number other present
    rw [flight] at present
    rw [issued]
    exact sound.flight number other (state.inFlight.find?_erase_some serial number other present).2
  · intro number other present
    rw [opened] at present
    rw [issued,flight,OrderedMap.find?_erase]
    rcases dupped_some state fd number request other present with ⟨_,_,same⟩ | old
    · subst same
      obtain ⟨numbered,before⟩ := sound.flight serial other found
      rw [numbered,if_pos rfl]
      exact ⟨before,rfl⟩
    · obtain ⟨before,answered⟩ := sound.granted number other old
      refine ⟨before,?_⟩
      split
      · rfl
      · exact answered
  · intro number other present
    rw [opened] at present
    rcases dupped_some state fd number request other present with ⟨same,valid,_⟩ | old
    · exact same ▸ valid
    · exact sound.valid number other old
  · rw [asked,issued]
    exact sound.asked
  · intro fake
    rw [flight,sound.fake (backend.symm.trans fake)]
    rfl

theorem sound_step (reading : LockReading) (state next : Inhibition) (event : Event)
    (sound : Sound state) (taken : step reading state event = some next) : Sound next := by
  cases moves_of_step reading state next event taken with
  | unsent appName reason =>
    refine { sound with asked := ?_ }
    intro cookie serial found
    rcases state.asked.find?_insert_some _ cookie none _ found with ⟨_,new⟩ | ⟨_,old⟩
    · cases new
    · exact sound.asked cookie serial old
  | sent appName reason log backend connected =>
    have after := sound.asking state (some state.saver.cookieSeed) (idle appName reason) backend
    refine { after with asked := ?_ }
    intro cookie serial found
    change serial < state.issued + 1
    rcases state.asked.find?_insert_some _ cookie _ _ found with ⟨_,new⟩ | ⟨_,old⟩
    · cases new
      omega
    · have before := sound.asked cookie serial old
      omega
  | unbound => exact { sound with }
  | bound cookie fd =>
    exact { sound.uninhibitIdle state fd with }
  | registered lookups =>
    have same := state.logind.registered_fds lookups
    exact { sound with once := same ▸ sound.once, open_ := same ▸ sound.open_ }
  | unregistered => exact { sound with }
  | uninhibit fd backend =>
    rw [← uninhibitIdle_logind state fd backend]
    exact sound.uninhibitIdle state fd
  | error serial request found =>
    refine { sound with flight := ?_, granted := ?_, fake := ?_ }
    · intro number other present
      exact sound.flight number other (state.inFlight.find?_erase_some serial number other present).2
    · intro fd other present
      obtain ⟨before,answered⟩ := sound.granted fd other present
      refine ⟨before,?_⟩
      change (state.inFlight.erase serial).find? other.serial = none
      rw [OrderedMap.find?_erase]
      split
      · rfl
      · exact answered
    · intro fake
      rw [sound.fake fake] at found
      cases found
  | granted serial request fd log found backend fresh =>
    exact sound.grant state _ serial request fd found fresh rfl rfl rfl rfl rfl rfl
  | lock now next backend hears returned =>
    exact handleSessionLocked_keeps Sound (fun state fd _ _ before => before.released state fd)
      (fun state now before => before.emitLocked state now) state next reading now sound returned
  | unlock backend =>
    have both := handleSessionUnlocked_keeps (fun next => next.backend = .logind ∧ Sound next)
      (fun state call _ _ before => ⟨before.1,before.2.asking state none call before.1⟩)
      (fun state before => ⟨before.1,before.2.emitUnlocked state⟩) state ⟨backend,sound⟩
    exact both.2

theorem sound_constructed (backend : SessionBackend) : Sound (constructed backend) := by
  cases backend with
  | logind =>
    rw [constructed_logind]
    exact ⟨by simp,by simp,by simp,by simp,by simp,by simp,fun _ => rfl⟩
  | fake => exact ⟨by simp [constructed],by simp [constructed],by simp [constructed],
      by simp [constructed],by simp [constructed],by simp [constructed],fun _ => rfl⟩

theorem step_backend (reading : LockReading) (state next : Inhibition) (event : Event)
    (taken : step reading state event = some next) : next.backend = state.backend := by
  have idle (fd : Int) := (uninhibitIdle_frame state fd).1
  cases moves_of_step reading state next event taken with
  | unsent => rfl
  | sent => rfl
  | unbound => rfl
  | bound cookie fd => exact idle fd
  | registered => rfl
  | unregistered => rfl
  | uninhibit fd backend => rw [← uninhibitIdle_logind state fd backend,idle]
  | error => rfl
  | granted => rfl
  | lock now next backend hears returned =>
    exact handleSessionLocked_keeps (·.backend = state.backend) (fun _ _ _ _ same => same)
      (fun _ _ same => same) state next reading now rfl returned
  | unlock =>
    exact handleSessionUnlocked_keeps (·.backend = state.backend) (fun _ _ _ _ same => same)
      (fun _ same => same) state rfl

/-- A cookie that a client has not given back has its entry. -/
def LiveKept (state : Inhibition) : Prop :=
  ∀ cookie ∈ state.live, ∃ entry, state.saver.m_inhibit.find? cookie = some entry

theorem liveKept_constructed (backend : SessionBackend) : LiveKept (constructed backend) := by
  cases backend with
  | logind =>
    rw [constructed_logind]
    simp [LiveKept]
  | fake => simp [LiveKept,constructed]

theorem addEntry_kept (state : Inhibition) (appName reason : String) (kept : LiveKept state)
    (cookie : Nat) (listed : cookie ∈ state.live ++ [state.saver.cookieSeed]) :
    ∃ entry, (state.saver.addEntry appName reason).m_inhibit.find? cookie = some entry := by
  change ∃ entry, (state.saver.m_inhibit.insert state.saver.cookieSeed ⟨appName,reason⟩).find? cookie =
    some entry
  rw [OrderedMap.find?_insert]
  split
  · exact ⟨_,rfl⟩
  next apart =>
    have old : cookie ∈ state.live := by simpa [apart] using listed
    exact kept cookie old

theorem liveKept_step (reading : LockReading) (state next : Inhibition) (event : Event)
    (kept : LiveKept state) (taken : step reading state event = some next) : LiveKept next := by
  cases moves_of_step reading state next event taken with
  | unsent appName reason => exact addEntry_kept state appName reason kept
  | sent appName reason => exact addEntry_kept state appName reason kept
  | unbound cookie =>
    intro other member
    exact kept other (List.mem_filter.mp member).1
  | bound cookie fd =>
    intro other member
    obtain ⟨listed,apart⟩ := List.mem_filter.mp member
    rw [uninhibitIdle_live] at listed
    obtain ⟨entry,present⟩ := kept other listed
    refine ⟨entry,?_⟩
    change ((state.uninhibitIdle fd).saver.m_inhibit.erase cookie).find? other = _
    rw [uninhibitIdle_saver,OrderedMap.find?_erase,if_neg (by simpa using apart),present]
  | registered => exact kept
  | unregistered => exact kept
  | uninhibit fd backend =>
    unfold LiveKept
    rw [← uninhibitIdle_logind state fd backend,uninhibitIdle_live,uninhibitIdle_saver]
    exact kept
  | error => exact kept
  | granted serial request fd =>
    intro cookie listed
    change ∃ entry, (state.saver.handleInhibited request.who request.why fd).m_inhibit.find? cookie = _
    rw [state.saver.handleInhibited_entries]
    exact kept cookie listed
  | lock now next backend hears returned =>
    exact handleSessionLocked_keeps LiveKept (fun _ _ _ _ kept => kept) (fun _ _ kept => kept)
      state next reading now kept returned
  | unlock =>
    exact handleSessionUnlocked_keeps LiveKept (fun _ _ _ _ kept => kept) (fun _ kept => kept) state kept

def ownTexts : List InhibitEntry :=
  LogindBackend.inhibitors.map fun call => ⟨call.who,call.why⟩

theorem ownTexts_mem (call : LogindBackend.Inhibitor) (own : call ∈ LogindBackend.inhibitors) :
    ⟨call.who,call.why⟩ ∈ ownTexts := List.mem_map_of_mem own

end LiriSession.Inhibition
