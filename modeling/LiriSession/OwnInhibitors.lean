import LiriSession.DescriptorTracking

/-! The three inhibitors of the backend itself, from its construction on: what
is held for each of them after registrations, replies, locks and unlocks. -/
namespace LiriSession.Inhibition
open Library Logind LogindBackend

def isFor (call : Inhibitor) (request : Request) : Bool :=
  request.who = call.who && request.why = call.why

def heldFor (state : Inhibition) (call : Inhibitor) : List Int :=
  state.logind.inhibitFds.filter fun fd => (state.openFds.find? fd).any (isFor call)

def pendingFor (state : Inhibition) (call : Inhibitor) : List Request :=
  state.inFlight.values.filter (isFor call)

/-- Each of the three is held once, or none of them is after a lock. -/
def OwnHeld (state : Inhibition) (locked : Bool) : Prop :=
  ∀ call ∈ inhibitors, (heldFor state call).length = if locked then 0 else 1

def locked (events : List Event) : Bool :=
  events.foldl (fun last event =>
    match event with
    | .lock _ => true
    | .unlock => false
    | _ => last) false

def isUnlock : Event → Bool
  | .unlock => true
  | _ => false

def isLock : Event → Bool
  | .lock _ => true
  | _ => false

def unlocks (events : List Event) : Nat := events.countP isUnlock

/-- How many locks of a run meet a descriptor that is tracked for the inhibitor, and have
their handler return. -/
def lockings (reading : LockReading) (call : Inhibitor) : Inhibition → List Event → Nat
  | _,[] => 0
  | state,event::events =>
    match step reading state event with
    | none => 0
    | some next => (if isLock event && (state.m_fds.find? call.who).isSome then 1 else 0) +
        lockings reading call next events

def OwnEvent : Event → Prop
  | .serviceRegistered _ => True
  | .reply _ (.granted fd) => fd ≠ -1
  | .lock _ => True
  | .unlock => True
  | _ => False

theorem pendingFor_insert (state : Inhibition) (request : Request) (call : Inhibitor)
    (fresh : state.inFlight.find? state.issued = none) :
    ((state.inFlight.insert state.issued request).values.filter (isFor call)).length =
      (pendingFor state call).length + if isFor call request then 1 else 0 := by
  have added := (state.inFlight.values_insert_absent state.issued request fresh).filter (isFor call)
  rw [added.length_eq,List.filter_cons]
  unfold pendingFor
  split <;> simp_all

theorem pendingFor_erase (state : Inhibition) (serial : Nat) (request : Request) (call : Inhibitor)
    (found : state.inFlight.find? serial = some request) :
    ((state.inFlight.erase serial).values.filter (isFor call)).length +
      (if isFor call request then 1 else 0) = (pendingFor state call).length := by
  have removed := (state.inFlight.values_erase_present serial request found).filter (isFor call)
  unfold pendingFor
  rw [removed.length_eq,List.filter_cons]
  split <;> simp_all

theorem heldFor_granted (state : Inhibition) (request : Request) (fd : Int) (call : Inhibitor)
    (sound : Sound state) (valid : fd ≠ -1) (fresh : state.openFds.find? fd = none) :
    ((state.logind.inhibitFds ++ [fd]).filter fun other =>
      ((state.dupped fd request).find? other).any (isFor call)).length =
        (heldFor state call).length + if isFor call request then 1 else 0 := by
  have before : (state.logind.inhibitFds.filter fun other =>
      ((state.dupped fd request).find? other).any (isFor call)) = heldFor state call := by
    apply List.filter_congr
    intro other held
    have apart : other ≠ fd := by
      intro same
      subst same
      obtain ⟨owner,open_⟩ := sound.open_ other held valid
      rw [fresh] at open_
      cases open_
    rw [dupped_old state fd other request apart]
  rw [List.filter_append,List.length_append,before,List.filter_cons,dupped_new state fd request valid]
  simp only [Option.any_some,List.filter_nil]
  split <;> simp_all

def sameTexts (call other : Inhibitor) : Bool := other.who = call.who && other.why = call.why

theorem asks_pending (calls : List Inhibitor) (state : Inhibition) (call : Inhibitor)
    (sound : Sound state) (backend : state.backend = .logind)
    (connected : state.logind.isConnected = true) :
    let next := calls.foldl (logindInhibit · none) state
    (pendingFor next call).length = (pendingFor state call).length + calls.countP (sameTexts call) ∧
      heldFor next call = heldFor state call := by
  induction calls generalizing state with
  | nil => exact ⟨rfl,rfl⟩
  | cons other calls ih =>
    dsimp only [List.foldl_cons]
    rw [logindInhibit_connected state none other connected]
    obtain ⟨pending,held⟩ := ih (state.asking none other) (sound.asking state none other backend)
      backend connected
    have fresh : state.inFlight.find? state.issued = none := by
      cases found : state.inFlight.find? state.issued with
      | none => rfl
      | some request =>
        have before := (sound.flight state.issued request found).2
        omega
    have one : (pendingFor (state.asking none other) call).length =
        (pendingFor state call).length + if sameTexts call other then 1 else 0 :=
      pendingFor_insert state (state.requested none other) call fresh
    refine ⟨?_,held⟩
    rw [pending,one,List.countP_cons]
    omega

theorem setupInhibitors_pending (state : Inhibition) (call : Inhibitor) (own : call ∈ inhibitors)
    (sound : Sound state) (backend : state.backend = .logind)
    (connected : state.logind.isConnected = true) :
    (pendingFor state.setupInhibitors call).length = (pendingFor state call).length + 1 ∧
      heldFor state.setupInhibitors call = heldFor state call := by
  have once : ∀ call ∈ inhibitors, inhibitors.countP (sameTexts call) = 1 := by
    simp only [inhibitors,List.forall_mem_cons]
    exact ⟨by decide,by decide,by decide,by simp⟩
  have asked := asks_pending inhibitors state call sound backend connected
  rw [once call own] at asked
  exact asked

theorem heldFor_emitUnlocked (state : Inhibition) (call : Inhibitor) :
    heldFor state.emitUnlocked call = heldFor state call := rfl

theorem pendingFor_emitUnlocked (state : Inhibition) (call : Inhibitor) :
    pendingFor state.emitUnlocked call = pendingFor state call := rfl

/-- Only the three are asked for and open, and a name is a key only while the
descriptor under it is held for it. -/
structure OwnOnly (state : Inhibition) : Prop where
  flight : ∀ serial request, state.inFlight.find? serial = some request →
    ∃ call ∈ inhibitors, isFor call request = true
  opened : ∀ fd request, state.openFds.find? fd = some request →
    ∃ call ∈ inhibitors, isFor call request = true
  tracked : ∀ who fd, state.m_fds.find? who = some fd →
    fd ∈ state.logind.inhibitFds ∧ ∃ request, state.openFds.find? fd = some request ∧ request.who = who

theorem isFor_iff_who (call : Inhibitor) (request : Request) (own : call ∈ inhibitors)
    (asked : ∃ other ∈ inhibitors, isFor other request = true) :
    isFor call request = true ↔ request.who = call.who := by
  have apart : ∀ call ∈ inhibitors, ∀ other ∈ inhibitors, other.who = call.who →
      other.why = call.why := by
    simp [inhibitors,powerButton,sleep,lid]
  obtain ⟨other,listed,same⟩ := asked
  simp only [isFor,Bool.and_eq_true,decide_eq_true_eq] at same ⊢
  refine ⟨And.left,?_⟩
  intro name
  exact ⟨name,same.2.trans (apart call own other listed (same.1.symm.trans name))⟩

theorem own_named (request : Request) (asked : ∃ call ∈ inhibitors, isFor call request = true) :
    request.who ≠ "" := by
  obtain ⟨call,listed,same⟩ := asked
  have named : ∀ call ∈ inhibitors, call.who ≠ "" := by simp [inhibitors,powerButton,sleep,lid]
  simp only [isFor,Bool.and_eq_true,decide_eq_true_eq] at same
  rw [same.1]
  exact named call listed

theorem OwnOnly.key (state : Inhibition) (who : String) (fd : Int) (own : OwnOnly state)
    (entry : state.m_fds.find? who = some fd) :
    LogindBackend.handleUninhibited state.m_fds fd = state.m_fds.erase who := by
  obtain ⟨_,request,open_,name⟩ := own.tracked who fd entry
  have named : who ≠ "" := name ▸ own_named request (own.opened fd request open_)
  cases found : state.m_fds.findKey? (fun value => value = fd) with
  | none =>
    have absent := (state.m_fds.findKey?_eq_none _).mp found fd ((state.m_fds.mem_values fd).mpr ⟨who,entry⟩)
    simp at absent
  | some key =>
    obtain ⟨value,present,same⟩ := state.m_fds.findKey?_spec _ key found
    have value_eq : value = fd := by simpa using same
    subst value_eq
    obtain ⟨_,other,also,key_name⟩ := own.tracked key value present
    rw [open_] at also
    cases also
    rw [key_name.symm.trans name] at found
    rw [handleUninhibited_key state.m_fds value who found,if_neg named]

theorem OwnOnly.left (state : Inhibition) (fd other : Int) (who : String) (own : OwnOnly state)
    (entry : (LogindBackend.handleUninhibited state.m_fds fd).find? who = some other) :
    other ≠ fd ∧ state.m_fds.find? who = some other := by
  by_cases stored : fd ∈ state.m_fds.values
  · obtain ⟨key,present⟩ := (state.m_fds.mem_values fd).mp stored
    rw [own.key state key fd present] at entry
    obtain ⟨apart,old⟩ := state.m_fds.find?_erase_some key who other entry
    refine ⟨?_,old⟩
    intro same
    subst same
    obtain ⟨_,first,open_,name⟩ := own.tracked who other old
    obtain ⟨_,second,also,key_name⟩ := own.tracked key other present
    rw [open_] at also
    cases also
    exact apart (name.symm.trans key_name)
  · have absent : state.m_fds.findKey? (fun value => value = fd) = none := by
      apply (state.m_fds.findKey?_eq_none _).mpr
      intro value listed
      simp only [decide_eq_false_iff_not]
      exact fun same => stored (same ▸ listed)
    have same : LogindBackend.handleUninhibited state.m_fds fd = state.m_fds := by
      simp [LogindBackend.handleUninhibited,absent]
    rw [same] at entry
    refine ⟨?_,entry⟩
    intro number
    exact stored (number ▸ (state.m_fds.mem_values other).mpr ⟨who,entry⟩)

theorem OwnOnly.released (state : Inhibition) (fd : Int) (own : OwnOnly state) :
    OwnOnly (state.released fd) := by
  refine ⟨own.flight,?_,?_⟩
  · intro other request found
    exact own.opened other request (released_open_some state fd other request found).2
  · intro who other entry
    obtain ⟨apart,old⟩ := own.left state fd other who entry
    obtain ⟨held,request,open_,name⟩ := own.tracked who other old
    exact ⟨(List.mem_erase_of_ne apart).mpr held,request,
      (released_open state fd other apart).trans open_,name⟩

theorem heldFor_released (state : Inhibition) (fd : Int) (request : Request) (call : Inhibitor)
    (sound : Sound state) (held : fd ∈ state.logind.inhibitFds)
    (open_ : state.openFds.find? fd = some request) :
    (heldFor (state.released fd) call).length + (if isFor call request then 1 else 0) =
      (heldFor state call).length := by
  have valid := sound.valid fd request open_
  have others : heldFor (state.released fd) call = (state.logind.inhibitFds.erase fd).filter
      fun other => (state.openFds.find? other).any (isFor call) := by
    apply List.filter_congr
    intro other member
    by_cases same : other = fd
    · exact absurd same (sound.apart state fd other member (same ▸ valid))
    · rw [released_open state fd other same]
  have split := ((List.perm_cons_erase held).filter
    fun other => (state.openFds.find? other).any (isFor call)).length_eq
  rw [List.filter_cons,open_,Option.any_some] at split
  rw [others]
  unfold heldFor
  rw [split]
  split <;> simp_all

/-- Releasing every entry takes one descriptor from each inhibitor that has one
tracked. The induction is on the entries, which are released from the first on. -/
theorem heldFor_releaseEach (entries : List (String × Int)) (state : Inhibition) (call : Inhibitor)
    (listed : call ∈ inhibitors) (sound : Sound state) (own : OwnOnly state)
    (connected : state.logind.isConnected = true) (all : state.m_fds.entries = entries) :
    (heldFor ((entries.map Prod.snd).foldl uninhibit state) call).length +
      (if (state.m_fds.find? call.who).isSome then 1 else 0) = (heldFor state call).length := by
  induction entries generalizing state with
  | nil =>
    have empty : state.m_fds = .empty := OrderedMap.ext all
    simp [empty]
  | cons entry entries ih =>
    obtain ⟨who,fd⟩ := entry
    have present : state.m_fds.find? who = some fd :=
      (state.m_fds.find?_eq_some who fd).mpr (by simp [all])
    obtain ⟨held,request,open_,name⟩ := own.tracked who fd present
    have erased : (state.released fd).m_fds = state.m_fds.erase who := own.key state who fd present
    have rest := ih (state.released fd) (sound.released state fd) (own.released state fd) connected
      (by rw [erased]; exact state.m_fds.erase_first _ _ all)
    have one := heldFor_released state fd request call sound held open_
    have its := isFor_iff_who call request listed (own.opened fd request open_)
    rw [erased,OrderedMap.find?_erase] at rest
    rw [List.map_cons,List.foldl_cons,uninhibit_held state fd connected held]
    by_cases same : call.who = who
    · rw [if_pos (its.mpr (name.trans same.symm))] at one
      rw [same,present]
      rw [if_pos same] at rest
      simp only [Option.isSome_none,Option.isSome_some,Bool.false_eq_true,if_false,if_true] at rest ⊢
      omega
    · rw [if_neg (fun mine => same ((its.mp mine).symm.trans name))] at one
      rw [if_neg same] at rest
      omega

theorem heldFor_locked (reading : LockReading) (state next : Inhibition) (now : Nat) (call : Inhibitor)
    (listed : call ∈ inhibitors) (sound : Sound state) (own : OwnOnly state)
    (connected : state.logind.isConnected = true)
    (returned : state.handleSessionLocked reading now = some next) :
    (heldFor next call).length + (if (state.m_fds.find? call.who).isSome then 1 else 0) =
      (heldFor state call).length := by
  cases reading with
  | asWritten turns =>
    obtain ⟨empty,same⟩ := (handleSessionLocked_asWritten state next turns now).mp returned
    subst same
    simp only [empty,OrderedMap.find?_empty,Option.isSome_none,Bool.false_eq_true,if_false]
    rfl
  | releaseEach =>
    rw [← handleSessionLocked_releaseEach state next now returned]
    exact heldFor_releaseEach state.m_fds.entries state call listed sound own connected rfl

theorem pendingFor_locked (reading : LockReading) (state next : Inhibition) (now : Nat)
    (call : Inhibitor) (returned : state.handleSessionLocked reading now = some next) :
    pendingFor next call = pendingFor state call :=
  handleSessionLocked_keeps (fun next => pendingFor next call = pendingFor state call)
    (fun _ _ _ _ same => same) (fun _ _ same => same) state next reading now rfl returned

theorem OwnOnly.asking (state : Inhibition) (call : Inhibitor) (listed : call ∈ inhibitors)
    (own : OwnOnly state) : OwnOnly (state.asking none call) := by
  refine { own with flight := ?_ }
  intro serial request found
  rcases state.inFlight.find?_insert_some _ serial _ request found with ⟨_,new⟩ | ⟨_,old⟩
  · refine ⟨call,listed,?_⟩
    rw [new]
    simp [isFor,requested]
  · exact own.flight serial request old

theorem OwnOnly.grant (state : Inhibition) (serial : Nat) (request : Request) (fd : Int) (log : List Output)
    (own : OwnOnly state) (found : state.inFlight.find? serial = some request) (valid : fd ≠ -1)
    (fresh : fd = -1 ∨ 0 ≤ fd ∧ state.openFds.find? fd = none) : OwnOnly { state with
      inFlight := state.inFlight.erase serial
      openFds := state.dupped fd request
      logind := { state.logind with inhibitFds := state.logind.inhibitFds ++ [fd] }
      m_fds := state.m_fds.insert request.who fd
      saver := state.saver.handleInhibited request.who request.why fd
      log := log } := by
  refine ⟨?_,?_,?_⟩
  · intro number other present
    exact own.flight number other (state.inFlight.find?_erase_some serial number other present).2
  · intro number other present
    rcases dupped_some state fd number request other present with ⟨_,_,same⟩ | old
    · exact same ▸ own.flight serial request found
    · exact own.opened number other old
  · intro who number entry
    rcases state.m_fds.find?_insert_some _ who _ number entry with ⟨name,same⟩ | ⟨_,old⟩
    · rw [same]
      exact ⟨by simp,request,dupped_new state fd request valid,name.symm⟩
    · obtain ⟨held,other,open_,name⟩ := own.tracked who number old
      exact ⟨List.mem_append_left _ held,other,dupped_kept state fd number request other fresh open_,name⟩

/-- What a run of own events keeps: each unlock so far has asked for each of the
three once, and what has been asked for is pending, held, or was released by a lock. -/
structure Counted (reading : LockReading) (total : Nat) (gone : Inhibitor → Nat) (state : Inhibition)
    (events : List Event) : Prop where
  backend : state.backend = .logind
  sound : Sound state
  own : OwnOnly state
  linked : ∀ member, state.hears member = true → state.logind.isConnected = true
  coming : ∀ event ∈ events, OwnEvent event
  count : ∀ call ∈ inhibitors, (heldFor state call).length + (pendingFor state call).length +
    gone call + unlocks events = total + lockings reading call state events

theorem registered_linked (logind : LogindPrivate) (lookups : Lookups) (member : String)
    (linked : (logind.subscriptions.any fun hook => hook.member = member) = true →
      logind.isConnected = true) :
    ((logind._q_serviceRegistered lookups).1.subscriptions.any fun hook => hook.member = member) = true →
      (logind._q_serviceRegistered lookups).1.isConnected = true := by
  rcases logind.registered_cases lookups with ⟨_,same⟩ | ⟨_,same⟩ | ⟨_,path,_,_,_,same⟩
  · rw [same]
    exact linked
  · rw [same]
    exact linked
  · rw [same]
    exact fun _ => rfl

theorem unlocks_cons (event : Event) (events : List Event) :
    unlocks (event::events) = unlocks events + if isUnlock event then 1 else 0 := List.countP_cons

theorem lockings_cons (reading : LockReading) (call : Inhibitor) (state next : Inhibition) (event : Event)
    (events : List Event) (taken : step reading state event = some next) :
    lockings reading call state (event::events) =
      (if isLock event && (state.m_fds.find? call.who).isSome then 1 else 0) +
        lockings reading call next events := by
  rw [lockings,taken]

/-- The handler as written never returns from a lock that meets a tracked descriptor. -/
theorem lockings_asWritten (turns : Nat) (call : Inhibitor) (events : List Event) (state final : Inhibition)
    (ran : run (step (.asWritten turns)) state events = some final) :
    lockings (.asWritten turns) call state events = 0 := by
  induction events generalizing state with
  | nil => rfl
  | cons event events ih =>
    obtain ⟨next,taken,rest⟩ := run_cons_some (step (.asWritten turns)) state final event events ran
    rw [lockings_cons (.asWritten turns) call state next event events taken,ih next rest]
    cases moves_of_step (.asWritten turns) state next event taken with
    | lock now next backend hears returned =>
      have empty := ((handleSessionLocked_asWritten state next turns now).mp returned).1
      simp [empty]
    | unsent => rfl
    | sent => rfl
    | unbound => rfl
    | bound => rfl
    | registered => rfl
    | unregistered => rfl
    | uninhibit => rfl
    | error => rfl
    | granted => rfl
    | unlock => rfl

theorem ownOnly_step (reading : LockReading) (state next : Inhibition) (event : Event) (own : OwnOnly state)
    (mine : OwnEvent event) (taken : step reading state event = some next) : OwnOnly next := by
  cases moves_of_step reading state next event taken with
  | unsent => exact mine.elim
  | sent => exact mine.elim
  | unbound => exact mine.elim
  | bound => exact mine.elim
  | registered lookups =>
    have same := state.logind.registered_fds lookups
    exact { own with tracked := same ▸ own.tracked }
  | unregistered => exact mine.elim
  | uninhibit => exact mine.elim
  | error => exact mine.elim
  | granted serial request fd log found backend fresh =>
    exact own.grant state serial request fd log found mine fresh
  | lock now next backend hears returned =>
    exact handleSessionLocked_keeps OwnOnly (fun state fd _ _ own => own.released state fd)
      (fun _ _ own => { own with }) state next reading now own returned
  | unlock =>
    exact handleSessionUnlocked_keeps OwnOnly (fun state call listed _ own => own.asking state call listed)
      (fun _ own => { own with }) state own

theorem linked_step (reading : LockReading) (state next : Inhibition) (event : Event)
    (linked : ∀ member, state.hears member = true → state.logind.isConnected = true)
    (mine : OwnEvent event) (taken : step reading state event = some next) :
    ∀ member, next.hears member = true → next.logind.isConnected = true := by
  cases moves_of_step reading state next event taken with
  | unsent => exact mine.elim
  | sent => exact mine.elim
  | unbound => exact mine.elim
  | bound => exact mine.elim
  | registered lookups => exact fun member => registered_linked state.logind lookups member (linked member)
  | unregistered => exact mine.elim
  | uninhibit => exact mine.elim
  | error => exact mine.elim
  | granted => exact linked
  | lock now next backend hears returned =>
    have connected := handleSessionLocked_keeps (·.logind.isConnected = true) (fun _ _ _ _ kept => kept)
      (fun _ _ kept => kept) state next reading now (linked "Lock" hears) returned
    exact fun _ _ => connected
  | unlock backend hears =>
    have connected := handleSessionUnlocked_keeps (·.logind.isConnected = true)
      (fun _ _ _ _ kept => kept) (fun _ kept => kept) state (linked "Unlock" hears)
    exact fun _ _ => connected

theorem counted_step (reading : LockReading) (total : Nat) (gone : Inhibitor → Nat)
    (state next : Inhibition) (event : Event) (events : List Event)
    (before : Counted reading total gone state (event::events))
    (taken : step reading state event = some next) : Counted reading total gone next events := by
  have mine := before.coming event (List.mem_cons_self ..)
  refine ⟨(step_backend reading state next event taken).trans before.backend,
    sound_step reading state next event before.sound taken,
    ownOnly_step reading state next event before.own mine taken,
    linked_step reading state next event before.linked mine taken,
    fun other member => before.coming other (List.mem_cons_of_mem event member),?_⟩
  intro call listed
  have count := before.count call listed
  rw [unlocks_cons,lockings_cons reading call state next event events taken] at count
  cases moves_of_step reading state next event taken with
  | unsent => exact mine.elim
  | sent => exact mine.elim
  | unbound => exact mine.elim
  | bound => exact mine.elim
  | registered lookups log =>
    have same := state.logind.registered_fds lookups
    simp only [isUnlock,isLock,Bool.false_and,Bool.false_eq_true,if_false] at count
    unfold heldFor pendingFor at count ⊢
    dsimp only at count ⊢
    rw [same]
    omega
  | unregistered => exact mine.elim
  | uninhibit => exact mine.elim
  | error => exact mine.elim
  | granted serial request fd log found backend fresh =>
    have held := heldFor_granted state request fd call before.sound mine (fresh.resolve_left mine).2
    have pending := pendingFor_erase state serial request call found
    simp only [isUnlock,isLock,Bool.false_and,Bool.false_eq_true,if_false] at count
    unfold heldFor at held count ⊢
    unfold pendingFor at pending count ⊢
    dsimp only
    omega
  | lock now next backend hears returned =>
    have held := heldFor_locked reading state next now call listed before.sound before.own
      (before.linked "Lock" hears) returned
    rw [pendingFor_locked reading state next now call returned]
    simp only [isUnlock,isLock,Bool.true_and,Bool.false_eq_true,if_false] at count
    omega
  | unlock backend hears =>
    obtain ⟨pending,held⟩ := setupInhibitors_pending state call listed before.sound backend
      (before.linked "Unlock" hears)
    simp only [isUnlock,isLock,Bool.false_and,Bool.false_eq_true,if_false,if_true] at count
    have held_after := heldFor_emitUnlocked state.setupInhibitors call
    have pending_after := pendingFor_emitUnlocked state.setupInhibitors call
    unfold handleSessionUnlocked at count ⊢
    rw [held_after,pending_after,held,pending]
    omega

theorem ownOnly_constructed : OwnOnly (constructed .logind) := by
  rw [constructed_logind]
  exact ⟨by simp,by simp,by simp⟩

/-- With nothing in flight, an inhibitor is held once for each unlock, less the
locks that met it tracked. -/
theorem heldFor_idle (reading : LockReading) (events : List Event) (state : Inhibition)
    (own : ∀ event ∈ events, OwnEvent event)
    (ran : run (step reading) (constructed .logind) events = some state)
    (idle : state.inFlight = .empty) (call : Inhibitor) (listed : call ∈ inhibitors) :
    (heldFor state call).length + lockings reading call (constructed .logind) events = unlocks events := by
  have initial : Counted reading (unlocks events)
      (fun call => lockings reading call (constructed .logind) events) (constructed .logind) events := by
    refine ⟨rfl,sound_constructed .logind,ownOnly_constructed,?_,own,?_⟩
    · intro member hears
      cases hears
    · intro call _
      have none_held : heldFor (constructed .logind) call = [] := rfl
      have none_pending : pendingFor (constructed .logind) call = [] := rfl
      rw [none_held,none_pending]
      simp only [List.length_nil]
      omega
  have counted := run_invariant (step reading)
    (Counted reading (unlocks events) (fun call => lockings reading call (constructed .logind) events))
    (fun state event rest next => counted_step reading _ _ state next event rest)
    (constructed .logind) state events initial ran
  have count := counted.count call listed
  have none_pending : pendingFor state call = [] := by simp [pendingFor,idle]
  rw [none_pending] at count
  simpa [unlocks,lockings] using count

/-- However the lock handler is read, at the end of every run of own events that
leaves nothing in flight the three inhibitors are as they are to be exactly when
the unlocks are as many as the locks that met the inhibitor tracked, and one more
if the last lock event was not a lock. -/
theorem ownHeld_iff (reading : LockReading) (events : List Event) (state : Inhibition)
    (own : ∀ event ∈ events, OwnEvent event)
    (ran : run (step reading) (constructed .logind) events = some state)
    (idle : state.inFlight = .empty) :
    OwnHeld state (locked events) ↔ ∀ call ∈ inhibitors,
      unlocks events = lockings reading call (constructed .logind) events +
        if locked events then 0 else 1 := by
  apply forall_congr'
  intro call
  apply forall_congr'
  intro listed
  have held := heldFor_idle reading events state own ran idle call listed
  omega

theorem none_held_after_start_up : ∃ state,
    run (step (.asWritten 0)) (constructed .logind) [.serviceRegistered graphicalSession] = some state ∧
      state.logind.isConnected = true ∧ state.inFlight = .empty ∧
        ¬OwnHeld state (locked [.serviceRegistered graphicalSession]) := by
  refine ⟨_,rfl,rfl,rfl,?_⟩
  intro held
  exact absurd (held powerButton (by simp [inhibitors])) (by decide)

def lockCycle : List Event := [.serviceRegistered graphicalSession,.unlock,.reply 0 (.granted 5),
  .reply 1 (.granted 6),.reply 2 (.granted 7),.lock 0,.unlock,.reply 3 (.granted 5),
  .reply 4 (.granted 6),.reply 5 (.granted 7)]

/-- A lock that finds nothing tracked, which the handler as written returns from. -/
def lateUnlock : List Event := [.serviceRegistered graphicalSession,.lock 0,.unlock,
  .reply 0 (.granted 5),.reply 1 (.granted 6),.reply 2 (.granted 7)]

theorem held_after_lock_cycle :
    (∃ state, run (step .releaseEach) (constructed .logind) lockCycle = some state ∧
      OwnHeld state (locked lockCycle)) ∧
    ∃ state, run (step (.asWritten 9)) (constructed .logind) lateUnlock = some state ∧
      OwnHeld state (locked lateUnlock) := by
  refine ⟨⟨_,rfl,?_⟩,_,rfl,?_⟩
  · exact (ownHeld_iff .releaseEach lockCycle _ (by simp [lockCycle,OwnEvent]) rfl rfl).mpr (by decide)
  · exact (ownHeld_iff (.asWritten 9) lateUnlock _ (by simp [lateUnlock,OwnEvent]) rfl rfl).mpr
      (by decide)

end LiriSession.Inhibition
