import LiriSession.Descriptors

/-! Which descriptors `UnInhibit` closes, along runs in which every client asks
with texts of its own and the lock handler releases each entry once. -/
namespace LiriSession.Inhibition
open Library Logind

def Closes (state : Inhibition) (cookie : Nat) (fd : Int) : Prop :=
  .logind (.close fd) ∈ (state.unInhibit cookie).log.drop state.log.length

/-- Whatever cookie is uninhibited, only a descriptor that is held for a request
made for that cookie is closed. -/
def ClosesOwn (state : Inhibition) : Prop :=
  ∀ cookie fd, state.Closes cookie fd →
    ∃ request, state.openFds.find? fd = some request ∧ request.cookie = some cookie

/-- A reply brings a number that no other cookie is still bound to. -/
def FreshNumber (state : Inhibition) : Event → Prop
  | .reply serial (.granted fd) => fd ≠ -1 → ∀ request cookie,
    state.inFlight.find? serial = some request → state.saver.m_inhibitFd.find? cookie = some fd →
      request.cookie = some cookie
  | _ => True

def textsOf : Event → Option InhibitEntry
  | .inhibit appName reason => some ⟨appName,reason⟩
  | _ => none

theorem noted_uninhibit (state : Inhibition) (fd other : Int) (connected : state.logind.isConnected = true)
    (held : fd ∈ state.logind.inhibitFds) :
    .logind (.close other) ∈ noted (state.logind.uninhibit fd).2 ↔ other = fd := by
  unfold noted
  rw [state.logind.uninhibit_held fd connected held]
  dsimp only
  split <;> simp

theorem closes_iff (state : Inhibition) (cookie : Nat) (fd : Int) (backend : state.backend = .logind) :
    state.Closes cookie fd ↔ state.saver.m_inhibitFd.find? cookie = some fd ∧ fd ≠ -1 ∧
      state.logind.isConnected = true ∧ fd ∈ state.logind.inhibitFds := by
  unfold Closes
  rcases unInhibit_cases state cookie with ⟨unbound,same⟩ | ⟨number,bound,valid,same⟩
  · rw [same,returned,List.drop_length]
    refine ⟨fun member => absurd member List.not_mem_nil,?_⟩
    intro closed
    rw [closed.1] at unbound
    exact absurd unbound closed.2.1
  · rw [same,uninhibitIdle_logind state number backend,bound,forgotten]
    dsimp only
    rcases uninhibit_cases state number with ⟨refused,same⟩ | ⟨connected,held,same⟩
    · rw [same,List.drop_length]
      refine ⟨fun member => absurd member List.not_mem_nil,?_⟩
      intro closed
      obtain ⟨found,_,connected,held⟩ := closed
      cases found
      rcases refused with disconnected | foreign
      · rw [connected] at disconnected
        cases disconnected
      · exact absurd held foreign
    · rw [same,released,List.drop_left,noted_uninhibit state number fd connected held]
      refine ⟨?_,?_⟩
      · intro once
        subst once
        exact ⟨rfl,valid,connected,held⟩
      · intro closed
        exact (Option.some.inj closed.1).symm

def BoundOwn (state : Inhibition) : Prop :=
  ∀ cookie fd, state.saver.m_inhibitFd.find? cookie = some fd → fd ≠ -1 →
    state.logind.isConnected = true → fd ∈ state.logind.inhibitFds →
      ∃ request, state.openFds.find? fd = some request ∧ request.cookie = some cookie

theorem closesOwn_iff (state : Inhibition) (backend : state.backend = .logind) :
    state.ClosesOwn ↔ state.BoundOwn := by
  refine ⟨?_,?_⟩
  · intro own cookie fd bound valid connected held
    exact own cookie fd ((closes_iff state cookie fd backend).mpr ⟨bound,valid,connected,held⟩)
  · intro own cookie fd closed
    obtain ⟨bound,valid,connected,held⟩ := (closes_iff state cookie fd backend).mp closed
    exact own cookie fd bound valid connected held

/-- What a run of clients with texts of their own keeps: a reply can be told from
every other, and so can the replies to come. -/
structure Apart (state : Inhibition) (events : List Event) : Prop where
  backend : state.backend = .logind
  stays : .serviceUnregistered ∉ events
  silent : state.logind.isConnected = false → state.inFlight = .empty ∧ state.logind.inhibitFds = []
  foreign : ∀ cookie entry, state.saver.m_inhibit.find? cookie = some entry → entry ∉ ownTexts
  answer : ∀ serial request cookie, state.inFlight.find? serial = some request →
    state.saver.m_inhibit.find? cookie = some ⟨request.who,request.why⟩ → request.cookie = some cookie
  distinct : (events.filterMap textsOf).Nodup
  coming : ∀ texts ∈ events.filterMap textsOf, texts ∉ ownTexts ∧
    (∀ cookie, state.saver.m_inhibit.find? cookie ≠ some texts) ∧
    ∀ serial request, state.inFlight.find? serial = some request → ⟨request.who,request.why⟩ ≠ texts

theorem Apart.tail (state : Inhibition) (event : Event) (events : List Event)
    (before : Apart state (event::events)) : Apart state events := by
  have fewer : (events.filterMap textsOf).Sublist ((event::events).filterMap textsOf) :=
    (List.sublist_cons_self event events).filterMap textsOf
  exact { before with
    stays := fun member => before.stays (List.mem_cons_of_mem event member)
    distinct := before.distinct.sublist fewer
    coming := fun texts member => before.coming texts (fewer.subset member) }

theorem Apart.released (state : Inhibition) (events : List Event) (fd : Int)
    (before : Apart state events) : Apart (state.released fd) events := by
  refine { before with silent := ?_ }
  intro disconnected
  obtain ⟨quiet,none⟩ := before.silent disconnected
  refine ⟨quiet,?_⟩
  change state.logind.inhibitFds.erase fd = []
  rw [none]
  rfl

theorem Apart.uninhibitIdle (state : Inhibition) (events : List Event) (fd : Int)
    (before : Apart state events) : Apart (state.uninhibitIdle fd) events :=
  uninhibitIdle_keeps (Apart · events) state fd (fun _ _ _ before => before.released state events fd) before

theorem Apart.asking (state : Inhibition) (events : List Event) (cookie : Option Nat)
    (call : LogindBackend.Inhibitor) (before : Apart state events)
    (connected : state.logind.isConnected = true)
    (mine : ∀ other, state.saver.m_inhibit.find? other = some ⟨call.who,call.why⟩ → cookie = some other)
    (new : ⟨call.who,call.why⟩ ∉ events.filterMap textsOf) :
    Apart (state.asking cookie call) events := by
  refine { before with silent := ?_, answer := ?_, coming := ?_ }
  · intro disconnected
    rw [show state.logind.isConnected = false from disconnected] at connected
    cases connected
  · intro serial request other found entry
    rcases state.inFlight.find?_insert_some _ serial _ request found with ⟨_,new⟩ | ⟨_,old⟩
    · rw [new] at entry ⊢
      exact mine other entry
    · exact before.answer serial request other old entry
  · intro texts member
    obtain ⟨foreign,unused,unasked⟩ := before.coming texts member
    refine ⟨foreign,unused,?_⟩
    intro serial request found
    rcases state.inFlight.find?_insert_some _ serial _ request found with ⟨_,sent⟩ | ⟨_,old⟩
    · intro same
      rw [sent] at same
      exact new (same ▸ member)
    · exact unasked serial request old

theorem Apart.addEntry (state : Inhibition) (events : List Event) (appName reason : String)
    (before : Apart state (.inhibit appName reason::events)) :
    Apart { state with saver := state.saver.addEntry appName reason } events ∧
      ⟨appName,reason⟩ ∉ events.filterMap textsOf := by
  have rest := before.tail state (.inhibit appName reason) events
  have listed : (Event.inhibit appName reason::events).filterMap textsOf =
      ⟨appName,reason⟩::events.filterMap textsOf := rfl
  obtain ⟨foreign,unused,unasked⟩ := before.coming ⟨appName,reason⟩ (by simp [listed])
  have new : ⟨appName,reason⟩ ∉ events.filterMap textsOf := by
    have distinct := before.distinct
    rw [listed] at distinct
    exact (List.nodup_cons.mp distinct).1
  have entries (cookie : Nat) (entry : InhibitEntry)
      (found : (state.saver.addEntry appName reason).m_inhibit.find? cookie = some entry) :
      entry = ⟨appName,reason⟩ ∨ state.saver.m_inhibit.find? cookie = some entry := by
    exact (state.saver.m_inhibit.find?_insert_some _ cookie _ entry found).imp And.right And.right
  refine ⟨{ rest with foreign := ?_, answer := ?_, coming := ?_ },new⟩
  · intro cookie entry found
    rcases entries cookie entry found with same | old
    · rw [same]
      exact foreign
    · exact before.foreign cookie entry old
  · intro serial request cookie found entry
    rcases entries cookie _ entry with same | old
    · exact absurd same (unasked serial request found)
    · exact before.answer serial request cookie found old
  · intro texts member
    obtain ⟨other,vacant,silent⟩ := rest.coming texts member
    refine ⟨other,?_,silent⟩
    intro cookie found
    rcases entries cookie texts found with same | old
    · exact new (same ▸ member)
    · exact vacant cookie old

theorem Apart.sent (state : Inhibition) (events : List Event) (appName reason : String)
    (connected : state.logind.isConnected = true)
    (before : Apart state (.inhibit appName reason::events)) :
    Apart ({ state with saver := state.saver.addEntry appName reason }.asking
      (some state.saver.cookieSeed) (idle appName reason)) events := by
  obtain ⟨entered,new⟩ := before.addEntry state events appName reason
  refine entered.asking _ events (some state.saver.cookieSeed) (idle appName reason) connected ?_ new
  intro other entry
  rcases state.saver.m_inhibit.find?_insert_some _ other _ _ entry with ⟨same,_⟩ | ⟨_,old⟩
  · rw [same]
  · obtain ⟨_,unused,_⟩ := before.coming ⟨appName,reason⟩ (List.mem_cons_self ..)
    exact absurd old (unused other)

theorem Apart.forgotten (state : Inhibition) (events : List Event) (cookie : Nat)
    (before : Apart state events) : Apart (state.forgotten cookie) events := by
  have fewer (other : Nat) (entry : InhibitEntry)
      (found : (state.saver.m_inhibit.erase cookie).find? other = some entry) :=
    (state.saver.m_inhibit.find?_erase_some cookie other entry found).2
  refine { before with foreign := ?_, answer := ?_, coming := ?_ }
  · intro other entry found
    exact before.foreign other entry (fewer other entry found)
  · intro serial request other found entry
    exact before.answer serial request other found (fewer other _ entry)
  · intro texts member
    obtain ⟨foreign,unused,unasked⟩ := before.coming texts member
    exact ⟨foreign,fun other found => unused other (fewer other texts found),unasked⟩

theorem Apart.answered (state next : Inhibition) (events : List Event) (serial : Nat)
    (request : Request) (before : Apart state events) (found : state.inFlight.find? serial = some request)
    (backend : next.backend = state.backend)
    (connected : next.logind.isConnected = state.logind.isConnected)
    (flight : next.inFlight = state.inFlight.erase serial)
    (entries : next.saver.m_inhibit = state.saver.m_inhibit) : Apart next events := by
  have fewer (number : Nat) (other : Request) (present : next.inFlight.find? number = some other) :
      state.inFlight.find? number = some other := by
    rw [flight] at present
    exact (state.inFlight.find?_erase_some serial number other present).2
  refine ⟨backend.trans before.backend,before.stays,?_,?_,?_,before.distinct,?_⟩
  · intro disconnected
    rw [connected] at disconnected
    rw [(before.silent disconnected).1] at found
    cases found
  · rw [entries]
    exact before.foreign
  · intro number other cookie present entry
    rw [entries] at entry
    exact before.answer number other cookie (fewer number other present) entry
  · intro texts member
    obtain ⟨foreign,unused,unasked⟩ := before.coming texts member
    refine ⟨foreign,?_,fun number other present => unasked number other (fewer number other present)⟩
    rw [entries]
    exact unused

theorem apart_step (state next : Inhibition) (event : Event) (events : List Event)
    (before : Apart state (event::events))
    (taken : step .releaseEach state event = some next) : Apart next events := by
  have rest := before.tail state event events
  cases moves_of_step .releaseEach state next event taken with
  | unsent appName reason =>
    obtain ⟨after,_⟩ := before.addEntry state events appName reason
    exact ⟨after.backend,after.stays,after.silent,after.foreign,after.answer,after.distinct,after.coming⟩
  | sent appName reason log backend connected =>
    have after := before.sent state events appName reason connected
    exact ⟨after.backend,after.stays,after.silent,after.foreign,after.answer,after.distinct,after.coming⟩
  | unbound => exact { rest with }
  | bound cookie fd => exact (rest.uninhibitIdle state events fd).forgotten _ events cookie
  | registered lookups =>
    refine { rest with silent := ?_ }
    intro disconnected
    have same := state.logind.registered_fds lookups
    cases connected : state.logind.isConnected with
    | false =>
      obtain ⟨quiet,none⟩ := rest.silent connected
      exact ⟨quiet,same.trans none⟩
    | true =>
      dsimp only at disconnected
      rw [state.logind.registered_again lookups connected,connected] at disconnected
      cases disconnected
  | unregistered => exact absurd (List.mem_cons_self ..) before.stays
  | uninhibit fd backend =>
    rw [← uninhibitIdle_logind state fd backend]
    exact rest.uninhibitIdle state events fd
  | error serial request found =>
    exact rest.answered state _ events serial request found rfl rfl rfl rfl
  | granted serial request fd log found =>
    exact rest.answered state _ events serial request found rfl rfl rfl
      (state.saver.handleInhibited_entries request.who request.why fd)
  | lock now next backend hears returned =>
    refine handleSessionLocked_keeps (Apart · events) (fun state fd _ _ => Apart.released state events fd)
      ?_ state next .releaseEach now rest returned
    intro state now before
    exact { before with }
  | unlock =>
    refine handleSessionUnlocked_keeps (Apart · events) ?_ ?_ state rest
    · intro state call own connected before
      refine before.asking state events none call connected ?_ ?_
      · intro other entry
        exact absurd (ownTexts_mem call own) (before.foreign other _ entry)
      · intro member
        exact absurd (ownTexts_mem call own) (before.coming _ member).1
    · intro state before
      exact { before with }

theorem boundOwn_released (state : Inhibition) (fd : Int) (sound : Sound state)
    (own : state.BoundOwn) : (state.released fd).BoundOwn := by
  intro cookie other bound valid connected held
  obtain ⟨request,open_,mine⟩ := own cookie other bound valid connected (List.mem_of_mem_erase held)
  refine ⟨request,?_,mine⟩
  rw [released_open state fd other (sound.apart state fd other held valid),open_]

theorem boundOwn_uninhibitIdle (state : Inhibition) (fd : Int) (sound : Sound state)
    (own : state.BoundOwn) : (state.uninhibitIdle fd).BoundOwn :=
  uninhibitIdle_keeps BoundOwn state fd (fun _ _ _ own => boundOwn_released state fd sound own) own

/-- A grant keeps every number with its owner exactly when the number is fresh. -/
theorem boundOwn_granted_iff (state next : Inhibition) (events : List Event) (serial : Nat)
    (request : Request) (fd : Int) (apart : Apart state events) (own : state.BoundOwn)
    (found : state.inFlight.find? serial = some request)
    (opened : next.openFds = state.dupped fd request)
    (logind : next.logind = { state.logind with inhibitFds := state.logind.inhibitFds ++ [fd] })
    (saver : next.saver = state.saver.handleInhibited request.who request.why fd) :
    FreshNumber state (.reply serial (.granted fd)) ↔ next.BoundOwn := by
  have connected : state.logind.isConnected = true := by
    cases linked : state.logind.isConnected with
    | true => rfl
    | false =>
      rw [(apart.silent linked).1] at found
      cases found
  refine ⟨?_,?_⟩
  · intro fresh cookie other bound valid _ held
    have old (before : state.saver.m_inhibitFd.find? cookie = some other) :
        ∃ request, next.openFds.find? other = some request ∧ request.cookie = some cookie := by
      rw [opened]
      by_cases same : other = fd
      · subst same
        exact ⟨request,dupped_new state other request valid,fresh valid request cookie found before⟩
      · rw [logind] at held
        have listed : other ∈ state.logind.inhibitFds := by simpa [same] using held
        rw [dupped_old state fd other request same]
        exact own cookie other before valid connected listed
    rw [saver] at bound
    rcases state.saver.handleInhibited_cases request.who request.why fd with ⟨_,same⟩ | ⟨first,entry,_,same⟩
    · rw [same] at bound
      exact old bound
    · rw [same] at bound
      rcases state.saver.m_inhibitFd.find?_insert_some first cookie fd other bound with new | before
      · obtain ⟨mine,number⟩ := new
        subst mine
        subst number
        refine ⟨request,?_,apart.answer serial request cookie found entry⟩
        rw [opened]
        exact dupped_new state other request valid
      · exact old before.2
  · intro after valid answered cookie asked bound
    rw [found] at asked
    cases asked
    have still : next.saver.m_inhibitFd.find? cookie = some fd := by
      rw [saver]
      rcases state.saver.handleInhibited_cases request.who request.why fd with ⟨_,same⟩ | ⟨first,_,_,same⟩
      · rw [same]
        exact bound
      · rw [same]
        change (state.saver.m_inhibitFd.insert first fd).find? cookie = some fd
        rw [OrderedMap.find?_insert]
        split
        · rfl
        · exact bound
    have held : fd ∈ next.logind.inhibitFds := by
      rw [logind]
      simp
    obtain ⟨owner,open_,mine⟩ := after cookie fd still valid (by rw [logind]; exact connected) held
    rw [opened,dupped_new state fd request valid] at open_
    cases open_
    exact mine

theorem boundOwn_step_iff (state next : Inhibition) (event : Event) (events : List Event)
    (sound : Sound state) (apart : Apart state (event::events)) (own : state.BoundOwn)
    (taken : step .releaseEach state event = some next) : FreshNumber state event ↔ next.BoundOwn := by
  cases moves_of_step .releaseEach state next event taken with
  | unsent => exact ⟨fun _ => own,fun _ => trivial⟩
  | sent => exact ⟨fun _ => own,fun _ => trivial⟩
  | unbound => exact ⟨fun _ => own,fun _ => trivial⟩
  | bound cookie fd =>
    refine ⟨fun _ => ?_,fun _ => trivial⟩
    intro other number bound
    have before := (OrderedMap.find?_erase_some _ cookie other number bound).2
    exact boundOwn_uninhibitIdle state fd sound own other number before
  | registered lookups =>
    refine ⟨fun _ => ?_,fun _ => trivial⟩
    intro cookie fd bound valid _ held
    rw [state.logind.registered_fds lookups] at held
    cases connected : state.logind.isConnected with
    | true => exact own cookie fd bound valid connected held
    | false =>
      rw [(apart.silent connected).2] at held
      cases held
  | unregistered => exact absurd (List.mem_cons_self ..) apart.stays
  | uninhibit fd backend =>
    refine ⟨fun _ => ?_,fun _ => trivial⟩
    rw [← uninhibitIdle_logind state fd backend]
    exact boundOwn_uninhibitIdle state fd sound own
  | error => exact ⟨fun _ => own,fun _ => trivial⟩
  | granted serial request fd log found =>
    exact boundOwn_granted_iff state _ _ serial request fd apart own found rfl rfl rfl
  | lock now next backend hears returned =>
    refine ⟨fun _ => ?_,fun _ => trivial⟩
    have both := handleSessionLocked_keeps (fun next => Sound next ∧ next.BoundOwn)
      (fun state fd _ _ before => ⟨before.1.released state fd,boundOwn_released state fd before.1 before.2⟩)
      (fun state now before => ⟨before.1.emitLocked state now,before.2⟩)
      state next .releaseEach now ⟨sound,own⟩ returned
    exact both.2
  | unlock =>
    refine ⟨fun _ => ?_,fun _ => trivial⟩
    exact handleSessionUnlocked_keeps BoundOwn (fun _ _ _ _ kept => kept) (fun _ kept => kept) state own

/-- In every run of clients with texts of their own, `UnInhibit` never closes a
descriptor of somebody else exactly when no reply brings a number that another
cookie is still bound to. -/
theorem closesOwn_iff_freshNumbers (events : List Event)
    (distinct : (events.filterMap textsOf).Nodup)
    (foreign : ∀ texts ∈ events.filterMap textsOf, texts ∉ ownTexts)
    (stays : .serviceUnregistered ∉ events) :
    Along (step .releaseEach) ClosesOwn (constructed .logind) events ↔
      Steps (step .releaseEach) FreshNumber (constructed .logind) events := by
  have initial : Apart (constructed .logind) events := by
    rw [constructed_logind]
    refine ⟨rfl,stays,fun _ => ⟨rfl,rfl⟩,?_,?_,distinct,?_⟩
    · intro cookie entry found
      cases found
    · intro serial request cookie found
      cases found
    · intro texts member
      refine ⟨foreign texts member,?_,?_⟩
      · intro cookie found
        cases found
      · intro serial request found
        cases found
  refine along_iff_steps (step .releaseEach) (fun state events => Sound state ∧ Apart state events)
    ClosesOwn FreshNumber ?_ ?_ (constructed .logind) events ⟨sound_constructed .logind,initial⟩ ?_
  · intro state event events next before taken
    exact ⟨sound_step .releaseEach state next event before.1 taken,
      apart_step state next event events before.2 taken⟩
  · intro state event events next before own taken
    have after := (apart_step state next event events before.2 taken).backend
    rw [closesOwn_iff next after]
    have bound := (closesOwn_iff state before.2.backend).mp own
    exact boundOwn_step_iff state next event events before.1 before.2 bound taken
  · apply (closesOwn_iff (constructed .logind) rfl).mpr
    intro cookie fd bound
    cases bound

/-- A lock closes the player's descriptor; its number is given to the viewer while
the player's cookie still carries it. -/
def reused : List Event := [.serviceRegistered graphicalSession,.inhibit "player" "film",
  .reply 0 (.granted 5),.lock 0,.inhibit "viewer" "slides",.reply 1 (.granted 5)]

theorem reused_number_closed : ¬Along (step .releaseEach) ClosesOwn (constructed .logind) reused := by
  intro along
  have own := (along_iff_front (step .releaseEach) ClosesOwn _ reused).mp along reused [] _ (by simp) rfl
  obtain ⟨request,open_,mine⟩ := own 0 5 ((closes_iff _ 0 5 rfl).mpr ⟨rfl,by decide,rfl,by decide⟩)
  cases open_
  cases mine

def fresh : List Event := [.serviceRegistered graphicalSession,.inhibit "player" "film",
  .reply 0 (.granted 5),.lock 0,.inhibit "viewer" "slides",.reply 1 (.granted 6),.unInhibit 0]

theorem fresh_number_kept : Along (step .releaseEach) ClosesOwn (constructed .logind) fresh := by
  apply (closesOwn_iff_freshNumbers fresh (by decide) (by decide) (by simp [fresh])).mpr
  refine (steps_cons _ _ _ _ _ _ rfl).mpr ⟨trivial,?_⟩
  refine (steps_cons _ _ _ _ _ _ rfl).mpr ⟨trivial,?_⟩
  refine (steps_cons _ _ _ _ _ _ rfl).mpr ⟨?_,?_⟩
  · intro valid request cookie asked bound
    cases bound
  · refine (steps_cons _ _ _ _ _ _ rfl).mpr ⟨trivial,?_⟩
    refine (steps_cons _ _ _ _ _ _ rfl).mpr ⟨trivial,?_⟩
    refine (steps_cons _ _ _ _ _ _ rfl).mpr ⟨?_,?_⟩
    · intro valid request cookie asked bound
      have listed := (OrderedMap.find?_eq_some _ cookie 6).mp bound
      change (cookie,(6 : Int)) ∈ [(0,(5 : Int))] at listed
      simp at listed
    · exact (steps_cons _ _ _ _ _ _ rfl).mpr ⟨trivial,trivial⟩

end LiriSession.Inhibition
