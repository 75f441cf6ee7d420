import LiriSession.Descriptors

/-! Which descriptor a cookie is bound to. Replies are told apart by their texts
alone, and go to the first cookie that has them. -/
namespace LiriSession.Inhibition
open Library Logind

/-- What the replies are to do: bind every cookie to the descriptor that was
granted for its own request, no two to one, and leave none out. -/
structure Bindings (state : Inhibition) : Prop where
  own : ∀ cookie fd, state.saver.m_inhibitFd.find? cookie = some fd → ∃ request,
    state.openFds.find? fd = some request ∧ state.asked.find? cookie = some (some request.serial)
  apart : ∀ first second fd, state.saver.m_inhibitFd.find? first = some fd →
    state.saver.m_inhibitFd.find? second = some fd → first = second
  all : state.inFlight = .empty → ∀ cookie ∈ state.live,
    ∃ fd, state.saver.m_inhibitFd.find? cookie = some fd

def Ordinary : Event → Prop
  | .serviceUnregistered => False
  | .uninhibit _ => False
  | .lock _ => False
  | _ => True

/-- A client asks while logind is connected, and gets a cookie that is not in use; its
request is granted, when no earlier cookie has its texts, or refused after it has
given the cookie back; and when the backend's own is granted, no cookie has its texts. -/
def Distinguishable (state : Inhibition) : Event → Prop
  | .inhibit _ _ => state.logind.isConnected = true ∧
    state.saver.m_inhibit.find? state.saver.cookieSeed = none
  | .reply serial answer => ∀ request, state.inFlight.find? serial = some request →
    match request.cookie with
    | some cookie => answer = .error ∧ cookie ∉ state.live ∨
      (∃ fd, answer = .granted fd ∧ fd ≠ -1) ∧
        ∀ other, other < cookie → state.saver.m_inhibit.find? other ≠ some ⟨request.who,request.why⟩
    | none => answer = .error ∨
      ∀ other, state.saver.m_inhibit.find? other ≠ some ⟨request.who,request.why⟩
  | _ => True

def Settled (state : Inhibition) (cookie number : Nat) : Prop :=
  ∃ fd request, state.saver.m_inhibitFd.find? cookie = some fd ∧
    state.openFds.find? fd = some request ∧ request.serial = number

def Waiting (state : Inhibition) (cookie number : Nat) : Prop :=
  state.saver.m_inhibitFd.find? cookie = none ∧
    ∃ request, state.inFlight.find? number = some request ∧ request.cookie = some cookie

def Abandoned (state : Inhibition) (cookie : Nat) : Prop :=
  state.saver.m_inhibitFd.find? cookie = none ∧ cookie ∉ state.live

/-- Each cookie in use has a request of its own, unless it is abandoned, and each
client's request in flight is the one of a cookie in use. -/
structure Matched (state : Inhibition) : Prop where
  backend : state.backend = .logind
  entry : ∀ cookie entry, state.saver.m_inhibit.find? cookie = some entry →
    state.Abandoned cookie ∨ ∃ number, state.asked.find? cookie = some (some number) ∧
      (state.Settled cookie number ∨ state.Waiting cookie number)
  flight : ∀ number request cookie, state.inFlight.find? number = some request →
    request.cookie = some cookie →
      state.saver.m_inhibit.find? cookie = some ⟨request.who,request.why⟩ ∧
        state.asked.find? cookie = some (some number)
  bound : ∀ cookie fd, state.saver.m_inhibitFd.find? cookie = some fd →
    ∃ entry, state.saver.m_inhibit.find? cookie = some entry
  injective : ∀ first second number, state.asked.find? first = some (some number) →
    state.asked.find? second = some (some number) → first = second

theorem Matched.settled (state : Inhibition) (cookie : Nat) (fd : Int) (matched : Matched state)
    (bound : state.saver.m_inhibitFd.find? cookie = some fd) : ∃ request,
      state.openFds.find? fd = some request ∧ state.asked.find? cookie = some (some request.serial) := by
  obtain ⟨entry,present⟩ := matched.bound cookie fd bound
  rcases matched.entry cookie entry present with abandoned | ⟨number,asked,settled | waiting⟩
  · rw [abandoned.1] at bound
    cases bound
  · obtain ⟨other,request,taken,open_,same⟩ := settled
    rw [bound] at taken
    cases taken
    exact ⟨request,open_,same ▸ asked⟩
  · rw [waiting.1] at bound
    cases bound

theorem Matched.unbound (state : Inhibition) (number : Nat) (request : Request) (cookie : Nat)
    (sound : Sound state) (matched : Matched state) (found : state.inFlight.find? number = some request)
    (mine : request.cookie = some cookie) : state.saver.m_inhibitFd.find? cookie = none := by
  cases bound : state.saver.m_inhibitFd.find? cookie with
  | none => rfl
  | some fd =>
    obtain ⟨owner,open_,asked⟩ := matched.settled state cookie fd bound
    rw [(matched.flight number request cookie found mine).2] at asked
    cases asked
    rw [(sound.granted fd owner open_).2] at found
    cases found

theorem Matched.apart (state : Inhibition) (first second : Nat) (fd : Int) (matched : Matched state)
    (left : state.saver.m_inhibitFd.find? first = some fd)
    (right : state.saver.m_inhibitFd.find? second = some fd) : first = second := by
  obtain ⟨request,open_,asked⟩ := matched.settled state first fd left
  obtain ⟨other,again,also⟩ := matched.settled state second fd right
  rw [open_] at again
  cases again
  exact matched.injective first second request.serial asked also

theorem Matched.bindings (state : Inhibition) (kept : LiveKept state) (matched : Matched state) :
    Bindings state := by
  refine ⟨matched.settled state,fun first second fd => matched.apart state first second fd,?_⟩
  · intro idle cookie live
    obtain ⟨entry,present⟩ := kept cookie live
    rcases matched.entry cookie entry present with abandoned | ⟨number,asked,settled | waiting⟩
    · exact absurd live abandoned.2
    · obtain ⟨fd,_,bound,_⟩ := settled
      exact ⟨fd,bound⟩
    · obtain ⟨_,request,found,_⟩ := waiting
      rw [idle] at found
      cases found

theorem Matched.vacant_unbound (state : Inhibition) (cookie : Nat) (matched : Matched state)
    (vacant : state.saver.m_inhibit.find? cookie = none) :
    state.saver.m_inhibitFd.find? cookie = none := by
  cases found : state.saver.m_inhibitFd.find? cookie with
  | none => rfl
  | some fd =>
    obtain ⟨entry,present⟩ := matched.bound cookie fd found
    rw [vacant] at present
    cases present

/-- The next number is nobody's yet. -/
theorem Matched.injective_insert (state : Inhibition) (cookie : Nat) (sound : Sound state)
    (matched : Matched state) (first second number : Nat)
    (left : (state.asked.insert cookie (some state.issued)).find? first = some (some number))
    (right : (state.asked.insert cookie (some state.issued)).find? second = some (some number)) :
    first = second := by
  rcases state.asked.find?_insert_some _ first _ _ left with ⟨one,new⟩ | ⟨_,old⟩ <;>
    rcases state.asked.find?_insert_some _ second _ _ right with ⟨two,also⟩ | ⟨_,elder⟩
  · rw [one,two]
  · have before := sound.asked second number elder
    cases new
    omega
  · have before := sound.asked first number old
    cases also
    omega
  · exact matched.injective first second number old elder

theorem Matched.asking (state : Inhibition) (call : LogindBackend.Inhibitor) (sound : Sound state)
    (matched : Matched state) : Matched (state.asking none call) := by
  refine { matched with entry := ?_, flight := ?_ }
  · intro cookie entry present
    rcases matched.entry cookie entry present with abandoned | ⟨number,asked,settled | waiting⟩
    · exact .inl abandoned
    · exact .inr ⟨number,asked,.inl settled⟩
    · obtain ⟨unbound,request,found,mine⟩ := waiting
      have before := sound.asked cookie number asked
      refine .inr ⟨number,asked,.inr ⟨unbound,request,?_,mine⟩⟩
      change (state.inFlight.insert state.issued (state.requested none call)).find? number = _
      rw [OrderedMap.find?_insert,if_neg (by omega),found]
  · intro number request cookie found mine
    rcases state.inFlight.find?_insert_some _ number _ request found with ⟨_,new⟩ | ⟨_,old⟩
    · rw [new] at mine
      cases mine
    · exact matched.flight number request cookie old mine

section
variable (state next : Inhibition)

theorem Matched.sent (appName reason : String) (sound : Sound state) (matched : Matched state)
    (vacant : state.saver.m_inhibit.find? state.saver.cookieSeed = none)
    (backend : next.backend = state.backend)
    (saver : next.saver = state.saver.addEntry appName reason)
    (flight : next.inFlight = state.inFlight.insert state.issued
      (state.requested (some state.saver.cookieSeed) (idle appName reason)))
    (asked : next.asked = state.asked.insert state.saver.cookieSeed (some state.issued))
    (opened : next.openFds = state.openFds)
    (live : next.live = state.live ++ [state.saver.cookieSeed]) : Matched next := by
  have entries : next.saver.m_inhibit =
      state.saver.m_inhibit.insert state.saver.cookieSeed ⟨appName,reason⟩ := by rw [saver]; rfl
  have numbers : next.saver.m_inhibitFd = state.saver.m_inhibitFd := by rw [saver]; rfl
  have apart (cookie : Nat) (entry : InhibitEntry)
      (present : state.saver.m_inhibit.find? cookie = some entry) : cookie ≠ state.saver.cookieSeed := by
    intro same
    rw [same,vacant] at present
    cases present
  have unbound := matched.vacant_unbound state state.saver.cookieSeed vacant
  refine ⟨backend.trans matched.backend,?_,?_,?_,?_⟩
  · intro cookie entry present
    rw [entries] at present
    rw [asked]
    rcases state.saver.m_inhibit.find?_insert_some _ cookie _ entry present with ⟨same,_⟩ | ⟨other,old⟩
    · subst same
      let request := state.requested (some state.saver.cookieSeed) (idle appName reason)
      refine .inr ⟨state.issued,OrderedMap.find?_insert_self _ _ _,.inr ⟨?_,request,?_,rfl⟩⟩
      · rw [numbers,unbound]
      · rw [flight,OrderedMap.find?_insert_self]
    · rcases matched.entry cookie entry old with abandoned | ⟨number,before,settled | waiting⟩
      · refine .inl ⟨by rw [numbers,abandoned.1],?_⟩
        rw [live,List.mem_append,List.mem_singleton]
        exact not_or.mpr ⟨abandoned.2,other⟩
      · refine .inr ⟨number,?_,.inl ?_⟩
        · rw [OrderedMap.find?_insert,if_neg other,before]
        · unfold Settled
          rw [numbers,opened]
          exact settled
      · obtain ⟨free,request,found,mine⟩ := waiting
        have earlier := sound.asked cookie number before
        refine .inr ⟨number,?_,.inr ⟨?_,request,?_,mine⟩⟩
        · rw [OrderedMap.find?_insert,if_neg other,before]
        · rw [numbers,free]
        · rw [flight,OrderedMap.find?_insert,if_neg (by omega),found]
  · intro number request cookie found mine
    rw [flight] at found
    rw [entries,asked]
    rcases state.inFlight.find?_insert_some _ number _ request found with ⟨same,new⟩ | ⟨_,old⟩
    · rw [new] at mine ⊢
      cases mine
      exact ⟨OrderedMap.find?_insert_self _ _ _,by rw [same,OrderedMap.find?_insert_self]⟩
    · obtain ⟨present,before⟩ := matched.flight number request cookie old mine
      refine ⟨?_,?_⟩
      · rw [OrderedMap.find?_insert,if_neg (apart cookie _ present),present]
      · rw [OrderedMap.find?_insert,if_neg (apart cookie _ present),before]
  · intro cookie fd found
    rw [numbers] at found
    obtain ⟨entry,present⟩ := matched.bound cookie fd found
    refine ⟨entry,?_⟩
    rw [entries,OrderedMap.find?_insert,if_neg (apart cookie entry present),present]
  · rw [asked]
    exact matched.injective_insert state state.saver.cookieSeed sound

theorem Matched.answered (number : Nat) (request : Request) (matched : Matched state)
    (found : state.inFlight.find? number = some request)
    (backend : next.backend = state.backend) (flight : next.inFlight = state.inFlight.erase number)
    (asked : next.asked = state.asked)
    (entries : next.saver.m_inhibit = state.saver.m_inhibit)
    (opened : ∀ fd owner, state.openFds.find? fd = some owner → next.openFds.find? fd = some owner)
    (others : ∀ cookie, request.cookie ≠ some cookie →
      next.saver.m_inhibitFd.find? cookie = state.saver.m_inhibitFd.find? cookie)
    (live : next.live = state.live)
    (taken : ∀ cookie, request.cookie = some cookie →
      next.Abandoned cookie ∨ next.Settled cookie number) : Matched next := by
  refine ⟨backend.trans matched.backend,?_,?_,?_,asked ▸ matched.injective⟩
  · intro cookie entry present
    rw [entries] at present
    by_cases mine : request.cookie = some cookie
    · have same := (matched.flight number request cookie found mine).2
      exact (taken cookie mine).imp_right fun settled => ⟨number,asked ▸ same,.inl settled⟩
    · rcases matched.entry cookie entry present with abandoned | ⟨serial,before,settled | waiting⟩
      · exact .inl ⟨(others cookie mine).trans abandoned.1,live ▸ abandoned.2⟩
      · obtain ⟨fd,owner,bound,open_,numbered⟩ := settled
        exact .inr ⟨serial,asked ▸ before,
          .inl ⟨fd,owner,(others cookie mine).trans bound,opened fd owner open_,numbered⟩⟩
      · obtain ⟨free,other,inside,own⟩ := waiting
        have apart : serial ≠ number := by
          intro same
          rw [same,found] at inside
          cases inside
          exact mine own
        refine .inr ⟨serial,asked ▸ before,.inr ⟨(others cookie mine).trans free,other,?_,own⟩⟩
        rw [flight,OrderedMap.find?_erase,if_neg apart,inside]
  · intro serial other cookie present own
    rw [flight] at present
    rw [entries,asked]
    exact matched.flight serial other cookie
      (state.inFlight.find?_erase_some number serial other present).2 own
  · intro cookie fd bound
    rw [entries]
    by_cases mine : request.cookie = some cookie
    · exact ⟨_,(matched.flight number request cookie found mine).1⟩
    · rw [others cookie mine] at bound
      exact matched.bound cookie fd bound

theorem Matched.granted (number : Nat) (request : Request) (fd : Int) (sound : Sound state)
    (matched : Matched state) (found : state.inFlight.find? number = some request)
    (fresh : fd = -1 ∨ 0 ≤ fd ∧ state.openFds.find? fd = none)
    (allowed : Distinguishable state (.reply number (.granted fd)))
    (backend : next.backend = state.backend)
    (saver : next.saver = state.saver.handleInhibited request.who request.why fd)
    (flight : next.inFlight = state.inFlight.erase number)
    (opened : next.openFds = state.dupped fd request) (asked : next.asked = state.asked)
    (live : next.live = state.live) : Matched next := by
  have entries : next.saver.m_inhibit = state.saver.m_inhibit := by
    rw [saver,state.saver.handleInhibited_entries]
  have kept (other : Int) (owner : Request) (open_ : state.openFds.find? other = some owner) :
      next.openFds.find? other = some owner :=
    opened ▸ dupped_kept state fd other request owner fresh open_
  have condition := allowed request found
  cases mine : request.cookie with
  | none =>
    simp only [mine] at condition
    have unmatched := condition.resolve_left (by simp)
    have same : next.saver.m_inhibitFd = state.saver.m_inhibitFd := by
      rcases state.saver.handleInhibited_cases request.who request.why fd with ⟨_,same⟩ | ⟨cookie,present,_⟩
      · rw [saver,same]
      · exact absurd present (unmatched cookie)
    refine matched.answered state next number request found backend flight asked entries kept
      (fun cookie _ => by rw [same]) live ?_
    intro cookie own
    rw [mine] at own
    cases own
  | some cookie =>
    simp only [mine] at condition
    obtain ⟨⟨_,answer,valid⟩,first⟩ := condition.resolve_left (by simp)
    cases answer
    have present := (matched.flight number request cookie found mine).1
    have numbers : next.saver.m_inhibitFd = state.saver.m_inhibitFd.insert cookie fd := by
      rcases state.saver.handleInhibited_cases request.who request.why fd with ⟨unmatched,_⟩ | chosen
      · exact absurd present (unmatched cookie)
      · obtain ⟨other,also,least,same⟩ := chosen
        have equal : other = cookie := by
          rcases Nat.lt_or_eq_of_le (least cookie present) with below | equal
          · exact absurd also (first other below)
          · exact equal
        rw [saver,same,equal]
    refine matched.answered state next number request found backend flight asked entries kept ?_ live ?_
    · intro other apart
      have differs : other ≠ cookie := by
        intro same
        exact apart (by rw [mine,same])
      rw [numbers,OrderedMap.find?_insert,if_neg differs]
    · intro other own
      rw [mine] at own
      cases own
      refine .inr ⟨fd,request,?_,?_,(sound.flight number request found).1⟩
      · rw [numbers,OrderedMap.find?_insert_self]
      · rw [opened,dupped_new state fd request valid]

theorem Matched.forgotten (cookie : Nat) (fd : Int) (sound : Sound state) (matched : Matched state)
    (bound : state.saver.m_inhibitFd.find? cookie = some fd) (backend : next.backend = state.backend)
    (saver : next.saver = state.saver.removeEntry cookie) (flight : next.inFlight = state.inFlight)
    (opened : ∀ other, other ≠ fd → next.openFds.find? other = state.openFds.find? other)
    (asked : next.asked = state.asked) (live : next.live = state.live.filter (· ≠ cookie)) :
    Matched next := by
  have entries : next.saver.m_inhibit = state.saver.m_inhibit.erase cookie := by rw [saver]; rfl
  have numbers : next.saver.m_inhibitFd = state.saver.m_inhibitFd.erase cookie := by rw [saver]; rfl
  obtain ⟨owner,open_,mine⟩ := matched.settled state cookie fd bound
  refine ⟨backend.trans matched.backend,?_,?_,?_,asked ▸ matched.injective⟩
  · intro other entry present
    rw [entries] at present
    obtain ⟨differs,present⟩ := state.saver.m_inhibit.find?_erase_some cookie other entry present
    have unchanged : next.saver.m_inhibitFd.find? other = state.saver.m_inhibitFd.find? other := by
      rw [numbers,OrderedMap.find?_erase,if_neg differs]
    rcases matched.entry other entry present with abandoned | ⟨number,before,settled | waiting⟩
    · refine .inl ⟨unchanged.trans abandoned.1,?_⟩
      rw [live]
      exact fun member => abandoned.2 (List.mem_filter.mp member).1
    · obtain ⟨taken,request,found,held,numbered⟩ := settled
      have elsewhere : taken ≠ fd := by
        intro same
        exact differs (matched.apart state other cookie fd (same ▸ found) bound)
      refine .inr ⟨number,asked ▸ before,.inl ⟨taken,request,unchanged.trans found,?_,numbered⟩⟩
      rw [opened taken elsewhere,held]
    · refine .inr ⟨number,asked ▸ before,.inr ⟨unchanged.trans waiting.1,?_⟩⟩
      rw [flight]
      exact waiting.2
  · intro number request other found own
    rw [flight] at found
    obtain ⟨present,before⟩ := matched.flight number request other found own
    have differs : other ≠ cookie := by
      intro same
      rw [same,mine] at before
      cases before
      rw [(sound.granted fd owner open_).2] at found
      cases found
    exact ⟨by rw [entries,OrderedMap.find?_erase,if_neg differs,present],asked ▸ before⟩
  · intro other number found
    rw [numbers] at found
    obtain ⟨differs,found⟩ := state.saver.m_inhibitFd.find?_erase_some cookie other number found
    obtain ⟨entry,present⟩ := matched.bound other number found
    exact ⟨entry,by rw [entries,OrderedMap.find?_erase,if_neg differs,present]⟩

theorem matched_step (reading : LockReading) (event : Event) (sound : Sound state)
    (matched : Matched state) (ordinary : Ordinary event) (allowed : Distinguishable state event)
    (taken : step reading state event = some next) : Matched next := by
  cases moves_of_step reading state next event taken with
  | unsent appName reason unsent =>
    rcases unsent with fake | disconnected
    · rw [matched.backend] at fake
      cases fake
    · rw [allowed.1] at disconnected
      cases disconnected
  | sent appName reason log backend connected =>
    exact matched.sent state _ appName reason sound allowed.2 rfl rfl rfl rfl rfl rfl
  | unbound cookie =>
    refine { matched with entry := ?_ }
    intro other entry present
    apply (matched.entry other entry present).imp_left
    intro abandoned
    exact ⟨abandoned.1,fun member => abandoned.2 (List.mem_filter.mp member).1⟩
  | bound cookie fd bound valid =>
    obtain ⟨backend,flight,asked,opened⟩ := uninhibitIdle_frame state fd
    refine matched.forgotten state _ cookie fd sound bound backend ?_ flight opened asked ?_
    · change (state.uninhibitIdle fd).saver.removeEntry cookie = _
      rw [uninhibitIdle_saver]
    · change (state.uninhibitIdle fd).live.filter (· ≠ cookie) = _
      rw [uninhibitIdle_live]
  | registered lookups => exact { matched with }
  | unregistered => exact ordinary.elim
  | uninhibit => exact ordinary.elim
  | error serial request found =>
    have condition := allowed request found
    refine matched.answered state _ serial request found rfl rfl rfl rfl (fun _ _ => id)
      (fun _ _ => rfl) rfl ?_
    intro cookie mine
    simp only [mine] at condition
    have left := (condition.resolve_right (by simp)).2
    have unbound := matched.unbound state serial request cookie sound found mine
    exact .inl ⟨unbound,left⟩
  | granted serial request fd log found backend fresh =>
    exact matched.granted state _ serial request fd sound found fresh allowed rfl rfl rfl rfl rfl rfl
  | lock => exact ordinary.elim
  | unlock =>
    have both := handleSessionUnlocked_keeps (fun next => Sound next ∧ Matched next)
      (fun state call _ _ before =>
        ⟨before.1.asking state none call before.2.backend,before.2.asking state call before.1⟩)
      (fun state before => ⟨before.1.emitUnlocked state,{ before.2 with }⟩) state ⟨sound,matched⟩
    exact both.2

end

/-- In every run of clients and replies whose requests can be told apart, in every
state reached, each bound cookie has the descriptor of its own request, no two
have one, and with no request in flight every live cookie is bound. -/
theorem bindings_of_distinguishable (reading : LockReading) (events : List Event)
    (ordinary : ∀ event ∈ events, Ordinary event)
    (steps : Steps (step reading) Distinguishable (constructed .logind) events) :
    Along (step reading) Bindings (constructed .logind) events := by
  have first : Matched (constructed .logind) := by
    rw [constructed_logind]
    exact ⟨rfl,by simp,by simp,by simp,by simp⟩
  refine along_of_steps (step reading)
    (fun state events => Sound state ∧ LiveKept state ∧ Matched state ∧ ∀ event ∈ events, Ordinary event)
    Bindings Distinguishable ?_ ?_ (constructed .logind) events
    ⟨sound_constructed .logind,liveKept_constructed .logind,first,ordinary⟩ steps
  · intro state event events next before allowed taken
    obtain ⟨sound,kept,matched,ordinary⟩ := before
    refine ⟨sound_step reading state next event sound taken,
      liveKept_step reading state next event kept taken,?_,?_⟩
    · exact matched_step state next reading event sound matched
        (ordinary event (List.mem_cons_self ..)) allowed taken
    · intro other member
      exact ordinary other (List.mem_cons_of_mem event member)
  · intro state events before
    exact before.2.2.1.bindings state before.2.1

def repeated : List Event := [.serviceRegistered graphicalSession,.inhibit "player" "film",
  .inhibit "player" "film",.reply 0 (.granted 5),.reply 1 (.granted 6)]

theorem repeated_texts_misbound :
    ¬Along (step (.asWritten 0)) Bindings (constructed .logind) repeated := by
  intro along
  have bindings := (along_iff_front (step (.asWritten 0)) Bindings _ repeated).mp along repeated []
    _ (by simp) rfl
  obtain ⟨request,open_,asked⟩ := bindings.own 0 6 rfl
  cases open_
  cases asked

def reasons : List Event := [.serviceRegistered graphicalSession,.unlock,.inhibit "player" "film",
  .inhibit "player" "music",.reply 0 .error,.reply 4 (.granted 5),.unInhibit 0]

theorem other_reason_bound :
    Along (step (.asWritten 0)) Bindings (constructed .logind) reasons := by
  apply bindings_of_distinguishable (.asWritten 0) reasons (by simp [reasons,Ordinary])
  refine (steps_cons _ _ _ _ _ _ rfl).mpr ⟨trivial,?_⟩
  refine (steps_cons _ _ _ _ _ _ rfl).mpr ⟨trivial,?_⟩
  refine (steps_cons _ _ _ _ _ _ rfl).mpr ⟨⟨rfl,rfl⟩,?_⟩
  refine (steps_cons _ _ _ _ _ _ rfl).mpr ⟨⟨rfl,rfl⟩,?_⟩
  refine (steps_cons _ _ _ _ _ _ rfl).mpr ⟨?_,?_⟩
  · intro request found
    cases found
    exact .inl rfl
  · refine (steps_cons _ _ _ _ _ _ rfl).mpr ⟨?_,?_⟩
    · intro request found
      cases found
      refine .inr ⟨⟨5,rfl,by decide⟩,?_⟩
      intro other earlier
      have first : other = 0 := Nat.lt_one_iff.mp (show other < 1 from earlier)
      subst first
      decide
    · exact (steps_cons _ _ _ _ _ _ rfl).mpr ⟨trivial,trivial⟩

end LiriSession.Inhibition
