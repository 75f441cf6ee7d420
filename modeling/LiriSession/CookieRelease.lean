import LiriSession.Descriptors
import Mathlib.Data.Fintype.EquivFin

/-! What is left of a cookie once a client has given it back and every reply has
been delivered, over every continuation and for either backend. -/
namespace LiriSession.Inhibition
open Library Logind

/-- Neither table has the cookie, and no descriptor that was granted for its
request is held. -/
structure Released (state : Inhibition) (cookie : Nat) : Prop where
  entry : state.saver.m_inhibit.find? cookie = none
  number : state.saver.m_inhibitFd.find? cookie = none
  descriptor : ∀ fd ∈ state.logind.inhibitFds, ∀ request, state.openFds.find? fd = some request →
    state.asked.find? cookie ≠ some (some request.serial)

def NotReturned (cookie : Nat) (state : Inhibition) : Event → Prop
  | .inhibit _ _ => state.saver.cookieSeed ≠ cookie
  | _ => True

/-- Whatever happens after the cookie has been given back, it has been released
when no request is in flight any more. -/
def WillBeReleased (reading : LockReading) (state : Inhibition) (cookie : Nat) : Prop :=
  ∀ events final, Steps (step reading) (NotReturned cookie) state (.unInhibit cookie::events) →
    run (step reading) state (.unInhibit cookie::events) = some final →
      final.inFlight = .empty → Released final cookie

/-- The cookie is bound, its request is not in flight, and what is held for that
request is the number it is bound to, with logind connected. -/
def Releasing (state : Inhibition) (cookie : Nat) : Prop :=
  ∃ fd, state.saver.m_inhibitFd.find? cookie = some fd ∧ fd ≠ -1 ∧
    (∀ number request, state.inFlight.find? number = some request →
      state.asked.find? cookie ≠ some (some number)) ∧
    ∀ other ∈ state.logind.inhibitFds, ∀ request, state.openFds.find? other = some request →
      state.asked.find? cookie = some (some request.serial) →
        other = fd ∧ state.backend = .logind ∧ state.logind.isConnected = true

/-- Nothing of the cookie is left, and nothing of it is to come. -/
structure Gone (cookie : Nat) (state : Inhibition) : Prop extends Released state cookie where
  sound : Sound state
  flight : ∀ number request, state.inFlight.find? number = some request →
    state.asked.find? cookie ≠ some (some number)

section
variable (cookie : Nat) (state next : Inhibition)

theorem Gone.released (fd : Int) (gone : Gone cookie state) : Gone cookie (state.released fd) := by
  refine { gone with sound := gone.sound.released state fd, descriptor := ?_ }
  intro other held request found
  exact gone.descriptor other (List.mem_of_mem_erase held) request
    (released_open_some state fd other request found).2

theorem Gone.uninhibitIdle (fd : Int) (gone : Gone cookie state) :
    Gone cookie (state.uninhibitIdle fd) :=
  uninhibitIdle_keeps (Gone cookie) state fd (fun _ _ _ gone => gone.released cookie state fd) gone

theorem Gone.asking (origin : Option Nat) (call : LogindBackend.Inhibitor)
    (backend : state.backend = .logind) (gone : Gone cookie state) :
    Gone cookie (state.asking origin call) := by
  refine { gone with sound := gone.sound.asking state origin call backend, flight := ?_ }
  intro number request found asked
  rcases state.inFlight.find?_insert_some _ number _ request found with ⟨same,_⟩ | ⟨_,old⟩
  · have before := gone.sound.asked cookie number asked
    omega
  · exact gone.flight number request old asked

theorem Gone.addEntry (appName reason : String) (asked : Option Nat) (gone : Gone cookie state)
    (other : state.saver.cookieSeed ≠ cookie)
    (logind : next.logind = state.logind) (opened : next.openFds = state.openFds) (sound : Sound next)
    (saver : next.saver = state.saver.addEntry appName reason)
    (remembered : next.asked = state.asked.insert state.saver.cookieSeed asked)
    (flight : ∀ number request, next.inFlight.find? number = some request →
      state.asked.find? cookie ≠ some (some number)) : Gone cookie next := by
  have kept : next.asked.find? cookie = state.asked.find? cookie := by
    rw [remembered,OrderedMap.find?_insert,if_neg (Ne.symm other)]
  refine ⟨⟨?_,?_,?_⟩,sound,?_⟩
  · rw [saver]
    change (state.saver.m_inhibit.insert state.saver.cookieSeed ⟨appName,reason⟩).find? cookie = none
    rw [OrderedMap.find?_insert,if_neg (Ne.symm other)]
    exact gone.entry
  · rw [saver]
    exact gone.number
  · rw [kept,logind,opened]
    exact gone.descriptor
  · rw [kept]
    exact flight

theorem Gone.granted (number : Nat) (request : Request) (fd : Int) (gone : Gone cookie state)
    (found : state.inFlight.find? number = some request)
    (fresh : fd = -1 ∨ 0 ≤ fd ∧ state.openFds.find? fd = none) (sound : Sound next)
    (saver : next.saver = state.saver.handleInhibited request.who request.why fd)
    (flight : next.inFlight = state.inFlight.erase number)
    (opened : next.openFds = state.dupped fd request) (asked : next.asked = state.asked)
    (held : next.logind.inhibitFds = state.logind.inhibitFds ++ [fd]) : Gone cookie next := by
  refine ⟨⟨?_,?_,?_⟩,sound,?_⟩
  · rw [saver,state.saver.handleInhibited_entries]
    exact gone.entry
  · rw [saver]
    rcases state.saver.handleInhibited_cases request.who request.why fd with ⟨_,same⟩ | ⟨first,entry,_,same⟩
    · rw [same]
      exact gone.number
    · have apart : cookie ≠ first := by
        intro equal
        rw [← equal,gone.entry] at entry
        cases entry
      rw [same]
      change (state.saver.m_inhibitFd.insert first fd).find? cookie = none
      rw [OrderedMap.find?_insert,if_neg apart]
      exact gone.number
  · intro other member owner open_
    rw [held,List.mem_append,List.mem_singleton] at member
    rw [opened] at open_
    rw [asked]
    rcases dupped_some state fd other request owner open_ with ⟨_,_,same⟩ | old
    · rw [same,(gone.sound.flight number request found).1]
      exact gone.flight number request found
    · have listed : other ∈ state.logind.inhibitFds := by
        rcases member with before | new
        · exact before
        · have valid := gone.sound.valid other owner old
          rw [new] at old valid
          rw [(fresh.resolve_left valid).2] at old
          cases old
      exact gone.descriptor other listed owner old
  · intro serial other present
    rw [flight] at present
    rw [asked]
    exact gone.flight serial other (state.inFlight.find?_erase_some number serial other present).2

theorem gone_step (reading : LockReading) (event : Event) (gone : Gone cookie state)
    (other : NotReturned cookie state event) (taken : step reading state event = some next) :
    Gone cookie next := by
  have sound := sound_step reading state next event gone.sound taken
  cases moves_of_step reading state next event taken with
  | unsent appName reason =>
    exact gone.addEntry cookie state _ appName reason none other rfl rfl sound rfl rfl gone.flight
  | sent appName reason log backend connected =>
    refine gone.addEntry cookie state _ appName reason (some state.issued) other rfl rfl sound rfl rfl ?_
    have after := gone.asking cookie state (some state.saver.cookieSeed) (idle appName reason) backend
    exact after.flight
  | unbound => exact { gone with sound := sound }
  | bound first fd =>
    have after := gone.uninhibitIdle cookie state fd
    refine { after with sound := sound, entry := ?_, number := ?_ }
    · change ((state.uninhibitIdle fd).saver.m_inhibit.erase first).find? cookie = none
      rw [OrderedMap.find?_erase,after.entry,ite_self]
    · change ((state.uninhibitIdle fd).saver.m_inhibitFd.erase first).find? cookie = none
      rw [OrderedMap.find?_erase,after.number,ite_self]
  | registered lookups =>
    have same := state.logind.registered_fds lookups
    exact { gone with sound := sound, descriptor := same ▸ gone.descriptor }
  | unregistered => exact { gone with sound := sound }
  | uninhibit fd backend =>
    rw [← uninhibitIdle_logind state fd backend]
    exact gone.uninhibitIdle cookie state fd
  | error serial request found =>
    refine { gone with sound := sound, flight := ?_ }
    intro number request present
    exact gone.flight number request (state.inFlight.find?_erase_some serial number request present).2
  | granted serial request fd log found backend fresh =>
    exact gone.granted cookie state _ serial request fd found fresh sound rfl rfl rfl rfl rfl
  | lock now next backend hears returned =>
    exact handleSessionLocked_keeps (Gone cookie)
      (fun state fd _ _ before => before.released cookie state fd)
      (fun state now before => { before with sound := before.sound.emitLocked state now })
      state next reading now gone returned
  | unlock backend =>
    have both := handleSessionUnlocked_keeps (fun next => next.backend = .logind ∧ Gone cookie next)
      (fun state call _ _ before => ⟨before.1,before.2.asking cookie state none call before.1⟩)
      (fun state before => ⟨before.1,{ before.2 with sound := before.2.sound.emitUnlocked state }⟩)
      state ⟨backend,gone⟩
    exact both.2

theorem gone_of_releasing (sound : Sound state) (releasing : Releasing state cookie) :
    Gone cookie (state.unInhibit cookie) := by
  obtain ⟨fd,bound,valid,flight,held⟩ := releasing
  have after := sound.uninhibitIdle state fd
  rw [unInhibit_bound state cookie fd bound valid]
  refine ⟨⟨?_,?_,?_⟩,{ after with },?_⟩
  · change ((state.uninhibitIdle fd).saver.m_inhibit.erase cookie).find? cookie = none
    rw [OrderedMap.find?_erase,if_pos rfl]
  · change ((state.uninhibitIdle fd).saver.m_inhibitFd.erase cookie).find? cookie = none
    rw [OrderedMap.find?_erase,if_pos rfl]
  · intro other member request open_ asked
    change other ∈ (state.uninhibitIdle fd).logind.inhibitFds at member
    change (state.uninhibitIdle fd).openFds.find? other = some request at open_
    change (state.uninhibitIdle fd).asked.find? cookie = some (some request.serial) at asked
    cases backend : state.backend with
    | fake =>
      have same : state.uninhibitIdle fd = state := by
        unfold Inhibition.uninhibitIdle
        rw [backend]
      rw [same] at member open_ asked
      have logind := (held other member request open_ asked).2.1
      rw [backend] at logind
      cases logind
    | logind =>
      rw [uninhibitIdle_logind state fd backend] at member open_ asked
      rcases uninhibit_cases state fd with ⟨refused,same⟩ | ⟨_,_,same⟩
      · rw [same] at member open_ asked
        obtain ⟨number,_,connected⟩ := held other member request open_ asked
        rcases refused with disconnected | foreign
        · rw [connected] at disconnected
          cases disconnected
        · exact foreign (number ▸ member)
      · rw [same] at member open_ asked
        obtain ⟨apart,before⟩ := released_open_some state fd other request open_
        exact apart (held other (List.mem_of_mem_erase member) request before asked).1
  · intro number request found
    obtain ⟨_,inFlight,asked,_⟩ := uninhibitIdle_frame state fd
    change (state.uninhibitIdle fd).inFlight.find? number = some request at found
    change (state.uninhibitIdle fd).asked.find? cookie ≠ _
    rw [inFlight] at found
    rw [asked]
    exact flight number request found

def refusals (state : Inhibition) : List Event :=
  state.inFlight.keys.map fun serial => .reply serial .error

theorem run_refusals (reading : LockReading) (fake : state.backend = .fake → state.inFlight = .empty) :
    run (step reading) state (refusals state) = some { state with inFlight := .empty } := by
  generalize listed : state.inFlight.entries = entries
  induction entries generalizing state with
  | nil =>
    have none : state.inFlight = .empty := OrderedMap.ext listed
    have empty : refusals state = [] := by
      unfold refusals
      rw [none]
      rfl
    rw [empty,← none]
    rfl
  | cons entry entries ih =>
    obtain ⟨serial,request⟩ := entry
    have backend : state.backend = .logind := by
      cases chosen : state.backend with
      | logind => rfl
      | fake =>
        rw [fake chosen] at listed
        cases listed
    let next := { state with inFlight := state.inFlight.erase serial }
    have rest : next.inFlight.entries = entries := state.inFlight.erase_first (serial,request) entries listed
    have found : state.inFlight.find? serial = some request := by
      rw [OrderedMap.find?_eq_some,listed]
      exact List.mem_cons_self ..
    have taken : step reading state (.reply serial .error) = some next := by
      simp only [step,backend,found]
      rfl
    have split : refusals state = .reply serial .error::refusals next := by
      unfold refusals OrderedMap.keys
      rw [listed,rest]
      rfl
    rw [split,run_cons,taken]
    refine ih next ?_ rest
    intro other
    rw [backend] at other
    cases other

theorem refusals_notReturned : ∀ event ∈ refusals state, ∀ other, NotReturned cookie other event := by
  intro event member other
  obtain ⟨serial,_,same⟩ := List.mem_map.mp member
  rw [← same]
  trivial

theorem step_unInhibit (reading : LockReading) :
    step reading state (.unInhibit cookie) = some (state.unInhibit cookie) := by
  unfold step
  cases state.backend <;> rfl

theorem released_after_refusals (reading : LockReading) (events : List Event)
    (replies : ∀ event ∈ events, ∃ serial answer, event = .reply serial answer)
    (ran : run (step reading) (state.unInhibit cookie) events = some next) (after : Sound next)
    (released : WillBeReleased reading state cookie) : Released { next with inFlight := .empty } cookie := by
  have silent (event : Event) (member : event ∈ events ++ refusals next) (other : Inhibition) :
      NotReturned cookie other event := by
    rcases List.mem_append.mp member with first | second
    · obtain ⟨serial,answer,same⟩ := replies event first
      rw [same]
      trivial
    · exact refusals_notReturned cookie next event second other
  have last := run_refusals next reading after.fake
  refine released (events ++ refusals next) _ (steps_of_all _ _ _ _ ?_) ?_ rfl
  · intro event member other
    rcases List.mem_cons.mp member with first | later
    · rw [first]
      trivial
    · exact silent event later other
  · rw [run_cons,step_unInhibit]
    change run (step reading) (state.unInhibit cookie) (events ++ refusals next) = _
    rw [run_append,ran]
    exact last

theorem bound_of_released (reading : LockReading) (sound : Sound state) (kept : LiveKept state)
    (live : cookie ∈ state.live) (released : WillBeReleased reading state cookie) :
    ∃ fd, state.saver.m_inhibitFd.find? cookie = some fd ∧ fd ≠ -1 := by
  have after := sound_step reading state _ _ sound (step_unInhibit cookie state reading)
  have gone := released_after_refusals cookie state _ reading [] (by simp) rfl after released
  rcases unInhibit_cases state cookie with ⟨_,same⟩ | ⟨fd,bound,valid,_⟩
  · obtain ⟨entry,present⟩ := kept cookie live
    have absent := gone.entry
    rw [same] at absent
    change state.saver.m_inhibit.find? cookie = none at absent
    rw [present] at absent
    cases absent
  · exact ⟨fd,bound,valid⟩

theorem exists_fresh (map : OrderedMap Int Request) :
    ∃ fd : Int, 0 ≤ fd ∧ fd ≠ -1 ∧ map.find? fd = none := by
  obtain ⟨number,absent⟩ := Infinite.exists_notMem_finset (map.keys.map Int.toNat).toFinset
  refine ⟨number,by omega,by omega,?_⟩
  rw [OrderedMap.find?_eq_none]
  intro present
  apply absent
  simp only [List.mem_toFinset,List.mem_map]
  exact ⟨number,present,rfl⟩

theorem answered_of_released (reading : LockReading) (sound : Sound state)
    (released : WillBeReleased reading state cookie) (number : Nat) (request : Request)
    (found : state.inFlight.find? number = some request) :
    state.asked.find? cookie ≠ some (some number) := by
  intro asked
  have frame : (state.unInhibit cookie).backend = state.backend ∧
      (state.unInhibit cookie).inFlight = state.inFlight ∧
      (state.unInhibit cookie).asked = state.asked := by
    rcases unInhibit_cases state cookie with ⟨_,same⟩ | ⟨fd,_,_,same⟩
    · rw [same]
      exact ⟨rfl,rfl,rfl⟩
    · obtain ⟨backend,flight,asked,_⟩ := uninhibitIdle_frame state fd
      rw [same]
      exact ⟨backend,flight,asked⟩
  have backend : state.backend = .logind := by
    cases chosen : state.backend with
    | logind => rfl
    | fake =>
      rw [sound.fake chosen] at found
      cases found
  let after := state.unInhibit cookie
  have pending : after.inFlight.find? number = some request := by rw [frame.2.1,found]
  obtain ⟨fd,positive,valid,fresh⟩ := exists_fresh after.openFds
  have allowed : after.dupAllowed fd = true := by simp [dupAllowed,positive,fresh]
  have taken : step reading after (.reply number (.granted fd)) =
      some (after.deliver number request (.granted fd)) := by
    simp only [step,frame.1,after,backend,pending]
    exact if_pos allowed
  have sound_after := sound_step reading state after _ sound (step_unInhibit cookie state reading)
  have final := sound_step reading after _ _ sound_after taken
  have ran : run (step reading) after [.reply number (.granted fd)] =
      some (after.deliver number request (.granted fd)) := by
    rw [run_cons,taken]
    rfl
  have gone := released_after_refusals cookie state _ reading [.reply number (.granted fd)]
    (by simp) ran final released
  rw [deliver_granted] at gone
  refine gone.descriptor fd ?_ request (dupped_new after fd request valid) ?_
  · exact List.mem_append_right _ (List.mem_singleton_self fd)
  · change after.asked.find? cookie = _
    rw [frame.2.2,asked,(sound.flight number request found).1]

theorem held_of_released (reading : LockReading) (sound : Sound state) (fd : Int)
    (bound : state.saver.m_inhibitFd.find? cookie = some fd) (valid : fd ≠ -1)
    (released : WillBeReleased reading state cookie) (other : Int)
    (member : other ∈ state.logind.inhibitFds) (request : Request)
    (open_ : state.openFds.find? other = some request)
    (asked : state.asked.find? cookie = some (some request.serial)) :
    other = fd ∧ state.backend = .logind ∧ state.logind.isConnected = true := by
  have after := sound_step reading state _ _ sound (step_unInhibit cookie state reading)
  have gone := released_after_refusals cookie state _ reading [] (by simp) rfl after released
  rw [unInhibit_bound state cookie fd bound valid] at gone
  have descriptor := gone.descriptor
  change ∀ number ∈ (state.uninhibitIdle fd).logind.inhibitFds, ∀ owner,
    (state.uninhibitIdle fd).openFds.find? number = some owner →
      (state.uninhibitIdle fd).asked.find? cookie ≠ some (some owner.serial) at descriptor
  cases backend : state.backend with
  | fake =>
    have same : state.uninhibitIdle fd = state := by
      unfold Inhibition.uninhibitIdle
      rw [backend]
    rw [same] at descriptor
    exact absurd asked (descriptor other member request open_)
  | logind =>
    rw [uninhibitIdle_logind state fd backend] at descriptor
    rcases uninhibit_cases state fd with ⟨_,same⟩ | ⟨connected,_,same⟩
    · rw [same] at descriptor
      exact absurd asked (descriptor other member request open_)
    · rw [same] at descriptor
      by_cases equal : other = fd
      · exact ⟨equal,rfl,connected⟩
      · have still := (List.mem_erase_of_ne equal).mpr member
        have opened := (released_open state fd other equal).trans open_
        exact absurd asked (descriptor other still request opened)

end

/-- Over every run of either backend, a cookie that a client has is released by
giving it back, whatever happens then, exactly when it is bound, its request has
been answered, and what is held for that request is the number it is bound to,
with logind connected. -/
theorem willBeReleased_iff (backend : SessionBackend) (reading : LockReading) (before : List Event)
    (state : Inhibition) (cookie : Nat)
    (ran : run (step reading) (constructed backend) before = some state)
    (live : cookie ∈ state.live) : WillBeReleased reading state cookie ↔ Releasing state cookie := by
  have both := run_invariant (step reading) (fun state _ => Sound state ∧ LiveKept state)
    (fun state event _ next holds taken => ⟨sound_step reading state next event holds.1 taken,
      liveKept_step reading state next event holds.2 taken⟩)
    (constructed backend) state before ⟨sound_constructed backend,liveKept_constructed backend⟩ ran
  obtain ⟨sound,kept⟩ := both
  refine ⟨?_,?_⟩
  · intro released
    obtain ⟨fd,bound,valid⟩ := bound_of_released cookie state reading sound kept live released
    exact ⟨fd,bound,valid,answered_of_released cookie state reading sound released,
      held_of_released cookie state reading sound fd bound valid released⟩
  · intro releasing events final steps ran _
    obtain ⟨next,taken,rest⟩ := run_cons_some (step reading) state final _ events ran
    have first : state.unInhibit cookie = next :=
      Option.some.inj ((step_unInhibit cookie state reading).symm.trans taken)
    have gone : Gone cookie next := first ▸ gone_of_releasing cookie state sound releasing
    have last := run_steps_invariant (step reading) (fun state _ => Gone cookie state) (NotReturned cookie)
      (fun state event _ next before other taken => gone_step cookie state next reading event before other taken)
      next final events gone (steps next taken).2 rest
    exact last.toReleased

def overtaking : List Event := [.serviceRegistered graphicalSession,.inhibit "player" "film",
  .unInhibit 0,.reply 0 (.granted 5)]

theorem overtaken_reply_held : ∃ final,
    run (step (.asWritten 0)) (constructed .logind) overtaking = some final ∧
      final.inFlight = .empty ∧ ¬Released final 0 := by
  refine ⟨_,rfl,rfl,?_⟩
  intro released
  cases released.entry

def patient : List Event := [.serviceRegistered graphicalSession,.inhibit "player" "film",
  .reply 0 (.granted 5)]

theorem answered_released : ∃ state,
    run (step (.asWritten 0)) (constructed .logind) patient = some state ∧
      WillBeReleased (.asWritten 0) state 0 := by
  refine ⟨_,rfl,(willBeReleased_iff .logind (.asWritten 0) patient _ 0 rfl (by decide)).mpr ?_⟩
  refine ⟨5,rfl,by decide,?_,?_⟩
  · intro number request found
    cases found
  · intro other member request _ _
    exact ⟨List.mem_singleton.mp member,rfl,rfl⟩

end LiriSession.Inhibition
