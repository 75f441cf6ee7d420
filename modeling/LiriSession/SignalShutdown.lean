import LiriSession.SessionShutdown
import LiriSession.SignalWatcher

/-! The session and the watcher that it makes for itself: each SIGINT or SIGTERM that the
process catches leads to one shutdown, whatever comes in between. -/
namespace LiriSession
open Library

/-- The session in its main loop, with the signals of its process. The other triggers of
`Session::shutdown` that have been delivered count what they called for. -/
structure SessionSignals where
  session : Session
  signals : UnixSignals
  others : Nat := 0

namespace SessionSignals

def sigint : BitVec 32 := 2#32

def sigterm : BitVec 32 := 15#32

/-- What the constructor of `Session` does about signals; `sigaction` may refuse either. -/
def constructor (session : Session) (capacity : Nat) (paired interrupts terminates : Bool) :
    SessionSignals where
  session := session
  signals := (({ capacity : UnixSignals }.construct paired).watchForSignal 0 sigint
    interrupts).watchForSignal 0 sigterm terminates

inductive Event
  | signalHandler (signal : BitVec 32)
  | handleNotify
  | logout
  | shutdownRequested (module : QObject)

/-- `unixSignal` is connected to `Session::shutdown`. -/
def step (behaviour : Session.Behaviour) (state : SessionSignals) : Event → Option SessionSignals
  | .signalHandler signal =>
    (UnixSignals.step state.signals (.signalHandler signal)).map fun signals => { state with signals }
  | .handleNotify =>
    (UnixSignals.step state.signals (.handleNotify 0)).map fun signals =>
      { state with signals, session := state.session.shutdown behaviour }
  | .logout => some { state with
      session := state.session.deliver behaviour .logout
      others := state.others + 1 }
  | .shutdownRequested module => some { state with
      session := state.session.deliver behaviour (.shutdownRequested module)
      others := state.others + state.session.connected.count module }

/-- The signals that the session has been told of. -/
def reported (state : SessionSignals) : List (BitVec 32) :=
  (state.signals.watchers[0]?).elim [] UnixSignalWatcher.emitted

/-- Those that its watcher is to report: all that are caught, if it has a socket pair. -/
def owed (paired : Bool) (state : SessionSignals) : Nat :=
  if paired then state.signals.caught.length else 0

/-- Each shutdown has its cause, and once the watcher has read what there is to read each
signal that was caught has had its shutdown. -/
structure Answers (behaviour : Session.Behaviour) (session : Session) (paired : Bool)
    (state : SessionSignals) : Prop where
  caused : state.session = (Session.shutdown behaviour)^[state.reported.length + state.others] session
  only : ∀ entry ∈ state.signals.caught, entry.2 = sigint ∨ entry.2 = sigterm
  answered : ∀ events final, (∀ event ∈ events, event = .handleNotify) →
    run (step behaviour) state events = some final → Stuck (step behaviour) (· = .handleNotify) final →
      final.session = (Session.shutdown behaviour)^[owed paired state + state.others] session
  ends : ∃ events final, (∀ event ∈ events, event = .handleNotify) ∧
    run (step behaviour) state events = some final ∧ Stuck (step behaviour) (· = .handleNotify) final

/-- The session's own watcher is the only one in its process. -/
structure Sound (behaviour : Session.Behaviour) (session : Session) (paired : Bool)
    (state : SessionSignals) : Prop where
  relays : UnixSignals.Relays state.signals
  watcher : ∃ found, state.signals.watchers = [found] ∧ found.alive = true ∧ found.notifier = paired
  pair : state.signals.sockpair = if paired then some 0 else none
  written : ∀ entry ∈ state.signals.caught, entry.1 = if paired then some 0 else none
  handled : ∀ signal ∈ state.signals.handled, signal = sigint ∨ signal = sigterm
  only : ∀ entry ∈ state.signals.caught, entry.2 = sigint ∨ entry.2 = sigterm
  caused : state.session = (Session.shutdown behaviour)^[state.reported.length + state.others] session

/-- What one event can do. -/
inductive Moves (behaviour : Session.Behaviour) (state : SessionSignals) : Event → SessionSignals → Prop
  | caught (signal : BitVec 32) (handled : signal ∈ state.signals.handled)
      (taken : UnixSignals.step state.signals (.signalHandler signal) =
        some (state.signals.signalHandler signal)) : Moves behaviour state (.signalHandler signal)
      { state with signals := state.signals.signalHandler signal }
  | notified (active : (state.signals.watchers[0]?).any UnixSignals.activated = true)
      (taken : UnixSignals.step state.signals (.handleNotify 0) =
        some (state.signals.modify 0 UnixSignals._q_handleNotify)) : Moves behaviour state .handleNotify
      { state with
        signals := state.signals.modify 0 UnixSignals._q_handleNotify
        session := state.session.shutdown behaviour }
  | logout : Moves behaviour state .logout { state with
      session := state.session.deliver behaviour .logout
      others := state.others + 1 }
  | requested (module : QObject) : Moves behaviour state (.shutdownRequested module) { state with
      session := state.session.deliver behaviour (.shutdownRequested module)
      others := state.others + state.session.connected.count module }

theorem moves_of_step (behaviour : Session.Behaviour) (state next : SessionSignals) (event : Event)
    (taken : step behaviour state event = some next) : Moves behaviour state event next := by
  cases event with
  | signalHandler signal =>
    obtain ⟨signals,moved,same⟩ := Option.map_eq_some_iff.mp taken
    subst same
    have whole := moved
    obtain ⟨allowed,result⟩ := Option.ite_none_right_eq_some.mp moved
    cases Option.some.inj result
    have handled := ((Bool.and_eq_true ..).mp allowed).1
    exact .caught signal (of_decide_eq_true handled) whole
  | handleNotify =>
    obtain ⟨signals,moved,same⟩ := Option.map_eq_some_iff.mp taken
    subst same
    have whole := moved
    obtain ⟨active,result⟩ := Option.ite_none_right_eq_some.mp moved
    cases Option.some.inj result
    exact .notified active whole
  | logout =>
    cases taken
    exact .logout
  | shutdownRequested module =>
    cases taken
    exact .requested module

theorem reported_of_watchers (state : SessionSignals) (found : UnixSignalWatcher)
    (only : state.signals.watchers = [found]) : state.reported = found.emitted := by
  rw [reported,only]
  rfl

theorem caught_watchers (state : SessionSignals) (found : UnixSignalWatcher) (paired : Bool)
    (only : state.signals.watchers = [found]) (pair : state.signals.sockpair = if paired then some 0 else none)
    (signal : BitVec 32) : (state.signals.signalHandler signal).watchers = [{ found with
      unread := if paired then found.unread ++ intFormat.encode signal else found.unread }] := by
  cases paired with
  | true =>
    have named : state.signals.sockpair = some 0 := pair
    simp only [UnixSignals.signalHandler,UnixSignals.modify,named,only]
    rfl
  | false =>
    have unnamed : state.signals.sockpair = none := pair
    simp only [UnixSignals.signalHandler,unnamed,only]
    rfl

theorem signalHandler_frame (signals : UnixSignals) (signal : BitVec 32) :
    (signals.signalHandler signal).sockpair = signals.sockpair ∧
      (signals.signalHandler signal).handled = signals.handled ∧
      (signals.signalHandler signal).caught = signals.caught ++ [(signals.sockpair,signal)] := by
  cases pair : signals.sockpair <;> simp [UnixSignals.signalHandler,UnixSignals.modify,pair]

theorem notified_watchers (state : SessionSignals) (found : UnixSignalWatcher)
    (only : state.signals.watchers = [found]) :
    (state.signals.modify 0 UnixSignals._q_handleNotify).watchers = [UnixSignals._q_handleNotify found] := by
  rw [UnixSignals.modify,only]
  rfl

/-- The triggers that are delivered at once call the slot as often as they count. -/
theorem delivered (behaviour : Session.Behaviour) (session : Session) (state : SessionSignals)
    (caused : state.session =
      (Session.shutdown behaviour)^[state.reported.length + state.others] session)
    (trigger : Session.ShutdownTrigger) : state.session.deliver behaviour trigger =
      (Session.shutdown behaviour)^[state.reported.length +
        (state.others + Session.invocations state.session.connected trigger)] session := by
  have sum : state.reported.length + (state.others + Session.invocations state.session.connected trigger) =
      Session.invocations state.session.connected trigger + (state.reported.length + state.others) := by
    omega
  rw [sum,Function.iterate_add_apply,← caused]
  rfl

theorem sound_step (behaviour : Session.Behaviour) (session : Session) (paired : Bool)
    (state next : SessionSignals) (event : Event) (sound : Sound behaviour session paired state)
    (taken : step behaviour state event = some next) : Sound behaviour session paired next := by
  obtain ⟨found,watchers,alive,notifier⟩ := sound.watcher
  cases moves_of_step behaviour state next event taken with
  | caught signal handled moved =>
    obtain ⟨pair,handlers,caught⟩ := signalHandler_frame state.signals signal
    have after := caught_watchers state found paired watchers sound.pair signal
    have told : reported { state with signals := state.signals.signalHandler signal } = state.reported := by
      rw [reported_of_watchers _ _ after,reported_of_watchers state found watchers]
    refine ⟨UnixSignals.relays_step state.signals _ _ sound.relays moved,⟨_,after,alive,notifier⟩,
      pair.trans sound.pair,?_,?_,?_,?_⟩
    · intro entry member
      rw [caught] at member
      rcases List.mem_append.mp member with before | new
      · exact sound.written entry before
      · exact List.mem_singleton.mp new ▸ sound.pair
    · intro other member
      exact sound.handled other (handlers ▸ member)
    · intro entry member
      rw [caught] at member
      rcases List.mem_append.mp member with before | new
      · exact sound.only entry before
      · exact List.mem_singleton.mp new ▸ sound.handled signal handled
    · rw [told]
      exact sound.caused
  | notified active moved =>
    have after := notified_watchers state found watchers
    have told : reported { state with
        signals := state.signals.modify 0 UnixSignals._q_handleNotify
        session := state.session.shutdown behaviour } = state.reported ++
          [intFormat.decode (found.unread.take intFormat.width)] := by
      rw [reported_of_watchers _ _ after,reported_of_watchers state found watchers]
      rfl
    refine ⟨UnixSignals.relays_step state.signals _ _ sound.relays moved,⟨_,after,alive,notifier⟩,
      sound.pair,sound.written,sound.handled,sound.only,?_⟩
    rw [told,List.length_append,List.length_singleton,Nat.add_right_comm,Function.iterate_succ_apply',
      ← sound.caused]
  | logout =>
    exact ⟨sound.relays,⟨found,watchers,alive,notifier⟩,sound.pair,sound.written,sound.handled,sound.only,
      delivered behaviour session state sound.caused .logout⟩
  | requested module =>
    exact ⟨sound.relays,⟨found,watchers,alive,notifier⟩,sound.pair,sound.written,sound.handled,sound.only,
      delivered behaviour session state sound.caused (.shutdownRequested module)⟩

theorem watchForSignal_handled (signals : UnixSignals) (watcher : Nat) (signal other : BitVec 32)
    (accepted : Bool) (member : other ∈ (signals.watchForSignal watcher signal accepted).handled) :
    other ∈ signals.handled ∨ other = signal := by
  unfold UnixSignals.watchForSignal at member
  split at member
  next => exact .inl member
  next =>
    split at member
    next => exact .inl member
    next =>
      split at member
      next =>
        dsimp only at member
        split at member
        next => exact .inl member
        next => exact (List.mem_append.mp member).imp_right List.mem_singleton.mp
      next => exact .inl member

theorem sound_constructor (behaviour : Session.Behaviour) (session : Session) (capacity : Nat)
    (paired interrupts terminates : Bool) : Sound behaviour session paired
      (constructor session capacity paired interrupts terminates) := by
  have relays : UnixSignals.Relays (constructor session capacity paired interrupts terminates).signals :=
    UnixSignals.relays_watch _ (UnixSignals.relays_watch _ (UnixSignals.relays_construct _
      (UnixSignals.relays_start capacity) paired) 0 sigint interrupts) 0 sigterm terminates
  refine ⟨relays,?_,?_,?_,?_,?_,?_⟩
  · cases interrupts <;> cases terminates <;> exact ⟨_,rfl,rfl,rfl⟩
  · cases interrupts <;> cases terminates <;> rfl
  · cases interrupts <;> cases terminates <;> exact fun _ member => absurd member List.not_mem_nil
  · intro signal member
    rcases watchForSignal_handled _ 0 sigterm signal terminates member with earlier | terminate
    · rcases watchForSignal_handled _ 0 sigint signal interrupts earlier with before | interrupt
      · cases before
      · exact .inl interrupt
    · exact .inr terminate
  · cases interrupts <;> cases terminates <;> exact fun _ member => absurd member List.not_mem_nil
  · cases interrupts <;> cases terminates <;> rfl

/-- What the watcher has to read goes down with each word. -/
def unread (state : SessionSignals) : Nat :=
  (state.signals.watchers[0]?).elim 0 fun found => found.unread.length

theorem settling (behaviour : Session.Behaviour) : Settling (step behaviour) (· = .handleNotify) unread
    fun state => (state.signals.watchers[0]?).any UnixSignals.activated = false := by
  refine ⟨?_,?_⟩
  · intro state event next own taken
    subst own
    cases moves_of_step behaviour state next .handleNotify taken with
    | notified active moved =>
      obtain ⟨found,there,waits⟩ := (Option.any_eq_true ..).mp active
      have waiting : 0 < found.unread.length := by
        have some := ((Bool.and_eq_true ..).mp waits).2
        exact List.length_pos_iff.mpr (by simpa using some)
      have positive := intFormat.width_pos
      have after := UnixSignals.modify_get state.signals 0 0 UnixSignals._q_handleNotify found there
      rw [unread,unread,after,there,if_pos rfl]
      simp only [Option.elim_some,UnixSignals._q_handleNotify,List.length_drop]
      omega
  · intro state active
    refine ⟨.handleNotify,{ state with
      signals := state.signals.modify 0 UnixSignals._q_handleNotify
      session := state.session.shutdown behaviour },rfl,?_⟩
    rw [step,UnixSignals.step,if_pos (by simpa using active)]
    rfl

/-- The watcher reads on without any signal or trigger. -/
theorem notified_frame (behaviour : Session.Behaviour) (start final : SessionSignals)
    (events : List Event) (only : ∀ event ∈ events, event = .handleNotify)
    (ran : run (step behaviour) start events = some final) :
    final.signals.caught = start.signals.caught ∧ final.others = start.others := by
  induction events generalizing start with
  | nil =>
    cases ran
    exact ⟨rfl,rfl⟩
  | cons event events ih =>
    obtain ⟨first,later⟩ := List.forall_mem_cons.mp only
    obtain ⟨next,taken,rest⟩ := run_cons_some (step behaviour) start final event events ran
    subst first
    have same : next.signals.caught = start.signals.caught ∧ next.others = start.others := by
      cases moves_of_step behaviour start next .handleNotify taken with
      | notified => exact ⟨rfl,rfl⟩
    obtain ⟨caught,others⟩ := ih next later rest
    exact ⟨caught.trans same.1,others.trans same.2⟩

theorem Sound.read (behaviour : Session.Behaviour) (session : Session) (paired : Bool)
    (state : SessionSignals) (sound : Sound behaviour session paired state)
    (silent : (state.signals.watchers[0]?).any UnixSignals.activated = false) :
    state.reported.length = owed paired state := by
  obtain ⟨found,watchers,alive,notifier⟩ := sound.watcher
  obtain ⟨words,unread,emitted⟩ := sound.relays.relayed 0 found (by rw [watchers]; rfl)
  rw [reported_of_watchers state found watchers]
  cases paired with
  | true =>
    have read : found.unread = [] := by
      rw [watchers] at silent
      simpa [UnixSignals.activated,alive,notifier] using silent
    rw [read] at unread
    rw [(intFormat.encodeAll_eq_nil_iff words).mp unread.symm,List.append_nil] at emitted
    rw [emitted,UnixSignals.caughtBy,List.length_filterMap_eq_countP]
    apply List.countP_eq_length.mpr
    intro entry member
    have written : entry.1 = some 0 := sound.written entry member
    rw [if_pos written]
    rfl
  | false =>
    have none : state.signals.caughtBy 0 = [] := by
      apply List.filterMap_eq_nil_iff.mpr
      intro entry member
      rw [sound.written entry member]
      exact if_neg (by simp)
    rw [none] at emitted
    rw [(List.append_eq_nil_iff.mp emitted).1]
    rfl

theorem run_sound (behaviour : Session.Behaviour) (session : Session) (paired : Bool)
    (start final : SessionSignals) (events : List Event) (sound : Sound behaviour session paired start)
    (ran : run (step behaviour) start events = some final) : Sound behaviour session paired final :=
  run_invariant (step behaviour) (fun state _ => Sound behaviour session paired state)
    (fun state event _ next sound taken => sound_step behaviour session paired state next event sound taken)
    start final events sound ran

theorem Sound.answers (behaviour : Session.Behaviour) (session : Session) (paired : Bool)
    (state : SessionSignals) (sound : Sound behaviour session paired state) :
    Answers behaviour session paired state := by
  refine ⟨sound.caused,sound.only,?_,?_⟩
  · intro events final only ran stuck
    have after := run_sound behaviour session paired state final events sound ran
    obtain ⟨caught,others⟩ := notified_frame behaviour state final events only ran
    have read := Sound.read behaviour session paired final after
      ((settling behaviour).stuck_rest final stuck)
    have cause := after.caused
    rw [read,owed,caught,others] at cause
    exact cause
  · obtain ⟨events,final,only,ran,silent⟩ := (settling behaviour).reaches state
    refine ⟨events,final,only,ran,?_⟩
    intro event own
    subst own
    rw [step,UnixSignals.step,if_neg (by simpa using silent)]
    rfl

/-- In every run of the session's main loop each shutdown has a cause of its own, and when
the watcher has read what was written each signal that was caught has had one shutdown. -/
theorem answers_along (behaviour : Session.Behaviour) (session : Session) (capacity : Nat)
    (paired interrupts terminates : Bool) (events : List Event) :
    Along (step behaviour) (Answers behaviour session paired)
      (constructor session capacity paired interrupts terminates) events := by
  apply along_of_steps (step behaviour) (fun state _ => Sound behaviour session paired state)
    (Answers behaviour session paired) fun _ _ => True
  · exact fun state event _ next sound _ taken =>
      sound_step behaviour session paired state next event sound taken
  · exact fun state _ sound => sound.answers
  · exact sound_constructor behaviour session capacity paired interrupts terminates
  · exact steps_of_all (step behaviour) _ _ events fun _ _ _ => trivial

end SessionSignals

end LiriSession
