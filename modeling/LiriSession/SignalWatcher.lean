import LiriSession.Library.Framing
import LiriSession.Library.Settling
import Mathlib.Data.List.Nodup

/-! Unix signals on their way into the event loop: the handler writes the number of a
signal into a socket pair, and the watcher that made the pair reads it there. The pair is a
static member, so that all handlers of the process write into the one that was made last. -/
namespace LiriSession
open Library

/-- An `int` in memory, lowest byte first. -/
def intBytes (word : BitVec 32) : List (BitVec 8) :=
  [word.extractLsb' 0 8,word.extractLsb' 8 8,word.extractLsb' 16 8,word.extractLsb' 24 8]

def intOfBytes : List (BitVec 8) → BitVec 32
  | [first,second,third,fourth] => fourth ++ third ++ second ++ first
  | _ => 0#32

theorem intOfBytes_intBytes (word : BitVec 32) : intOfBytes (intBytes word) = word := by
  apply BitVec.eq_of_getLsbD_eq
  intro i bound
  simp only [intOfBytes,intBytes,BitVec.getLsbD_append,BitVec.getLsbD_extractLsb']
  grind

def intFormat : WordFormat (BitVec 8) (BitVec 32) where
  width := 4
  encode := intBytes
  decode := intOfBytes
  width_pos := by decide
  encode_length _ := rfl
  decode_encode := intOfBytes_intBytes

/-- A watcher, with the bytes in the socket pair that it has made and the signals that it
has emitted. -/
structure UnixSignalWatcher where
  notifier : Bool
  watchedSignals : List (BitVec 32) := []
  unread : List (BitVec 8) := []
  emitted : List (BitVec 32) := []
  alive : Bool := true

/-- The watchers of a process in the order in which they were made, the one whose pair the
static member names, the signals that have the handler, and those that it was called with,
each with the pair that was named at the time. A pair holds a limited number of bytes. -/
structure UnixSignals where
  capacity : Nat
  watchers : List UnixSignalWatcher := []
  sockpair : Option Nat := none
  handled : List (BitVec 32) := []
  caught : List (Option Nat × BitVec 32) := []

namespace UnixSignals

inductive Event
  | construct (paired : Bool)
  | destroy (watcher : Nat)
  | watchForSignal (watcher : Nat) (signal : BitVec 32) (accepted : Bool)
  | signalHandler (signal : BitVec 32)
  | handleNotify (watcher : Nat)

def modify (signals : UnixSignals) (watcher : Nat) (change : UnixSignalWatcher → UnixSignalWatcher) :
    UnixSignals := { signals with watchers := signals.watchers.modify watcher change }

/-- Without a socket pair the watcher has no notifier, and the static member stays. -/
def construct (signals : UnixSignals) (paired : Bool) : UnixSignals :=
  { signals with
    watchers := signals.watchers ++ [{ notifier := paired }]
    sockpair := if paired then some signals.watchers.length else signals.sockpair }

def watchForSignal (signals : UnixSignals) (watcher : Nat) (signal : BitVec 32) (accepted : Bool) :
    UnixSignals :=
  match signals.watchers[watcher]? with
  | none => signals
  | some found =>
    if signal ∈ found.watchedSignals then signals
    else if accepted then
      { signals.modify watcher fun found =>
          { found with watchedSignals := found.watchedSignals ++ [signal] } with
        handled := if signal ∈ signals.handled then signals.handled else signals.handled ++ [signal] }
    else signals

/-- The bytes in the pair that the static member names; before any is made it names the
standard input. -/
def room (signals : UnixSignals) : Bool :=
  (signals.sockpair.bind (signals.watchers[·]?)).all fun found =>
    found.unread.length + intFormat.width ≤ signals.capacity

def signalHandler (signals : UnixSignals) (signal : BitVec 32) : UnixSignals :=
  let signals := { signals with caught := signals.caught ++ [(signals.sockpair,signal)] }
  match signals.sockpair with
  | none => signals
  | some watcher => signals.modify watcher fun found =>
      { found with unread := found.unread ++ intFormat.encode signal }

def _q_handleNotify (found : UnixSignalWatcher) : UnixSignalWatcher :=
  { found with
    unread := found.unread.drop intFormat.width
    emitted := found.emitted ++ [intFormat.decode (found.unread.take intFormat.width)] }

/-- The notifier is activated while there is something to read. -/
def activated (found : UnixSignalWatcher) : Bool :=
  found.alive && found.notifier && !found.unread.isEmpty

/-- A handler that finds no room in the pair never returns: the reader is its own thread. -/
def step (signals : UnixSignals) : Event → Option UnixSignals
  | .construct paired => some (signals.construct paired)
  | .destroy watcher => some (signals.modify watcher fun found => { found with alive := false })
  | .watchForSignal watcher signal accepted => some (signals.watchForSignal watcher signal accepted)
  | .signalHandler signal =>
    if signal ∈ signals.handled && signals.room then some (signals.signalHandler signal) else none
  | .handleNotify watcher =>
    if (signals.watchers[watcher]?).any activated then some (signals.modify watcher _q_handleNotify) else none

/-- The signals that were caught while the pair of this watcher was the one to write to. -/
def caughtBy (signals : UnixSignals) (watcher : Nat) : List (BitVec 32) :=
  signals.caught.filterMap fun entry => if entry.1 = some watcher then some entry.2 else none

/-- What a watcher has been sent, in order: what it has emitted and what it still has to
read, and no more. -/
def Relayed (signals : UnixSignals) (watcher : Nat) (found : UnixSignalWatcher) : Prop :=
  ∃ words, found.unread = intFormat.encodeAll words ∧ found.emitted ++ words = signals.caughtBy watcher

/-- Nothing that was caught is lost, doubled or reordered on the way to the watcher whose
pair was made last, and a signal has the handler if some watcher, a destroyed one included,
has come to watch for it: no handler is ever taken back. -/
structure Relays (signals : UnixSignals) : Prop where
  relayed : ∀ watcher found, signals.watchers[watcher]? = some found → signals.Relayed watcher found
  last : ∀ watcher, signals.sockpair = some watcher →
    (∃ found, signals.watchers[watcher]? = some found ∧ found.notifier = true) ∧
      ∀ later found, watcher < later → signals.watchers[later]? = some found → found.notifier = false
  unnamed : signals.sockpair = none → ∀ found ∈ signals.watchers, found.notifier = false
  distinct : ∀ found ∈ signals.watchers, found.watchedSignals.Nodup
  handled : ∀ signal, signal ∈ signals.handled ↔
    ∃ found ∈ signals.watchers, signal ∈ found.watchedSignals
  named : ∀ entry ∈ signals.caught, ∀ watcher, entry.1 = some watcher → watcher < signals.watchers.length

theorem modify_some (signals : UnixSignals) (watcher other : Nat)
    (change : UnixSignalWatcher → UnixSignalWatcher) (after : UnixSignalWatcher)
    (found : (signals.modify watcher change).watchers[other]? = some after) :
    ∃ before, signals.watchers[other]? = some before ∧
      after = if watcher = other then change before else before := by
  unfold modify at found
  rw [List.getElem?_modify] at found
  obtain ⟨before,listed,same⟩ := Option.map_eq_some_iff.mp found
  refine ⟨before,listed,same.symm.trans ?_⟩
  split <;> rfl

theorem modify_get (signals : UnixSignals) (watcher other : Nat)
    (change : UnixSignalWatcher → UnixSignalWatcher) (before : UnixSignalWatcher)
    (listed : signals.watchers[other]? = some before) : (signals.modify watcher change).watchers[other]? =
      some (if watcher = other then change before else before) := by
  rw [modify,List.getElem?_modify,listed]
  rfl

theorem modify_watched (signals : UnixSignals) (watcher : Nat)
    (change : UnixSignalWatcher → UnixSignalWatcher)
    (same : ∀ found, (change found).watchedSignals = found.watchedSignals) (signal : BitVec 32) :
    (∃ found ∈ (signals.modify watcher change).watchers, signal ∈ found.watchedSignals) ↔
      ∃ found ∈ signals.watchers, signal ∈ found.watchedSignals := by
  apply Iff.intro
  · rintro ⟨after,member,watched⟩
    obtain ⟨other,found⟩ := List.mem_iff_getElem?.mp member
    obtain ⟨before,listed,rfl⟩ := modify_some signals watcher other change after found
    refine ⟨before,List.mem_of_getElem? listed,?_⟩
    split at watched
    · exact same before ▸ watched
    · exact watched
  · rintro ⟨before,member,watched⟩
    obtain ⟨other,found⟩ := List.mem_iff_getElem?.mp member
    refine ⟨_,List.mem_of_getElem? (modify_get signals watcher other change before found),?_⟩
    · split
      · exact (same before).symm ▸ watched
      · exact watched

/-- One watcher changes, but not whether it has a pair. -/
theorem Relays.change (signals : UnixSignals) (relays : Relays signals) (watcher : Nat)
    (change : UnixSignalWatcher → UnixSignalWatcher) (handled : List (BitVec 32))
    (caught : List (Option Nat × BitVec 32)) (notifier : ∀ found, (change found).notifier = found.notifier)
    (distinct : ∀ found, signals.watchers[watcher]? = some found → (change found).watchedSignals.Nodup)
    (watched : ∀ signal, signal ∈ handled ↔
      ∃ found ∈ (signals.modify watcher change).watchers, signal ∈ found.watchedSignals)
    (named : ∀ entry ∈ caught, ∀ watcher, entry.1 = some watcher → watcher < signals.watchers.length)
    (relayed : ∀ other found, signals.watchers[other]? = some found →
      Relayed { signals with caught } other (if watcher = other then change found else found)) :
    Relays { signals.modify watcher change with handled, caught } := by
  refine ⟨?_,?_,?_,?_,watched,?_⟩
  · intro other after found
    obtain ⟨before,listed,rfl⟩ := modify_some signals watcher other change after found
    exact relayed other before listed
  · intro named paired
    obtain ⟨⟨found,listed,made⟩,later⟩ := relays.last named paired
    refine ⟨⟨_,modify_get signals watcher named change found listed,?_⟩,?_⟩
    · split
      · exact (notifier found).trans made
      · exact made
    · intro other after behind found
      obtain ⟨before,listed,rfl⟩ := modify_some signals watcher other change after found
      split
      · exact (notifier before).trans (later other before behind listed)
      · exact later other before behind listed
  · intro unnamed after member
    obtain ⟨other,found⟩ := List.mem_iff_getElem?.mp member
    obtain ⟨before,listed,rfl⟩ := modify_some signals watcher other change after found
    have unpaired := relays.unnamed unnamed before (List.mem_of_getElem? listed)
    split
    · exact (notifier before).trans unpaired
    · exact unpaired
  · intro after member
    obtain ⟨other,found⟩ := List.mem_iff_getElem?.mp member
    obtain ⟨before,listed,rfl⟩ := modify_some signals watcher other change after found
    split
    next same => exact distinct before (same ▸ listed)
    next => exact relays.distinct before (List.mem_of_getElem? listed)
  · intro entry member other pair
    rw [modify,List.length_modify]
    exact named entry member other pair

/-- What a watcher does with its bytes leaves the handlers as they are. -/
theorem Relays.bytes (signals : UnixSignals) (relays : Relays signals) (watcher : Nat)
    (change : UnixSignalWatcher → UnixSignalWatcher) (caught : List (Option Nat × BitVec 32))
    (notifier : ∀ found, (change found).notifier = found.notifier)
    (same : ∀ found, (change found).watchedSignals = found.watchedSignals)
    (named : ∀ entry ∈ caught, ∀ watcher, entry.1 = some watcher → watcher < signals.watchers.length)
    (relayed : ∀ other found, signals.watchers[other]? = some found →
      Relayed { signals with caught } other (if watcher = other then change found else found)) :
    Relays { signals.modify watcher change with caught } := by
  apply relays.change signals watcher change signals.handled caught notifier _ _ named relayed
  · intro found listed
    exact (same found).symm ▸ relays.distinct found (List.mem_of_getElem? listed)
  · intro signal
    exact (relays.handled signal).trans (modify_watched signals watcher change same signal).symm

theorem relays_destroy (signals : UnixSignals) (relays : Relays signals) (watcher : Nat) :
    Relays (signals.modify watcher fun found => { found with alive := false }) := by
  apply relays.bytes signals watcher (fun found => { found with alive := false }) signals.caught
    (fun _ => rfl) (fun _ => rfl) relays.named
  intro other found listed
  obtain ⟨words,unread,emitted⟩ := relays.relayed other found listed
  split <;> exact ⟨words,unread,emitted⟩

theorem relays_notify (signals : UnixSignals) (relays : Relays signals) (watcher : Nat)
    (active : (signals.watchers[watcher]?).any activated = true) :
    Relays (signals.modify watcher _q_handleNotify) := by
  apply relays.bytes signals watcher _q_handleNotify signals.caught (fun _ => rfl) (fun _ => rfl)
    relays.named
  intro other found listed
  obtain ⟨words,unread,emitted⟩ := relays.relayed other found listed
  split
  next same =>
    subst same
    have waiting : found.unread ≠ [] := by
      rw [listed,Option.any_some] at active
      have some := ((Bool.and_eq_true ..).mp active).2
      simpa using some
    cases words with
    | nil => exact absurd unread waiting
    | cons word rest =>
      refine ⟨rest,?_,?_⟩
      · dsimp only [_q_handleNotify]
        rw [unread,intFormat.drop_encodeAll]
      · dsimp only [_q_handleNotify]
        rw [unread,intFormat.take_encodeAll,intFormat.decode_encode,List.append_assoc]
        exact emitted
  next => exact ⟨words,unread,emitted⟩

theorem caughtBy_concat (signals : UnixSignals) (pair : Option Nat) (signal : BitVec 32) (watcher : Nat) :
    caughtBy { signals with caught := signals.caught ++ [(pair,signal)] } watcher =
      signals.caughtBy watcher ++ if pair = some watcher then [signal] else [] := by
  unfold caughtBy
  rw [List.filterMap_append]
  split
  next same => simp [same]
  next other => simp [other]

theorem relays_caught (signals : UnixSignals) (relays : Relays signals) (signal : BitVec 32) :
    Relays (signals.signalHandler signal) := by
  cases pair : signals.sockpair with
  | none =>
    have lost : signals.signalHandler signal =
        { signals with caught := signals.caught ++ [(none,signal)] } := by
      simp only [signalHandler,pair]
    rw [lost]
    refine ⟨?_,?_,relays.unnamed,relays.distinct,relays.handled,?_⟩
    · intro other found listed
      obtain ⟨words,unread,emitted⟩ := relays.relayed other found listed
      refine ⟨words,unread,?_⟩
      rw [caughtBy_concat,if_neg (by simp),List.append_nil]
      exact emitted
    · intro watcher named
      rw [show signals.sockpair = some watcher from named] at pair
      cases pair
    · intro entry member watcher named
      rcases List.mem_append.mp member with before | new
      · exact relays.named entry before watcher named
      · rw [List.mem_singleton.mp new] at named
        cases named
  | some watcher =>
    have written : signals.signalHandler signal = { signals.modify watcher fun found =>
        { found with unread := found.unread ++ intFormat.encode signal } with
          caught := signals.caught ++ [(some watcher,signal)] } := by
      simp only [signalHandler,modify,pair]
    obtain ⟨⟨current,there,_⟩,_⟩ := relays.last watcher pair
    rw [written]
    apply relays.bytes signals watcher
      (fun found => { found with unread := found.unread ++ intFormat.encode signal })
      (signals.caught ++ [(some watcher,signal)]) (fun _ => rfl) (fun _ => rfl)
    · intro entry member other named
      rcases List.mem_append.mp member with before | new
      · exact relays.named entry before other named
      · rw [List.mem_singleton.mp new] at named
        cases named
        exact (List.getElem?_eq_some_iff.mp there).1
    · intro other found listed
      obtain ⟨words,unread,emitted⟩ := relays.relayed other found listed
      by_cases same : watcher = other
      · subst same
        refine ⟨words ++ [signal],?_,?_⟩
        · rw [if_pos rfl,intFormat.encodeAll_append,← unread]
          simp
        · rw [if_pos rfl,caughtBy_concat,if_pos rfl,← List.append_assoc]
          exact congrArg (· ++ [signal]) emitted
      · refine ⟨words,?_,?_⟩
        · rw [if_neg same]
          exact unread
        · rw [if_neg same,caughtBy_concat,if_neg (by simpa using same),List.append_nil]
          exact emitted

theorem relays_construct (signals : UnixSignals) (relays : Relays signals) (paired : Bool) :
    Relays (signals.construct paired) := by
  have listed (watcher : Nat) (found : UnixSignalWatcher)
      (there : (signals.construct paired).watchers[watcher]? = some found) :
      signals.watchers[watcher]? = some found ∨
        watcher = signals.watchers.length ∧ found = { notifier := paired } := by
    by_cases before : watcher < signals.watchers.length
    · exact .inl ((List.getElem?_append_left before).symm.trans there)
    · have after := (List.getElem?_append_right (Nat.le_of_not_lt before)).symm.trans there
      obtain ⟨bound,same⟩ := List.getElem?_eq_some_iff.mp after
      have first : watcher - signals.watchers.length = 0 := Nat.lt_one_iff.mp bound
      exact .inr ⟨by omega,by simpa [first] using same.symm⟩
  have member (found : UnixSignalWatcher) (there : found ∈ (signals.construct paired).watchers) :
      found ∈ signals.watchers ∨ found = { notifier := paired } :=
    (List.mem_append.mp there).imp_right List.mem_singleton.mp
  refine ⟨?_,?_,?_,?_,?_,?_⟩
  · intro watcher found there
    rcases listed watcher found there with before | ⟨rfl,rfl⟩
    · exact relays.relayed watcher found before
    · refine ⟨[],rfl,?_⟩
      symm
      apply List.filterMap_eq_nil_iff.mpr
      intro entry caught
      apply if_neg
      intro same
      exact Nat.lt_irrefl _ (relays.named entry caught _ same)
  · intro watcher named
    cases paired with
    | true =>
      cases named
      refine ⟨⟨{ notifier := true },?_,rfl⟩,?_⟩
      · exact List.getElem?_concat_length ..
      · intro later found behind there
        obtain ⟨bound,_⟩ := List.getElem?_eq_some_iff.mp there
        rw [construct,List.length_append,List.length_singleton] at bound
        omega
    | false =>
      obtain ⟨⟨found,there,made⟩,last⟩ := relays.last watcher named
      refine ⟨⟨found,?_,made⟩,?_⟩
      · exact (List.getElem?_append_left (List.getElem?_eq_some_iff.mp there).1).trans there
      · intro later other behind there
        rcases listed later other there with before | ⟨_,rfl⟩
        · exact last later other behind before
        · rfl
  · intro unnamed found there
    cases paired with
    | true => cases unnamed
    | false =>
      rcases member found there with before | rfl
      · exact relays.unnamed unnamed found before
      · rfl
  · intro found there
    rcases member found there with before | rfl
    · exact relays.distinct found before
    · exact .nil
  · intro signal
    rw [construct]
    refine (relays.handled signal).trans ⟨?_,?_⟩
    · rintro ⟨found,there,watched⟩
      exact ⟨found,List.mem_append_left _ there,watched⟩
    · rintro ⟨found,there,watched⟩
      rcases member found there with before | rfl
      · exact ⟨found,before,watched⟩
      · cases watched
  · intro entry caught watcher named
    rw [construct,List.length_append]
    exact Nat.lt_add_right _ (relays.named entry caught watcher named)

theorem relays_watch (signals : UnixSignals) (relays : Relays signals) (watcher : Nat)
    (signal : BitVec 32) (accepted : Bool) : Relays (signals.watchForSignal watcher signal accepted) := by
  unfold watchForSignal
  split
  next => exact relays
  next current there =>
    split
    next => exact relays
    next fresh =>
      split
      next =>
        apply relays.change signals watcher
          (fun found => { found with watchedSignals := found.watchedSignals ++ [signal] })
          (if signal ∈ signals.handled then signals.handled else signals.handled ++ [signal]) signals.caught
          (fun _ => rfl) _ _ relays.named
        · intro other found listed
          obtain ⟨words,unread,emitted⟩ := relays.relayed other found listed
          exact ⟨words,by split <;> exact unread,by split <;> exact emitted⟩
        · intro found listed
          have unwatched : signal ∉ found.watchedSignals :=
            Option.some.inj (there.symm.trans listed) ▸ fresh
          exact (relays.distinct found (List.mem_of_getElem? listed)).append (List.nodup_singleton signal)
            (by simpa using unwatched)
        · intro other
          have now : other ∈ (if signal ∈ signals.handled then signals.handled
              else signals.handled ++ [signal]) ↔ other ∈ signals.handled ∨ other = signal := by
            split
            next known => exact (or_iff_left_of_imp fun same => same ▸ known).symm
            next => rw [List.mem_append,List.mem_singleton]
          rw [now,relays.handled]
          apply Iff.intro
          · rintro (⟨found,member,watched⟩ | rfl)
            · obtain ⟨place,listed⟩ := List.mem_iff_getElem?.mp member
              refine ⟨_,List.mem_of_getElem? (modify_get signals watcher place _ found listed),?_⟩
              split
              · exact List.mem_append_left _ watched
              · exact watched
            · refine ⟨_,List.mem_of_getElem? (modify_get signals watcher watcher _ current there),?_⟩
              rw [if_pos rfl]
              exact List.mem_append_right _ (List.mem_singleton_self _)
          · rintro ⟨after,member,watched⟩
            obtain ⟨place,found⟩ := List.mem_iff_getElem?.mp member
            obtain ⟨before,listed,rfl⟩ := modify_some signals watcher place _ after found
            split at watched
            · rcases List.mem_append.mp watched with old | new
              · exact .inl ⟨before,List.mem_of_getElem? listed,old⟩
              · exact .inr (List.mem_singleton.mp new)
            · exact .inl ⟨before,List.mem_of_getElem? listed,watched⟩
      next => exact relays

theorem relays_step (signals next : UnixSignals) (event : Event) (relays : Relays signals)
    (taken : step signals event = some next) : Relays next := by
  cases event with
  | construct paired =>
    cases taken
    exact relays_construct signals relays paired
  | destroy watcher =>
    cases taken
    exact relays_destroy signals relays watcher
  | watchForSignal watcher signal accepted =>
    cases taken
    exact relays_watch signals relays watcher signal accepted
  | signalHandler signal =>
    obtain ⟨_,same⟩ := Option.ite_none_right_eq_some.mp taken
    rw [← Option.some.inj same]
    exact relays_caught signals relays signal
  | handleNotify watcher =>
    obtain ⟨active,same⟩ := Option.ite_none_right_eq_some.mp taken
    rw [← Option.some.inj same]
    exact relays_notify signals relays watcher active

theorem relays_start (capacity : Nat) : Relays { capacity } := by
  refine ⟨?_,?_,?_,?_,?_,?_⟩
  · intro watcher found listed
    cases listed
  · intro watcher named
    cases named
  · intro _ found member
    cases member
  · intro found member
    cases member
  · intro signal
    apply iff_of_false List.not_mem_nil
    rintro ⟨_,member,_⟩
    cases member
  · intro entry member
    cases member

/-- In every run of a process, whatever watchers are made and destroyed, each of them has
been told the signals that were caught while its socket pair was the last one made, in
order and once each, but for those that it still has to read. -/
theorem relays_along (capacity : Nat) (events : List Event) : Along step Relays { capacity } events := by
  apply along_of_steps step (fun signals _ => Relays signals) Relays fun _ _ => True
  · exact fun signals event _ next relays _ taken => relays_step signals next event relays taken
  · exact fun _ _ relays => relays
  · exact relays_start capacity
  · exact steps_of_all step _ _ events fun _ _ _ => trivial

end UnixSignals

end LiriSession
