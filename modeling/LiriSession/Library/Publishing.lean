import LiriSession.Library.Channel
import Mathlib.Data.List.Infix
import Mathlib.Logic.Function.Basic

/-! One sender whose values go to everyone who has asked for them. A listener asks for the
values one after another in a fixed order, and what is sent to it arrives in the order it
was sent; a value that it had not asked for by then never does. -/
namespace LiriSession.Library

/-- How many of the values the listener has asked for, how many had been sent when it asked
for the last of them, and what is under way to it and has arrived. -/
structure Listener (α : Type) where
  asked : Nat := 0
  since : Option Nat := none
  underWay : List α := []
  heard : List α := []

namespace Listener
variable {α : Type} (order : List α)

/-- The next value, if there is one that has not been asked for. -/
def ask (listener : Listener α) (sent : List α) : Option (Listener α) :=
  if listener.asked + 1 < order.length then some { listener with asked := listener.asked + 1 }
  else if listener.asked + 1 = order.length then
    some { listener with asked := listener.asked + 1, since := some sent.length }
  else none

def send [DecidableEq α] (listener : Listener α) (value : α) : Listener α :=
  if value ∈ order.take listener.asked then { listener with underWay := listener.underWay ++ [value] }
  else listener

def hear (listener : Listener α) : Option (Listener α) :=
  match listener.underWay with
  | [] => none
  | value::rest => some { listener with underWay := rest, heard := listener.heard ++ [value] }

def received (listener : Listener α) : List α := listener.heard ++ listener.underWay

/-- A listener that has asked for everything gets all that is sent from then on, in order and
once; before, it can only have got what it asked for earlier than the last. -/
structure Served (sent : List α) (listener : Listener α) : Prop where
  within : listener.asked ≤ order.length
  early : listener.asked < order.length →
    listener.since = none ∧ ∀ value ∈ listener.received, value ∈ order.dropLast
  complete : listener.asked = order.length → ∃ count before, listener.since = some count ∧
    count ≤ sent.length ∧ (∀ value ∈ before, value ∈ order.dropLast) ∧
    listener.received = before ++ sent.drop count

variable {order}

theorem served_start (some : order ≠ []) : Served order [] {} := by
  have positive := List.length_pos_iff.mpr some
  exact ⟨positive.le,fun _ => ⟨rfl,fun _ member => nomatch member⟩,fun none => absurd none positive.ne⟩

theorem Served.ask {sent : List α} {listener next : Listener α} (served : Served order sent listener)
    (taken : listener.ask order sent = some next) : Served order sent next := by
  unfold Listener.ask at taken
  split at taken
  next more =>
    cases taken
    exact ⟨more.le,fun _ => served.early (Nat.lt_of_succ_lt more),fun all => absurd all more.ne⟩
  next =>
    split at taken
    next last =>
      cases taken
      have early := served.early (last ▸ Nat.lt_succ_self _)
      refine ⟨last.le,fun more => absurd last more.ne,fun _ => ?_⟩
      refine ⟨sent.length,listener.received,rfl,Nat.le_refl _,early.2,?_⟩
      rw [List.drop_length,List.append_nil]
      rfl
    next => cases taken

theorem Served.hear {sent : List α} {listener next : Listener α} (served : Served order sent listener)
    (taken : listener.hear = some next) : Served order sent next := by
  unfold Listener.hear at taken
  cases under : listener.underWay with
  | nil => simp [under] at taken
  | cons value rest =>
    simp only [under,Option.some.injEq] at taken
    subst taken
    have same : ∀ final : Listener α, final = { listener with
        underWay := rest, heard := listener.heard ++ [value] } → final.received = listener.received := by
      rintro _ rfl
      simp [received,under]
    obtain ⟨within,early,complete⟩ := served
    refine ⟨within,?_,?_⟩ <;> rw [same _ rfl] <;> assumption

/-- Values asked for earlier than the last. -/
theorem take_dropLast (count : Nat) (more : count < order.length) (value : α)
    (member : value ∈ order.take count) : value ∈ order.dropLast := by
  rw [List.dropLast_eq_take]
  exact List.take_subset_take_left order (Nat.le_sub_one_of_lt more) member

theorem Served.send [DecidableEq α] {sent : List α} {listener : Listener α}
    (served : Served order sent listener) (all : ∀ value, value ∈ order) (value : α) :
    Served order (sent ++ [value]) (listener.send order value) := by
  obtain ⟨within,early,complete⟩ := served
  unfold Listener.send
  split
  next wanted =>
    refine ⟨within,?_,?_⟩
    · intro more
      obtain ⟨none,few⟩ := early more
      refine ⟨none,?_⟩
      intro other member
      simp only [received,← List.append_assoc,List.mem_append,List.mem_singleton] at member
      rcases member with old | new
      · exact few other (List.mem_append.mpr old)
      · exact new ▸ take_dropLast listener.asked more value wanted
    · intro whole
      obtain ⟨count,before,since,bound,few,got⟩ := complete whole
      refine ⟨count,before,since,?_,few,?_⟩
      · rw [List.length_append]
        exact Nat.le_add_right_of_le bound
      · rw [List.drop_append_of_le_length bound,← List.append_assoc,← got]
        simp [received]
  next unwanted =>
    refine ⟨within,early,?_⟩
    intro whole
    rw [whole,List.take_length] at unwanted
    exact absurd (all value) unwanted

/-- Once something has been sent since it asked for everything, a listener that has got all
of it has what was sent last. -/
theorem Served.newest_eq {sent : List α} {listener : Listener α} (served : Served order sent listener)
    (count : Nat) (since : listener.since = some count) (later : count < sent.length)
    (quiet : listener.underWay = []) (first second : α) :
    newest listener.heard first = newest sent second := by
  have whole : listener.asked = order.length := by
    by_contra apart
    have none := (served.early (Nat.lt_of_le_of_ne served.within apart)).1
    rw [since] at none
    cases none
  obtain ⟨other,before,same,_,_,got⟩ := served.complete whole
  rw [since] at same
  cases same
  have heard : listener.heard = before ++ sent.drop count := by
    rw [← got,received,quiet,List.append_nil]
  have occupied : sent.drop count ≠ [] := by
    rw [Ne,List.drop_eq_nil_iff]
    omega
  calc newest listener.heard first
      = newest (sent.drop count) (newest before first) := by rw [heard,newest_append]
    _ = newest (sent.drop count) (newest (sent.take count) second) := newest_of_ne_nil _ _ _ occupied
    _ = newest sent second := by rw [← newest_append,List.take_append_drop]

end Listener

/-- The values sent, and the listeners. -/
structure Publishing (ω α : Type) where
  sent : List α := []
  listener : ω → Listener α := fun _ => {}

namespace Publishing
variable {ω α : Type} (order : List α)

def publish [DecidableEq α] (publishing : Publishing ω α) (value : α) : Publishing ω α where
  sent := publishing.sent ++ [value]
  listener := fun who => (publishing.listener who).send order value

variable [DecidableEq ω]

def ask (publishing : Publishing ω α) (who : ω) : Option (Publishing ω α) :=
  ((publishing.listener who).ask order publishing.sent).map fun next =>
    { publishing with listener := Function.update publishing.listener who next }

def hear (publishing : Publishing ω α) (who : ω) : Option (Publishing ω α) :=
  (publishing.listener who).hear.map fun next =>
    { publishing with listener := Function.update publishing.listener who next }

def Served (publishing : Publishing ω α) : Prop :=
  ∀ who, (publishing.listener who).Served order publishing.sent

variable {order}

omit [DecidableEq ω] in
theorem served_start (some : order ≠ []) : Served order ({} : Publishing ω α) :=
  fun _ => Listener.served_start some

omit [DecidableEq ω] in
theorem Served.publish [DecidableEq α] {publishing : Publishing ω α} (served : Served order publishing)
    (all : ∀ value, value ∈ order) (value : α) : Served order (publishing.publish order value) :=
  fun who => (served who).send all value

theorem Served.update {publishing : Publishing ω α} (served : Served order publishing) (who : ω)
    (next : Listener α) (kept : next.Served order publishing.sent) :
    Served order { publishing with listener := Function.update publishing.listener who next } := by
  intro other
  by_cases same : other = who
  · subst same
    simpa only [Function.update_self] using kept
  · simpa only [Function.update_of_ne same] using served other

theorem Served.ask {publishing next : Publishing ω α} (served : Served order publishing) (who : ω)
    (taken : publishing.ask order who = some next) : Served order next := by
  obtain ⟨listener,asked,rfl⟩ := Option.map_eq_some_iff.mp taken
  exact served.update who listener ((served who).ask asked)

theorem Served.hear {publishing next : Publishing ω α} (served : Served order publishing) (who : ω)
    (taken : publishing.hear who = some next) : Served order next := by
  obtain ⟨listener,heard,rfl⟩ := Option.map_eq_some_iff.mp taken
  exact served.update who listener ((served who).hear heard)

theorem ask_sent {publishing next : Publishing ω α} {who : ω}
    (taken : publishing.ask order who = some next) : next.sent = publishing.sent := by
  obtain ⟨listener,asked,rfl⟩ := Option.map_eq_some_iff.mp taken
  rfl

theorem hear_sent {publishing next : Publishing ω α} {who : ω}
    (taken : publishing.hear who = some next) : next.sent = publishing.sent := by
  obtain ⟨listener,heard,rfl⟩ := Option.map_eq_some_iff.mp taken
  rfl

end Publishing

end LiriSession.Library
