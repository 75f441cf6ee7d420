import Mathlib.Data.List.Chain

/-! A value and the notifications about it. A history of notifications follows the value
if each of them brings a change and the last one is what the value is now. -/
namespace LiriSession.Library
variable {α : Type} [DecidableEq α]

/-- What one step owes: the new value, unless it is the old one. -/
def change (before after : α) : List α := if before = after then [] else [after]

structure Follows (initial : α) (emitted : List α) (current : α) : Prop where
  changing : (initial::emitted).IsChain (· ≠ ·)
  last : emitted.getLast?.getD initial = current

theorem change_self (value : α) : change value value = [] := if_pos rfl

theorem change_of_ne (before after : α) (distinct : before ≠ after) : change before after = [after] :=
  if_neg distinct

omit [DecidableEq α] in
theorem follows_nil (initial : α) : Follows initial [] initial := ⟨List.isChain_singleton initial,rfl⟩

omit [DecidableEq α] in
theorem Follows.concat_iff {initial before : α} {emitted : List α}
    (follows : Follows initial emitted before) (value after : α) :
    Follows initial (emitted ++ [value]) after ↔ before ≠ value ∧ value = after := by
  have last : (initial::emitted).getLast? = some before := by
    rw [List.getLast?_cons,follows.last]
  have chained : (initial::(emitted ++ [value])).IsChain (· ≠ ·) ↔ before ≠ value := by
    rw [← List.cons_append,List.isChain_append,last]
    simp [follows.changing]
  apply Iff.intro
  · intro next
    exact ⟨chained.mp next.changing,by simpa using next.last⟩
  · intro both
    exact ⟨chained.mpr both.1,by simpa using both.2⟩

/-- A step that sends at most one notification keeps the history in pace exactly when it
sends what it owes. -/
theorem Follows.append_iff {initial before : α} {emitted : List α}
    (follows : Follows initial emitted before) (made : List α) (single : made.length ≤ 1) (after : α) :
    Follows initial (emitted ++ made) after ↔ made = change before after := by
  cases made with
  | nil =>
    rw [List.append_nil]
    apply Iff.intro
    · intro same
      rw [← follows.last,← same.last,change_self]
    · intro owed
      by_cases same : before = after
      · exact same ▸ follows
      · rw [change_of_ne before after same] at owed
        cases owed
  | cons value rest =>
    have empty : rest = [] := List.eq_nil_of_length_eq_zero (by simpa using single)
    rw [empty,follows.concat_iff]
    by_cases same : before = after
    · rw [same,change_self]
      simp [eq_comm]
    · rw [change_of_ne before after same]
      apply Iff.intro
      · intro both
        rw [both.2]
      · intro owed
        cases owed
        exact ⟨same,rfl⟩

/-- Two values can only take turns. -/
theorem alternates_of_isChain (initial : Bool) (emitted : List Bool)
    (changing : (initial::emitted).IsChain (· ≠ ·)) (i : Nat) (bound : i < emitted.length) :
    emitted[i] = (initial ^^ decide (i % 2 = 0)) := by
  induction emitted generalizing initial i with
  | nil => cases bound
  | cons value emitted ih =>
    obtain ⟨distinct,rest⟩ := List.isChain_cons_cons.mp changing
    have flipped : value = !initial := by
      cases value <;> cases initial <;> simp_all
    cases i with
    | zero => simp [flipped]
    | succ i =>
      rw [List.getElem_cons_succ,ih value rest i (by simpa using bound),flipped]
      rcases Nat.mod_two_eq_zero_or_one i with even | odd
      · simp [even,show (i + 1) % 2 = 1 by omega]
      · simp [odd,show (i + 1) % 2 = 0 by omega]

end LiriSession.Library
