import Mathlib.Data.List.Basic

/-! Values under way in the order they were sent to a place that keeps only the last
one it was given. -/
namespace LiriSession.Library
variable {α : Type}

/-- What the receiver holds once everything under way has arrived. -/
def newest (queue : List α) (held : α) : α := queue.getLast?.getD held

@[simp] theorem newest_nil (held : α) : newest [] held = held := rfl

@[simp] theorem newest_cons (value : α) (queue : List α) (held : α) :
    newest (value::queue) held = newest queue value := by
  rw [newest,List.getLast?_cons,Option.getD_some,newest]

@[simp] theorem newest_append (first second : List α) (held : α) :
    newest (first ++ second) held = newest second (newest first held) := by
  induction first generalizing held with
  | nil => rfl
  | cons value first ih => rw [List.cons_append,newest_cons,ih,newest_cons]

theorem newest_mem (queue : List α) (held : α) : newest queue held ∈ held::queue := by
  unfold newest
  cases found : queue.getLast? with
  | none => exact List.mem_cons_self ..
  | some last => exact List.mem_cons_of_mem held (List.mem_of_getLast? found)

theorem newest_of_ne_nil (queue : List α) (first second : α) (some : queue ≠ []) :
    newest queue first = newest queue second := by
  cases queue with
  | nil => exact absurd rfl some
  | cons value queue => rw [newest_cons,newest_cons]

theorem newest_ne_iff (queue : List Bool) (value : Bool) :
    newest queue value ≠ value ↔ queue.getLast? = some (!value) := by
  unfold newest
  cases queue.getLast? with
  | none => simp
  | some last => cases last <;> cases value <;> simp

end LiriSession.Library
