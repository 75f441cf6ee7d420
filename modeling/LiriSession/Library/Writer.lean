import Mathlib.Data.List.Basic

/-! Entries written one after the other into a state that is read by key. What a write is
to leave under its key may depend on what was there. -/
namespace LiriSession.Library

structure Writer (σ κ ω α : Type) where
  get : σ → κ → ω
  write : σ → κ × α → σ
  valid : κ → Prop
  held : ω → α → Prop
  writes : ∀ state entry, valid entry.1 → held (get (write state entry) entry.1) entry.2
  keeps : ∀ state entry, valid entry.1 → held (get state entry.1) entry.2 →
    get (write state entry) entry.1 = get state entry.1
  others : ∀ state entry key, valid entry.1 → key ≠ entry.1 → get (write state entry) key = get state key

namespace Writer
variable {σ κ ω α : Type} (writer : Writer σ κ ω α)

def writeAll (state : σ) (entries : List (κ × α)) : σ := entries.foldl writer.write state

theorem writeAll_others (state : σ) (entries : List (κ × α)) (key : κ)
    (valid : ∀ entry ∈ entries, writer.valid entry.1) (absent : key ∉ entries.map Prod.fst) :
    writer.get (writer.writeAll state entries) key = writer.get state key := by
  induction entries generalizing state with
  | nil => rfl
  | cons entry entries ih =>
    obtain ⟨first,later⟩ := List.forall_mem_cons.mp valid
    rw [List.map_cons,List.mem_cons,not_or] at absent
    exact (ih _ later absent.2).trans (writer.others state entry key first absent.1)

/-- No entry undoes what another has left. -/
theorem writeAll_held (state : σ) (entries : List (κ × α))
    (valid : ∀ entry ∈ entries, writer.valid entry.1) (distinct : (entries.map Prod.fst).Nodup) :
    ∀ entry ∈ entries, writer.held (writer.get (writer.writeAll state entries) entry.1) entry.2 := by
  induction entries generalizing state with
  | nil => exact fun _ member => absurd member List.not_mem_nil
  | cons entry entries ih =>
    obtain ⟨first,later⟩ := List.forall_mem_cons.mp valid
    obtain ⟨fresh,distinct⟩ := List.nodup_cons.mp distinct
    refine List.forall_mem_cons.mpr ⟨?_,ih _ later distinct⟩
    have kept := writer.writeAll_others (writer.write state entry) entries entry.1 later fresh
    exact kept ▸ writer.writes state entry first

/-- Where every entry is held already nothing changes. -/
theorem writeAll_keeps (state : σ) (entries : List (κ × α))
    (valid : ∀ entry ∈ entries, writer.valid entry.1)
    (held : ∀ entry ∈ entries, writer.held (writer.get state entry.1) entry.2) (key : κ) :
    writer.get (writer.writeAll state entries) key = writer.get state key := by
  induction entries generalizing state with
  | nil => rfl
  | cons entry entries ih =>
    obtain ⟨first,later⟩ := List.forall_mem_cons.mp valid
    obtain ⟨holds,others⟩ := List.forall_mem_cons.mp held
    have same (key : κ) : writer.get (writer.write state entry) key = writer.get state key := by
      by_cases here : key = entry.1
      · rw [here]
        exact writer.keeps state entry first holds
      · exact writer.others state entry key first here
    rw [← same key]
    exact ih _ later fun other member => (same other.1).symm ▸ others other member

end Writer

end LiriSession.Library
