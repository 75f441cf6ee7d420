import Mathlib.Data.List.Nodup

/-! Handles that a table gives out, and gives out again once they are closed. One holder
acquires and releases some of them among others that do as they like. -/
namespace LiriSession.Library
variable {α : Type} [DecidableEq α]

/-- What the holder holds, what is open, and what the holder has acquired and closed. -/
structure Handles (α : Type) where
  held : List α := []
  opened : List α := []
  acquired : List α := []
  closed : List α := []

namespace Handles

/-- A handle is not given out while it is open, and nobody else closes what is held. -/
inductive Step (handles : Handles α) : Handles α → Prop
  | idle : Step handles handles
  | acquire (handle : α) (fresh : handle ∉ handles.opened) : Step handles { handles with
      held := handles.held ++ [handle]
      opened := handles.opened ++ [handle]
      acquired := handles.acquired ++ [handle] }
  | release (handle : α) (own : handle ∈ handles.held) : Step handles { handles with
      held := handles.held.erase handle
      opened := handles.opened.erase handle
      closed := handles.closed ++ [handle] }
  | otherOpens (handle : α) : Step handles { handles with opened := handles.opened ++ [handle] }
  | otherCloses (handle : α) (foreign : handle ∉ handles.held) :
      Step handles { handles with opened := handles.opened.erase handle }

/-- What is held is open and held once, and the rest of what was acquired is closed. -/
structure Owned (handles : Handles α) : Prop where
  opened : ∀ handle ∈ handles.held, handle ∈ handles.opened
  distinct : handles.held.Nodup
  balance : ∀ handle, handles.acquired.count handle =
    handles.closed.count handle + handles.held.count handle

theorem Owned.acquire {handles : Handles α} (owned : Owned handles) (handle : α)
    (fresh : handle ∉ handles.opened) : Owned { handles with
      held := handles.held ++ [handle]
      opened := handles.opened ++ [handle]
      acquired := handles.acquired ++ [handle] } := by
  have unheld : handle ∉ handles.held := fun own => fresh (owned.opened handle own)
  refine ⟨?_,?_,?_⟩
  · intro other member
    rcases List.mem_append.mp member with before | new
    · exact List.mem_append_left _ (owned.opened other before)
    · exact List.mem_append_right _ new
  · exact owned.distinct.append (List.nodup_singleton handle) (by simpa using unheld)
  · intro other
    have before := owned.balance other
    simp only [List.count_append]
    omega

theorem Owned.release {handles : Handles α} (owned : Owned handles) (handle : α)
    (own : handle ∈ handles.held) : Owned { handles with
      held := handles.held.erase handle
      opened := handles.opened.erase handle
      closed := handles.closed ++ [handle] } := by
  refine ⟨?_,owned.distinct.erase handle,?_⟩
  · intro other member
    obtain ⟨apart,before⟩ := (owned.distinct.mem_erase_iff).mp member
    exact (List.mem_erase_of_ne apart).mpr (owned.opened other before)
  · intro other
    have before := owned.balance other
    have split := (List.perm_cons_erase own).count_eq other
    rw [List.count_cons] at split
    simp only [List.count_append,List.count_singleton]
    omega

theorem Owned.step {handles next : Handles α} (owned : Owned handles) (step : Step handles next) :
    Owned next := by
  cases step with
  | idle => exact owned
  | acquire handle fresh => exact owned.acquire handle fresh
  | release handle own => exact owned.release handle own
  | otherOpens handle =>
    exact ⟨fun other own => List.mem_append_left _ (owned.opened other own),owned.distinct,owned.balance⟩
  | otherCloses handle foreign =>
    refine ⟨?_,owned.distinct,owned.balance⟩
    intro other own
    have apart : other ≠ handle := fun same => foreign (same ▸ own)
    exact (List.mem_erase_of_ne apart).mpr (owned.opened other own)

end Handles

end LiriSession.Library
