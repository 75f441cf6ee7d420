import Mathlib.Data.List.Basic

/-! Entries put into a map one after another: the last value offered for a key is the one
that the map has. -/
namespace LiriSession.Library
variable {κ υ μ ι : Type} [DecidableEq κ]

/-- The last value offered for the key. -/
def latest (entries : List (κ × υ)) (key : κ) : Option υ := entries.reverse.lookup key

theorem lookup_cons_eq (key other : κ) (value : υ) (rest : List (κ × υ)) :
    ((key,value)::rest).lookup other = if other = key then some value else rest.lookup other := by
  by_cases same : other = key
  · simp [same]
  · have apart : (other == key) = false := by simp [same]
    rw [List.lookup_cons,apart,if_neg same]

theorem latest_concat (entries : List (κ × υ)) (key other : κ) (value : υ) :
    latest (entries ++ [(key,value)]) other = if other = key then some value else latest entries other := by
  rw [latest,List.reverse_append,List.reverse_singleton,List.singleton_append,lookup_cons_eq,latest]

theorem latest_singleton (key other : κ) (value : υ) :
    latest [(key,value)] other = if other = key then some value else none :=
  lookup_cons_eq key other value []

theorem latest_eq_some (entries : List (κ × υ)) (key : κ) (value : υ) : latest entries key = some value ↔
    ∃ before after, entries = before ++ (key,value)::after ∧ ∀ other, (key,other) ∉ after := by
  rw [latest,List.lookup_eq_some_iff]
  apply Iff.intro
  · rintro ⟨later,earlier,split,absent⟩
    refine ⟨earlier.reverse,later.reverse,?_,?_⟩
    · rw [← List.reverse_reverse entries,split]
      simp
    · intro other member
      have apart := absent (key,other) (List.mem_reverse.mp member)
      simp at apart
  · rintro ⟨before,after,split,absent⟩
    refine ⟨after.reverse,before.reverse,?_,?_⟩
    · rw [split]
      simp
    · intro entry member
      have other : key ≠ entry.1 := by
        intro same
        exact absent entry.2 (same ▸ List.mem_reverse.mp member)
      simpa using other

theorem latest_mem (entries : List (κ × υ)) (key : κ) (value : υ) (last : latest entries key = some value) :
    (key,value) ∈ entries := by
  obtain ⟨before,after,split,_⟩ := (latest_eq_some entries key value).mp last
  rw [split]
  exact List.mem_append_right before (List.mem_cons_self ..)

theorem latest_append (first second : List (κ × υ)) (key : κ) :
    latest (first ++ second) key = (latest second key).or (latest first key) := by
  rw [latest,List.reverse_append,List.lookup_append]
  rfl

theorem latest_isSome (entries : List (κ × υ)) (key : κ) :
    (latest entries key).isSome ↔ ∃ value, (key,value) ∈ entries := by
  apply Iff.intro
  · intro given
    obtain ⟨value,last⟩ := Option.isSome_iff_exists.mp given
    exact ⟨value,latest_mem entries key value last⟩
  · rintro ⟨value,member⟩
    obtain ⟨before,after,rfl⟩ := List.append_of_mem member
    have here : latest (before ++ (key,value)::after) key =
        (latest after key).or (some value) := by
      rw [List.append_cons,latest_append,latest_concat,if_pos rfl]
    rw [here]
    cases latest after key <;> rfl

/-- If each item that is accepted gives one key its value, the last ones stay. -/
theorem find_foldl (add : μ → ι → μ) (accept : ι → Option (κ × υ)) (find : μ → κ → Option υ)
    (adds : ∀ map item key, find (add map item) key = (latest (accept item).toList key).or (find map key))
    (items : List ι) (map : μ) (key : κ) :
    find (items.foldl add map) key = (latest (items.filterMap accept) key).or (find map key) := by
  induction items generalizing map with
  | nil => rfl
  | cons item items ih =>
    rw [List.foldl_cons,ih,adds]
    cases accepted : accept item with
    | none =>
      rw [List.filterMap_cons_none accepted]
      rfl
    | some entry =>
      rw [List.filterMap_cons_some accepted,← List.singleton_append,latest_append,Option.or_assoc]
      rfl

end LiriSession.Library
