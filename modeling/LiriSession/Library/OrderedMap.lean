import Mathlib.Data.List.Nodup
import Mathlib.Data.List.Perm.Basic
import Mathlib.Order.Lattice

/-! Finite maps enumerated in increasing key order, the lookup by value they
allow, and how insertion and erasure act on the multiset of stored values. -/
namespace LiriSession.Library

/-- The order of the entries is part of the value: a map out of order, or with
one key twice, cannot be built. -/
structure OrderedMap (κ υ : Type) [LinearOrder κ] where
  entries : List (κ × υ)
  sorted : entries.Pairwise (fun first second => first.1 < second.1)

namespace OrderedMap
variable {κ υ : Type} [LinearOrder κ]

@[ext] theorem ext {first second : OrderedMap κ υ} (same : first.entries = second.entries) :
    first = second := by
  cases first
  cases second
  cases same
  rfl

def empty : OrderedMap κ υ := ⟨[],.nil⟩

def insertEntry (key : κ) (value : υ) : List (κ × υ) → List (κ × υ)
  | [] => [(key,value)]
  | (k,v)::rest =>
    if key < k then (key,value)::(k,v)::rest
    else if key = k then (key,value)::rest
    else (k,v)::insertEntry key value rest

theorem insertEntry_keys (key : κ) (value : υ) (entries : List (κ × υ)) (entry : κ × υ)
    (member : entry ∈ insertEntry key value entries) : entry.1 = key ∨ entry ∈ entries := by
  induction entries with
  | nil => simp_all [insertEntry]
  | cons head rest ih =>
    simp only [insertEntry] at member
    split at member
    · simp only [List.mem_cons] at member ⊢
      rcases member with rfl | old
      · exact .inl rfl
      · exact .inr old
    · split at member
      · simp only [List.mem_cons] at member ⊢
        rcases member with rfl | old
        · exact .inl rfl
        · exact .inr (.inr old)
      · simp only [List.mem_cons] at member ⊢
        rcases member with rfl | old
        · exact .inr (.inl rfl)
        · exact (ih old).imp_right .inr

theorem insertEntry_sorted (key : κ) (value : υ) (entries : List (κ × υ))
    (sorted : entries.Pairwise (fun first second => first.1 < second.1)) :
    (insertEntry key value entries).Pairwise (fun first second => first.1 < second.1) := by
  induction entries with
  | nil => simp [insertEntry]
  | cons head rest ih =>
    obtain ⟨below,tail⟩ := List.pairwise_cons.mp sorted
    simp only [insertEntry]
    split
    next before =>
      refine List.pairwise_cons.mpr ⟨?_,sorted⟩
      intro entry member
      rcases List.mem_cons.mp member with rfl | old
      · exact before
      · exact before.trans (below entry old)
    next notBefore =>
      split
      next equal =>
        subst equal
        exact List.pairwise_cons.mpr ⟨below,tail⟩
      next different =>
        refine List.pairwise_cons.mpr ⟨?_,ih tail⟩
        intro entry member
        rcases insertEntry_keys key value rest entry member with same | old
        · rw [same]
          exact lt_of_le_of_ne (not_lt.mp notBefore) (Ne.symm different)
        · exact below entry old

def insert (map : OrderedMap κ υ) (key : κ) (value : υ) : OrderedMap κ υ :=
  ⟨insertEntry key value map.entries,insertEntry_sorted key value map.entries map.sorted⟩

def erase (map : OrderedMap κ υ) (key : κ) : OrderedMap κ υ :=
  ⟨map.entries.filter (fun entry => entry.1 ≠ key),map.sorted.filter _⟩

def find? (map : OrderedMap κ υ) (key : κ) : Option υ :=
  (map.entries.find? (fun entry => entry.1 = key)).map Prod.snd

def keys (map : OrderedMap κ υ) : List κ := map.entries.map Prod.fst

def values (map : OrderedMap κ υ) : List υ := map.entries.map Prod.snd

def findKey? (map : OrderedMap κ υ) (test : υ → Bool) : Option κ :=
  (map.entries.find? (fun entry => test entry.2)).map Prod.fst

def firstKey? (map : OrderedMap κ υ) : Option κ := map.entries.head?.map Prod.fst

theorem firstKey?_eq_none (map : OrderedMap κ υ) : map.firstKey? = none ↔ map = empty := by
  obtain ⟨entries,sorted⟩ := map
  cases entries with
  | nil => simp [firstKey?,empty]
  | cons entry entries => simp [firstKey?,empty]

theorem keys_nodup (map : OrderedMap κ υ) : map.keys.Nodup := by
  refine List.pairwise_map.mpr (map.sorted.imp ?_)
  intro first second below
  exact below.ne

theorem entry_unique (map : OrderedMap κ υ) {key : κ} {first second : υ}
    (left : (key,first) ∈ map.entries) (right : (key,second) ∈ map.entries) : first = second := by
  have same := List.inj_on_of_nodup_map map.keys_nodup left right rfl
  exact congrArg Prod.snd same

theorem find?_eq_some (map : OrderedMap κ υ) (key : κ) (value : υ) :
    map.find? key = some value ↔ (key,value) ∈ map.entries := by
  constructor
  · intro found
    obtain ⟨entry,located,rfl⟩ := Option.map_eq_some_iff.mp found
    have same : entry.1 = key := by simpa using List.find?_some located
    subst same
    exact List.mem_of_find?_eq_some located
  · intro member
    cases located : map.entries.find? (fun entry => entry.1 = key) with
    | none => simpa using List.find?_eq_none.mp located _ member
    | some entry =>
      have same : entry.1 = key := by simpa using List.find?_some located
      have present := List.mem_of_find?_eq_some located
      subst same
      simp only [find?,located,Option.map_some]
      exact congrArg some (map.entry_unique present member)

theorem find?_eq_none (map : OrderedMap κ υ) (key : κ) :
    map.find? key = none ↔ key ∉ map.keys := by
  simp only [find?,keys,Option.map_eq_none_iff,List.find?_eq_none,List.mem_map,not_exists,not_and,
    decide_eq_true_eq]

theorem mem_values (map : OrderedMap κ υ) (value : υ) :
    value ∈ map.values ↔ ∃ key, map.find? key = some value := by
  simp [find?_eq_some,values]

theorem mem_insert (map : OrderedMap κ υ) (key : κ) (value : υ) (entry : κ × υ) :
    entry ∈ (map.insert key value).entries ↔
      entry = (key,value) ∨ entry.1 ≠ key ∧ entry ∈ map.entries := by
  obtain ⟨entries,sorted⟩ := map
  change entry ∈ insertEntry key value entries ↔ _
  induction entries with
  | nil => simp [insertEntry]
  | cons head rest ih =>
    obtain ⟨below,tail⟩ := List.pairwise_cons.mp sorted
    have others (member : entry ∈ rest) (same : head.1 = key) : entry.1 ≠ key := by
      have above := below entry member
      rw [same] at above
      exact above.ne'
    simp only [insertEntry]
    split
    next before =>
      have fresh (member : entry ∈ head::rest) : entry.1 ≠ key := by
        rcases List.mem_cons.mp member with rfl | old
        · exact before.ne'
        · exact (before.trans (below entry old)).ne'
      rw [List.mem_cons]
      exact ⟨Or.imp_right fun member => ⟨fresh member,member⟩,Or.imp_right And.right⟩
    next notBefore =>
      split
      next equal =>
        simp only [List.mem_cons]
        constructor
        · rintro (rfl | old)
          · exact .inl rfl
          · exact .inr ⟨others old equal.symm,.inr old⟩
        · rintro (rfl | ⟨different,rfl | old⟩)
          · exact .inl rfl
          · exact absurd equal.symm different
          · exact .inr old
      next different =>
        simp only [List.mem_cons,ih tail]
        constructor
        · rintro (rfl | rfl | ⟨apart,old⟩)
          · exact .inr ⟨Ne.symm different,.inl rfl⟩
          · exact .inl rfl
          · exact .inr ⟨apart,.inr old⟩
        · rintro (rfl | ⟨apart,rfl | old⟩)
          · exact .inr (.inl rfl)
          · exact .inl rfl
          · exact .inr (.inr ⟨apart,old⟩)

theorem mem_erase (map : OrderedMap κ υ) (key : κ) (entry : κ × υ) :
    entry ∈ (map.erase key).entries ↔ entry.1 ≠ key ∧ entry ∈ map.entries := by
  simp [erase,and_comm]

@[simp] theorem find?_empty (key : κ) : (empty : OrderedMap κ υ).find? key = none := rfl

@[simp] theorem values_empty : (empty : OrderedMap κ υ).values = [] := rfl

@[simp] theorem find?_insert_self (map : OrderedMap κ υ) (key : κ) (value : υ) :
    (map.insert key value).find? key = some value := by
  rw [find?_eq_some,mem_insert]
  exact .inl rfl

theorem find?_insert_of_ne (map : OrderedMap κ υ) {key other : κ} (value : υ)
    (apart : other ≠ key) : (map.insert key value).find? other = map.find? other := by
  apply Option.ext
  intro found
  rw [find?_eq_some,find?_eq_some,mem_insert]
  simp [apart]

theorem find?_insert (map : OrderedMap κ υ) (key other : κ) (value : υ) :
    (map.insert key value).find? other = if other = key then some value else map.find? other := by
  split
  next same => rw [same,find?_insert_self]
  next apart => exact map.find?_insert_of_ne value apart

theorem find?_erase (map : OrderedMap κ υ) (key other : κ) :
    (map.erase key).find? other = if other = key then none else map.find? other := by
  apply Option.ext
  intro found
  split
  next same => simp [find?_eq_some,mem_erase,same]
  next apart => simp [find?_eq_some,mem_erase,apart]

theorem erase_first (map : OrderedMap κ υ) (entry : κ × υ) (rest : List (κ × υ))
    (first : map.entries = entry::rest) : (map.erase entry.1).entries = rest := by
  have sorted := map.sorted
  rw [first] at sorted
  have below := (List.pairwise_cons.mp sorted).1
  unfold erase
  dsimp only
  rw [first,List.filter_cons_of_neg (by simp)]
  apply List.filter_eq_self.mpr
  intro other member
  simpa using (below other member).ne'

theorem find?_insert_some (map : OrderedMap κ υ) (key other : κ) (value found : υ)
    (present : (map.insert key value).find? other = some found) :
    other = key ∧ found = value ∨ other ≠ key ∧ map.find? other = some found := by
  rw [find?_insert] at present
  split at present
  next same => exact .inl ⟨same,(Option.some.inj present).symm⟩
  next apart => exact .inr ⟨apart,present⟩

theorem find?_erase_some (map : OrderedMap κ υ) (key other : κ) (found : υ)
    (present : (map.erase key).find? other = some found) :
    other ≠ key ∧ map.find? other = some found := by
  rw [find?_erase] at present
  split at present
  next => cases present
  next apart => exact ⟨apart,present⟩

theorem erase_absent (map : OrderedMap κ υ) (key : κ) (absent : map.find? key = none) :
    map.erase key = map := by
  apply OrderedMap.ext
  apply List.filter_eq_self.mpr
  intro entry member
  have missing := (map.find?_eq_none key).mp absent
  rw [decide_eq_true_eq]
  rintro rfl
  exact missing (List.mem_map_of_mem member)

theorem values_insert_absent (map : OrderedMap κ υ) (key : κ) (value : υ)
    (absent : map.find? key = none) : (map.insert key value).values.Perm (value::map.values) := by
  obtain ⟨entries,sorted⟩ := map
  rw [find?_eq_none] at absent
  change ((insertEntry key value entries).map Prod.snd).Perm (value::entries.map Prod.snd)
  induction entries with
  | nil => simp [insertEntry]
  | cons head rest ih =>
    simp only [keys,List.map_cons,List.mem_cons,not_or] at absent ih
    simp only [insertEntry]
    split
    · exact .refl _
    · rw [if_neg absent.1]
      exact ((ih (List.pairwise_cons.mp sorted).2 absent.2).cons head.2).trans (.swap _ _ _)

theorem values_erase_present (map : OrderedMap κ υ) (key : κ) (value : υ)
    (present : map.find? key = some value) : map.values.Perm (value::(map.erase key).values) := by
  obtain ⟨entries,sorted⟩ := map
  rw [find?_eq_some] at present
  change (entries.map Prod.snd).Perm (value::(entries.filter _).map Prod.snd)
  induction entries with
  | nil => simp at present
  | cons head rest ih =>
    obtain ⟨below,tail⟩ := List.pairwise_cons.mp sorted
    rcases List.mem_cons.mp present with rfl | old
    · have kept : rest.filter (fun entry => entry.1 ≠ key) = rest := by
        apply List.filter_eq_self.mpr
        intro entry member
        simpa using (below entry member).ne'
      rw [List.filter_cons_of_neg (by simp),kept,List.map_cons]
    · have apart : head.1 ≠ key := (below _ old).ne
      rw [List.filter_cons_of_pos (by simpa using apart),List.map_cons,List.map_cons]
      exact ((ih tail old).cons head.2).trans (.swap _ _ _)

theorem insert_erase (map : OrderedMap κ υ) (key : κ) (value : υ) :
    (map.erase key).insert key value = map.insert key value := by
  apply OrderedMap.ext
  have nodup (m : OrderedMap κ υ) : m.entries.Nodup := List.Nodup.of_map Prod.fst m.keys_nodup
  have same : ((map.erase key).insert key value).entries.Perm (map.insert key value).entries := by
    apply (List.perm_ext_iff_of_nodup (nodup _) (nodup _)).mpr
    intro entry
    rw [mem_insert,mem_insert,mem_erase]
    tauto
  exact same.eq_of_pairwise (fun a b _ _ ab ba => (ab.not_gt ba).elim) (OrderedMap.sorted _)
    (OrderedMap.sorted _)

theorem values_insert (map : OrderedMap κ υ) (key : κ) (value : υ) :
    (map.insert key value).values.Perm (value::(map.erase key).values) := by
  have absent : (map.erase key).find? key = none := by simp [find?_erase]
  have replaced := (map.erase key).values_insert_absent key value absent
  rwa [insert_erase] at replaced

theorem findKey?_eq_none (map : OrderedMap κ υ) (test : υ → Bool) :
    map.findKey? test = none ↔ ∀ value ∈ map.values, test value = false := by
  simp only [findKey?,values,Option.map_eq_none_iff,List.find?_eq_none,List.forall_mem_map,
    Bool.not_eq_true]

theorem findKey?_spec (map : OrderedMap κ υ) (test : υ → Bool) (key : κ)
    (found : map.findKey? test = some key) :
    ∃ value, map.find? key = some value ∧ test value = true := by
  obtain ⟨entry,located,rfl⟩ := Option.map_eq_some_iff.mp found
  refine ⟨entry.2,?_,by simpa using List.find?_some located⟩
  rw [find?_eq_some]
  exact List.mem_of_find?_eq_some located

theorem findKey?_le (map : OrderedMap κ υ) (test : υ → Bool) (key other : κ) (value : υ)
    (found : map.findKey? test = some key) (present : map.find? other = some value)
    (passes : test value = true) : key ≤ other := by
  obtain ⟨entry,located,same⟩ := Option.map_eq_some_iff.mp found
  subst same
  obtain ⟨_,before,after,split,failed⟩ := List.find?_eq_some_iff_append.mp located
  have member := (map.find?_eq_some other value).mp present
  have sorted := map.sorted
  rw [split] at member sorted
  rcases List.mem_append.mp member with early | late
  · have fails := failed (other,value) early
    simp [passes] at fails
  · rcases List.mem_cons.mp late with here | later
    · rw [← here]
    · have tail := (List.pairwise_append.mp sorted).2.1
      exact ((List.pairwise_cons.mp tail).1 (other,value) later).le

theorem firstKey?_spec (map : OrderedMap κ υ) (key : κ) (first : map.firstKey? = some key) :
    ∃ value, map.find? key = some value := by
  obtain ⟨entries,sorted⟩ := map
  cases entries with
  | nil => cases first
  | cons entry entries =>
    cases first
    exact ⟨entry.2,by simp [find?]⟩

/-- A search by value that the first entry passes stops there. -/
theorem findKey?_first (map : OrderedMap κ υ) (test : υ → Bool) (key : κ) (value : υ)
    (first : map.firstKey? = some key) (present : map.find? key = some value)
    (passes : test value = true) : map.findKey? test = some key := by
  obtain ⟨entries,sorted⟩ := map
  cases entries with
  | nil => cases first
  | cons entry entries =>
    cases first
    have same : entry.2 = value := by simpa [find?] using present
    simp [findKey?,same,passes]

def eraseAll (map : OrderedMap κ υ) (keys : List κ) : OrderedMap κ υ := keys.foldl erase map

/-- Later entries win. -/
def insertAll (map : OrderedMap κ υ) (entries : List (κ × υ)) : OrderedMap κ υ :=
  entries.foldl (fun map entry => map.insert entry.1 entry.2) map

theorem find?_eraseAll (map : OrderedMap κ υ) (keys : List κ) (key : κ) :
    (map.eraseAll keys).find? key = if key ∈ keys then none else map.find? key := by
  induction keys generalizing map with
  | nil => simp [eraseAll]
  | cons first keys ih =>
    have step : (map.eraseAll (first::keys)).find? key =
        if key ∈ keys then none else (map.erase first).find? key := ih (map.erase first)
    rw [step,find?_erase]
    by_cases later : key ∈ keys
    · simp [later]
    · by_cases same : key = first <;> simp [later,same]

theorem find?_insertAll (map other : OrderedMap κ υ) (key : κ) :
    (map.insertAll other.entries).find? key = (other.find? key).or (map.find? key) := by
  obtain ⟨entries,sorted⟩ := other
  induction entries generalizing map with
  | nil => rfl
  | cons entry entries ih =>
    obtain ⟨below,sorted⟩ := List.pairwise_cons.mp sorted
    have step : (map.insertAll (entry::entries)).find? key =
        ((⟨entries,sorted⟩ : OrderedMap κ υ).find? key).or ((map.insert entry.1 entry.2).find? key) :=
      ih (map.insert entry.1 entry.2) sorted
    rw [step,find?_insert]
    by_cases same : key = entry.1
    · have absent : (⟨entries,sorted⟩ : OrderedMap κ υ).find? key = none := by
        rw [find?_eq_none]
        intro member
        obtain ⟨other,present,named⟩ := List.mem_map.mp member
        exact (below other present).ne (same.symm.trans named.symm)
      rw [absent,if_pos same]
      simp [find?,same]
    · rw [if_neg same]
      simp [find?,Ne.symm same]

end OrderedMap
end LiriSession.Library
