import Mathlib.Data.List.Nodup
import Mathlib.Data.String.Basic

/-! Sets of named things written as one text: the names of those that are chosen, in the
order of a table, with a separator between them. A vocabulary is a table from which such
a text can be read again. -/
namespace LiriSession.Library

/-- The parts of a text; an empty text has none. -/
def parts (separator : Char) (text : String) : List String :=
  if text = "" then [] else (text.toList.splitOn separator).map String.ofList

theorem parts_intercalate (separator : Char) (words : List String)
    (plain : ∀ word ∈ words, separator ∉ word.toList) (filled : ∀ word ∈ words, word ≠ "") :
    parts separator ((String.singleton separator).intercalate words) = words := by
  cases words with
  | nil => rfl
  | cons first rest =>
    have chars : ((String.singleton separator).intercalate (first::rest)).toList =
        [separator].intercalate ((first::rest).map String.toList) := by
      rw [String.toList_intercalate]
      simp
    have some : (String.singleton separator).intercalate (first::rest) ≠ "" := by
      intro empty
      rw [empty] at chars
      have start := filled first (List.mem_cons_self ..)
      cases rest with
      | nil => simp_all [List.intercalate]
      | cons second rest => simp [List.intercalate] at chars
    have apart : ∀ word ∈ (first::rest).map String.toList, separator ∉ word := by
      intro word member
      obtain ⟨text,listed,rfl⟩ := List.mem_map.mp member
      exact plain text listed
    rw [parts,if_neg some,chars,List.splitOn_intercalate separator apart (by simp),List.map_map]
    exact (List.map_congr_left fun word _ => String.ofList_toList).trans (List.map_id _)

/-- A table of names that are told apart in a text. -/
structure Vocabulary (ι : Type) where
  separator : Char
  table : List (ι × String)
  distinct : (table.map Prod.snd).Nodup
  plain : ∀ entry ∈ table, separator ∉ entry.2.toList
  filled : ∀ entry ∈ table, entry.2 ≠ ""

namespace Vocabulary
variable {ι : Type} [DecidableEq ι] (vocabulary : Vocabulary ι)

def names (chosen : List ι) : List String :=
  vocabulary.table.filterMap fun entry => if entry.1 ∈ chosen then some entry.2 else none

omit [DecidableEq ι] in
def meaning (name : String) : Option ι := (vocabulary.table.find? (·.2 = name)).map Prod.fst

def write (chosen : List ι) : String :=
  (String.singleton vocabulary.separator).intercalate (vocabulary.names chosen)

def read (text : String) : Option (List ι) := (parts vocabulary.separator text).mapM vocabulary.meaning

/-- What is chosen, in the order of the table. -/
def ordered (chosen : List ι) : List ι := (vocabulary.table.map Prod.fst).filter (· ∈ chosen)

omit [DecidableEq ι] in
theorem meaning_eq (entry : ι × String) (listed : entry ∈ vocabulary.table) :
    vocabulary.meaning entry.2 = some entry.1 := by
  have some : (vocabulary.table.find? (·.2 = entry.2)).isSome := by
    rw [List.find?_isSome]
    exact ⟨entry,listed,by simp⟩
  obtain ⟨found,taken⟩ := Option.isSome_iff_exists.mp some
  have named : found.2 = entry.2 := by simpa using List.find?_some taken
  have same := List.inj_on_of_nodup_map vocabulary.distinct (List.mem_of_find?_eq_some taken) listed named
  rw [meaning,taken,same]
  rfl

omit [DecidableEq ι] in
theorem mapM_meaning (entries : List (ι × String)) (listed : ∀ entry ∈ entries, entry ∈ vocabulary.table) :
    (entries.map Prod.snd).mapM vocabulary.meaning = some (entries.map Prod.fst) := by
  induction entries with
  | nil => rfl
  | cons entry entries ih =>
    obtain ⟨first,rest⟩ := List.forall_mem_cons.mp listed
    rw [List.map_cons,List.mapM_cons,vocabulary.meaning_eq entry first,ih rest]
    rfl

theorem names_eq (chosen : List ι) :
    vocabulary.names chosen = (vocabulary.table.filter (·.1 ∈ chosen)).map Prod.snd := by
  rw [names]
  induction vocabulary.table with
  | nil => rfl
  | cons entry table ih =>
    by_cases member : entry.1 ∈ chosen <;> simp [member,ih]

/-- What was written is read again. -/
theorem read_write (chosen : List ι) :
    vocabulary.read (vocabulary.write chosen) = some (vocabulary.ordered chosen) := by
  have listed : ∀ entry ∈ vocabulary.table.filter (·.1 ∈ chosen), entry ∈ vocabulary.table :=
    fun _ member => List.mem_of_mem_filter member
  have words : ∀ word ∈ vocabulary.names chosen, ∃ entry ∈ vocabulary.table, entry.2 = word := by
    intro word member
    rw [names_eq] at member
    obtain ⟨entry,kept,rfl⟩ := List.mem_map.mp member
    exact ⟨entry,listed entry kept,rfl⟩
  have split : parts vocabulary.separator (vocabulary.write chosen) = vocabulary.names chosen := by
    apply parts_intercalate
    · intro word member
      obtain ⟨entry,kept,rfl⟩ := words word member
      exact vocabulary.plain entry kept
    · intro word member
      obtain ⟨entry,kept,rfl⟩ := words word member
      exact vocabulary.filled entry kept
  rw [read,split,names_eq,vocabulary.mapM_meaning _ listed,ordered,List.filter_map]
  rfl

end Vocabulary

end LiriSession.Library
