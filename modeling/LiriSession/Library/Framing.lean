import Mathlib.Data.List.Basic

/-! Words of one size in a stream of bytes. A reader that takes one word's bytes at a time
finds the words that were written, in order, however reads and writes alternate. -/
namespace LiriSession.Library
variable {β ω : Type}

/-- A word as a fixed number of bytes, from which it can be read back. -/
structure WordFormat (β ω : Type) where
  width : Nat
  encode : ω → List β
  decode : List β → ω
  width_pos : 0 < width
  encode_length : ∀ word, (encode word).length = width
  decode_encode : ∀ word, decode (encode word) = word

namespace WordFormat
variable (format : WordFormat β ω)

def encodeAll (words : List ω) : List β := words.flatMap format.encode

@[simp] theorem encodeAll_nil : format.encodeAll [] = [] := rfl

@[simp] theorem encodeAll_cons (word : ω) (words : List ω) :
    format.encodeAll (word::words) = format.encode word ++ format.encodeAll words := rfl

@[simp] theorem encodeAll_append (first second : List ω) :
    format.encodeAll (first ++ second) = format.encodeAll first ++ format.encodeAll second :=
  List.flatMap_append

theorem encodeAll_length (words : List ω) :
    (format.encodeAll words).length = words.length * format.width := by
  induction words with
  | nil => simp
  | cons word words ih =>
    rw [encodeAll_cons,List.length_append,format.encode_length,ih,List.length_cons,Nat.succ_mul,Nat.add_comm]

theorem take_encodeAll (word : ω) (words : List ω) :
    (format.encodeAll (word::words)).take format.width = format.encode word := by
  rw [encodeAll_cons,← format.encode_length word,List.take_left]

theorem drop_encodeAll (word : ω) (words : List ω) :
    (format.encodeAll (word::words)).drop format.width = format.encodeAll words := by
  rw [encodeAll_cons,← format.encode_length word,List.drop_left]

theorem encodeAll_eq_nil_iff (words : List ω) : format.encodeAll words = [] ↔ words = [] := by
  rw [← List.length_eq_zero_iff,encodeAll_length,Nat.mul_eq_zero,List.length_eq_zero_iff]
  exact or_iff_left (Nat.ne_of_gt format.width_pos)

end WordFormat

end LiriSession.Library
