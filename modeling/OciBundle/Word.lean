/-
**Machine words: integers of a fixed range.**

* `Word`: a type that stands for all integers from `low` to `high`, with its two laws.
* `Word.read`: the word that a decimal text denotes.
* `Word.text`: the decimal text of a word.
-/

import OciBundle.Text.Numeral

namespace OciBundle

/-- A type of machine words: exactly the integers from `low` to `high`. -/
class Word (α : Type) where
  /-- The least value. -/
  low : Int
  /-- The greatest value. -/
  high : Int
  /-- The value of a word. -/
  toInt : α → Int
  /-- The word of a value. -/
  ofInt : Int → α
  low_le_toInt : ∀ word, low ≤ toInt word
  toInt_le_high : ∀ word, toInt word ≤ high
  ofInt_toInt : ∀ word, ofInt (toInt word) = word
  toInt_ofInt : ∀ value, low ≤ value → value ≤ high → toInt (ofInt value) = value

namespace Word

variable {α : Type} [Word α]

/-- The word of a value within the range. -/
def ofInt? (value : Int) : Option α :=
  if low α ≤ value ∧ value ≤ high α then some (ofInt value) else none

/-- Reads a decimal integer text of the word's range. -/
def read (text : String) : Except Numeral.Fault α :=
  (Numeral.decimal (low α) (high α) text).map ofInt

/-- Reads an octal integer text of the word's range. -/
def readOctal (text : String) : Except Numeral.Fault α :=
  (Numeral.integer 8 (low α) (high α) text.toList).map ofInt

/-- The decimal text of a word. -/
def text (word : α) : String :=
  toString (toInt word)

/-- Every word is the word of its value. -/
@[simp] theorem ofInt?_toInt (word : α) : ofInt? (toInt word) = some word := by
  simp [ofInt?, low_le_toInt, toInt_le_high, ofInt_toInt]

end Word

instance : Word UInt16 where
  low := 0
  high := 0xffff
  toInt word := word.toNat
  ofInt value := UInt16.ofNat value.toNat
  low_le_toInt word := by omega
  toInt_le_high word := by have := word.toNat_lt; omega
  ofInt_toInt word := by simp
  toInt_ofInt value above below := by
    simp only [UInt16.toNat_ofNat']
    omega

instance : Word UInt32 where
  low := 0
  high := 0xffffffff
  toInt word := word.toNat
  ofInt value := UInt32.ofNat value.toNat
  low_le_toInt word := by omega
  toInt_le_high word := by have := word.toNat_lt; omega
  ofInt_toInt word := by simp
  toInt_ofInt value above below := by
    simp only [UInt32.toNat_ofNat']
    omega

instance : Word UInt64 where
  low := 0
  high := 0xffffffffffffffff
  toInt word := word.toNat
  ofInt value := UInt64.ofNat value.toNat
  low_le_toInt word := by omega
  toInt_le_high word := by have := word.toNat_lt; omega
  ofInt_toInt word := by simp
  toInt_ofInt value above below := by
    simp only [UInt64.toNat_ofNat']
    omega

instance : Word Int32 where
  low := -0x80000000
  high := 0x7fffffff
  toInt := Int32.toInt
  ofInt := Int32.ofInt
  low_le_toInt word := Int32.le_toInt word
  toInt_le_high word := by have := Int32.toInt_lt word; omega
  ofInt_toInt word := Int32.ofInt_toInt word
  toInt_ofInt value above below := Int32.toInt_ofInt_of_le (by omega) (by omega)

instance : Word Int64 where
  low := -0x8000000000000000
  high := 0x7fffffffffffffff
  toInt := Int64.toInt
  ofInt := Int64.ofInt
  low_le_toInt word := Int64.le_toInt word
  toInt_le_high word := by have := Int64.toInt_lt word; omega
  ofInt_toInt word := Int64.ofInt_toInt word
  toInt_ofInt value above below := Int64.toInt_ofInt_of_le (by omega) (by omega)

end OciBundle
