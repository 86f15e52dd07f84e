/-
**The bytes of a text are read as its characters.**

A character is encoded by up to four bytes, of which all but the first carry six bits each.

* `scalar?_two`, `scalar?_three`, `scalar?_four`: the readings of longer sequences, by their bits.
* `ofBytes_utf8EncodeChar`: the bytes of a character are read as that character.
* `ofBytes_utf8Bytes`: the bytes of a text are read as that text.
-/

import OciBundle.Text.Glyph

namespace OciBundle

/-- The bytes that a text is stored as. -/
def Text.utf8Bytes (text : String) : List UInt8 :=
  text.toUTF8.data.toList

namespace Source

/-! ### Sequences by their bits -/

section Bits

variable {first second third fourth : UInt8} {rest : List UInt8} {a b c d : Nat}

theorem isTail_of_toNat (tail : second.toNat = b + 0x80) (six : b < 64) :
    isTail second = true := by
  simp only [isTail, Bool.and_eq_true, decide_eq_true_eq, UInt8.le_iff_toNat_le, UInt8.reduceToNat]
  omega

theorem payload_of_toNat (tail : second.toNat = b + 0x80) (six : b < 64) : payload second = b := by
  rw [payload, tail]
  omega

theorem scalar?_one (lead : first.toNat = a) (ascii : a < 128) :
    scalar? first rest = some (Char.ofNat a, 0) := by
  have small : first ≤ 0x7F := by
    show first.toNat ≤ 127
    omega
  unfold scalar?
  rw [if_pos small, lead]

theorem not_le_of_lead (lead : first.toNat = a) (long : 128 ≤ a) : ¬ first ≤ 0x7F := by
  show ¬ first.toNat ≤ 127
  omega

theorem scalar?_two (lead : first.toNat = a + 0xC0) (tail : second.toNat = b + 0x80)
    (noShorter : 128 ≤ a * 64 + b) (five : a < 32) (six : b < 64) :
    scalar? first (second :: rest) = some (Char.ofNat (a * 64 + b), 1) := by
  have range : (0xC2 ≤ first && first ≤ 0xDF) = true := by
    simp only [Bool.and_eq_true, decide_eq_true_eq, UInt8.le_iff_toNat_le, UInt8.reduceToNat]
    omega
  have bits : (a + 0xC0) % 32 = a := by omega
  unfold scalar?
  rw [if_neg (not_le_of_lead lead (by omega))]
  simp only [range, isTail_of_toNat tail six, Bool.and_self, if_true, lead, bits,
    payload_of_toNat tail six]

theorem scalar?_three (lead : first.toNat = a + 0xE0) (tail : second.toNat = b + 0x80)
    (last : third.toNat = c + 0x80) (noShorter : 2048 ≤ a * 4096 + b * 64 + c)
    (noSurrogate : a * 4096 + b * 64 + c < 0xD800 ∨ 0xDFFF < a * 4096 + b * 64 + c)
    (four : a < 16) (six : b < 64) (lastSix : c < 64) :
    scalar? first (second :: third :: rest) = some (Char.ofNat (a * 4096 + b * 64 + c), 2) := by
  have noTwo : (0xC2 ≤ first && first ≤ 0xDF && isTail second) = false := by
    simp only [Bool.and_eq_false_iff, decide_eq_false_iff_not, UInt8.le_iff_toNat_le,
      UInt8.reduceToNat]
    omega
  have range : (0xE0 ≤ first && first ≤ 0xEF &&
      (if first == 0xE0 then 0xA0 else 0x80 : UInt8) ≤ second &&
      second ≤ (if first == 0xED then 0x9F else 0xBF : UInt8) && isTail third) = true := by
    simp only [isTail_of_toNat last lastSix, Bool.and_true, Bool.and_eq_true, decide_eq_true_eq,
      UInt8.le_iff_toNat_le, apply_ite UInt8.toNat, beq_iff_eq, ← UInt8.toNat_inj,
      UInt8.reduceToNat]
    split <;> split <;> omega
  have bits : (a + 0xE0) % 16 = a := by omega
  unfold scalar?
  rw [if_neg (not_le_of_lead lead (by omega))]
  simp only [noTwo, range, Bool.false_eq_true, if_false, if_true, lead, bits,
    payload_of_toNat tail six, payload_of_toNat last lastSix]

theorem scalar?_four (lead : first.toNat = a + 0xF0) (tail : second.toNat = b + 0x80)
    (later : third.toNat = c + 0x80) (last : fourth.toNat = d + 0x80)
    (noShorter : 65536 ≤ a * 262144 + b * 4096 + c * 64 + d)
    (scalar : a * 262144 + b * 4096 + c * 64 + d < 0x110000)
    (six : b < 64) (laterSix : c < 64) (lastSix : d < 64) :
    scalar? first (second :: third :: fourth :: rest) =
      some (Char.ofNat (a * 262144 + b * 4096 + c * 64 + d), 3) := by
  have noTwo : (0xC2 ≤ first && first ≤ 0xDF && isTail second) = false := by
    simp only [Bool.and_eq_false_iff, decide_eq_false_iff_not, UInt8.le_iff_toNat_le,
      UInt8.reduceToNat]
    omega
  have noThree : (0xE0 ≤ first && first ≤ 0xEF) = false := by
    simp only [Bool.and_eq_false_iff, decide_eq_false_iff_not, UInt8.le_iff_toNat_le,
      UInt8.reduceToNat]
    omega
  have range : (0xF0 ≤ first && first ≤ 0xF4 &&
      (if first == 0xF0 then 0x90 else 0x80 : UInt8) ≤ second &&
      second ≤ (if first == 0xF4 then 0x8F else 0xBF : UInt8) && isTail third &&
      isTail fourth) = true := by
    simp only [isTail_of_toNat later laterSix, isTail_of_toNat last lastSix, Bool.and_true,
      Bool.and_eq_true, decide_eq_true_eq, UInt8.le_iff_toNat_le, apply_ite UInt8.toNat,
      beq_iff_eq, ← UInt8.toNat_inj, UInt8.reduceToNat]
    split <;> split <;> omega
  have bits : (a + 0xF0) % 8 = a := by omega
  unfold scalar?
  rw [if_neg (not_le_of_lead lead (by omega))]
  simp only [noTwo, noThree, range, Bool.false_and, Bool.false_eq_true, if_false, if_true, lead,
    bits, payload_of_toNat tail six, payload_of_toNat later laterSix, payload_of_toNat last lastSix]

end Bits

/-! ### Characters and texts -/

/-- Bytes below 256 are kept. -/
theorem toNat_ofNat {code : Nat} (byte : code < 256) : (UInt8.ofNat code).toNat = code :=
  UInt8.toNat_ofNat_of_lt' byte

/-- **The bytes of a character** are read as that character. -/
theorem ofBytes_utf8EncodeChar (char : Char) (rest : List UInt8) :
    ofBytes (String.utf8EncodeChar char ++ rest) = .char char :: ofBytes rest := by
  obtain ⟨value, code⟩ : ∃ value, char.val.toNat = value := ⟨_, rfl⟩
  have valid : value < 0xD800 ∨ 0xDFFF < value ∧ value < 0x110000 := code ▸ char.valid
  have same : Char.ofNat value = char := code ▸ Char.ofNat_toNat char
  unfold String.utf8EncodeChar
  simp only [code]
  split
  next ascii =>
    rw [List.singleton_append, ofBytes, scalar?_one (toNat_ofNat (by omega)) (by omega)]
    simp only [same, List.drop_zero]
  split
  next two =>
    have whole : value / 64 % 0x20 * 64 + value % 64 = value := by omega
    rw [List.cons_append, List.singleton_append, ofBytes,
      scalar?_two (toNat_ofNat (by omega)) (toNat_ofNat (by omega)) (by omega) (by omega) (by omega)]
    simp only [whole, same]
    rfl
  split
  next three =>
    have whole : value / 4096 % 0x10 * 4096 + value / 64 % 0x40 * 64 +
        value % 64 = value := by omega
    rw [List.cons_append, List.cons_append, List.singleton_append, ofBytes,
      scalar?_three (toNat_ofNat (by omega)) (toNat_ofNat (by omega)) (toNat_ofNat (by omega))
        (by omega) (by omega) (by omega) (by omega) (by omega)]
    simp only [whole, same]
    rfl
  next =>
    have whole : value / 262144 % 8 * 262144 + value / 4096 % 0x40 * 4096 +
        value / 64 % 0x40 * 64 + value % 64 = value := by omega
    rw [List.cons_append, List.cons_append, List.cons_append, List.singleton_append, ofBytes,
      scalar?_four (toNat_ofNat (by omega)) (toNat_ofNat (by omega)) (toNat_ofNat (by omega))
        (toNat_ofNat (by omega)) (by omega) (by omega) (by omega) (by omega) (by omega)]
    simp only [whole, same]
    rfl

/-- **The bytes of a text** are read as that text. -/
theorem ofBytes_utf8Bytes (text : String) : ofBytes (Text.utf8Bytes text) = ofString text := by
  have bytes : Text.utf8Bytes text = text.toList.flatMap String.utf8EncodeChar := by
    rw [Text.utf8Bytes, String.toUTF8, ← String.utf8Encode_toList, List.utf8Encode,
      List.toList_data_toByteArray]
  rw [bytes, ofString]
  induction text.toList with
  | nil => rw [List.flatMap_nil, ofBytes, List.map_nil]
  | cons char chars hypothesis =>
    rw [List.flatMap_cons, ofBytes_utf8EncodeChar, hypothesis, List.map_cons]

end Source

end OciBundle
