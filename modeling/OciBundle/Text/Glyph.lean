/-
**Sources: texts that may hold ill-formed bytes.**

A file is read as a list of glyphs. A glyph is a character, or one byte that belongs to no
well-formed UTF-8 sequence.

* `Source.ofString`: every character is a glyph.
* `Source.ofBytes`: the longest well-formed reading of a byte sequence.
* `Source.text?`: the text of a source without stray bytes.
-/

namespace OciBundle

/-- One unit of a text read from outside. -/
inductive Glyph where
  /-- A character. -/
  | char (value : Char)
  /-- A byte outside every well-formed UTF-8 sequence. -/
  | stray (byte : UInt8)
  deriving DecidableEq, Inhabited

/-- A text as it was read, stray bytes included. -/
abbrev Source := List Glyph

namespace Glyph

/-- The character of a glyph. -/
def char? : Glyph → Option Char
  | .char value => some value
  | .stray _ => none

/-- The number of bytes that a glyph stands for. -/
def size : Glyph → Nat
  | .char value => value.utf8Size
  | .stray _ => 1

end Glyph

namespace Source

/-- The source of a well-formed text. -/
def ofString (text : String) : Source :=
  text.toList.map .char

/-- The characters of a source without stray bytes. -/
def chars? : Source → Option (List Char)
  | [] => some []
  | .char value :: rest => (chars? rest).map (value :: ·)
  | .stray _ :: _ => none

/-- The text of a source without stray bytes. -/
def text? (source : Source) : Option String :=
  (chars? source).map String.ofList

/-- The number of bytes of a source. -/
def size : Source → Nat
  | [] => 0
  | glyph :: rest => glyph.size + size rest

theorem chars?_map_char (chars : List Char) : chars? (chars.map .char) = some chars := by
  induction chars with
  | nil => rfl
  | cons first rest hypothesis => simp [chars?, hypothesis]

/-- A well-formed text reads back from its source. -/
@[simp] theorem text?_ofString (text : String) : text? (ofString text) = some text := by
  simp [text?, ofString, chars?_map_char]

/-! ### Bytes -/

/-- Whether a byte continues a sequence. -/
def isTail (byte : UInt8) : Bool := 0x80 ≤ byte && byte ≤ 0xBF

/-- The payload of a continuation byte. -/
def payload (byte : UInt8) : Nat := byte.toNat % 64

/-- The character that a well-formed sequence at the head encodes, with the number of bytes after
the first one. Overlong forms, surrogates and values above U+10FFFF are refused by the range of the
second byte. -/
def scalar? (first : UInt8) (rest : List UInt8) : Option (Char × Nat) :=
  if first ≤ 0x7F then some (Char.ofNat first.toNat, 0)
  else match rest with
    | second :: rest =>
      if 0xC2 ≤ first && first ≤ 0xDF && isTail second then
        some (Char.ofNat ((first.toNat % 32) * 64 + payload second), 1)
      else match rest with
        | third :: rest =>
          let low : UInt8 := if first == 0xE0 then 0xA0 else 0x80
          let high : UInt8 := if first == 0xED then 0x9F else 0xBF
          if 0xE0 ≤ first && first ≤ 0xEF && low ≤ second && second ≤ high && isTail third then
            some (Char.ofNat ((first.toNat % 16) * 4096 + payload second * 64 + payload third), 2)
          else match rest with
            | fourth :: _ =>
              let low : UInt8 := if first == 0xF0 then 0x90 else 0x80
              let high : UInt8 := if first == 0xF4 then 0x8F else 0xBF
              if 0xF0 ≤ first && first ≤ 0xF4 && low ≤ second && second ≤ high
                  && isTail third && isTail fourth then
                some (Char.ofNat ((first.toNat % 8) * 262144 + payload second * 4096
                  + payload third * 64 + payload fourth), 3)
              else none
            | [] => none
        | [] => none
    | [] => none

/-- The source of a byte sequence. UTF-8 sequences cannot overlap, so a slice between two ASCII
characters is well formed exactly when its glyphs hold no stray byte. -/
def ofBytes : List UInt8 → Source
  | [] => []
  | first :: rest =>
    match scalar? first rest with
    | some (value, more) => .char value :: ofBytes (rest.drop more)
    | none => .stray first :: ofBytes rest
termination_by bytes => bytes.length
decreasing_by all_goals (simp only [List.length_cons, List.length_drop]; omega)

end Source

end OciBundle
