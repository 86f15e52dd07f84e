/-
**JSON strings: the written form and the scan of a string token.**

A written string escapes the quote, the backslash and the control characters below U+0020; all
other characters stand for themselves. A scanned string is cut into pieces first: a glyph, or a
UTF-16 unit given as four hexadecimal digits. Where a string is only passed over, its pieces are
not looked at; where it is kept, units have to pair up and there may be no stray byte.

* `Quote.encode`: the written form of a text.
* `Quote.scan`: the pieces up to the closing quote.
* `Quote.decode`: the text of the pieces.
-/

import OciBundle.Text.Glyph

namespace OciBundle

/-- Why a JSON text is refused. -/
inductive Json.Fault where
  /-- The text is no JSON text, or a list form is too long. -/
  | malformed
  /-- The text ends too early. -/
  | truncated
  /-- A value has the wrong type or range, or a member is repeated. -/
  | mismatch
  /-- The text cannot be read at all. -/
  | unreadable
  deriving DecidableEq, Inhabited

namespace Json.Quote

/-! ### Writing -/

/-- A hexadecimal digit in lower case. -/
def hexDigit (value : Nat) : Char :=
  if value < 10 then Char.ofNat (48 + value) else Char.ofNat (87 + value)

/-- The written form of a character. -/
def encodeChar (char : Char) : List Char :=
  if char = '"' then ['\\', '"']
  else if char = '\\' then ['\\', '\\']
  else if char.toNat = 8 then ['\\', 'b']
  else if char.toNat = 12 then ['\\', 'f']
  else if char = '\n' then ['\\', 'n']
  else if char = '\r' then ['\\', 'r']
  else if char = '\t' then ['\\', 't']
  else if char.toNat < 32 then
    ['\\', 'u', '0', '0', hexDigit (char.toNat / 16), hexDigit (char.toNat % 16)]
  else [char]

/-- The written form of a text, quotes included. -/
def encode (text : String) : List Char :=
  '"' :: text.toList.flatMap encodeChar ++ ['"']

/-! ### Scanning -/

/-- A piece of a string token. -/
inductive Piece where
  /-- A glyph that stands for itself or was escaped by a letter. -/
  | glyph (value : Glyph)
  /-- A UTF-16 unit that was escaped by its number. -/
  | unit (value : Nat)
  deriving DecidableEq

/-- The value of a hexadecimal digit. -/
def hexValue? (char : Char) : Option Nat :=
  let code := char.toNat
  if 48 ≤ code ∧ code ≤ 57 then some (code - 48)
  else if 97 ≤ code ∧ code ≤ 102 then some (code - 87)
  else if 65 ≤ code ∧ code ≤ 70 then some (code - 55)
  else none

/-- The value of the hexadecimal digit that a glyph is. -/
def hexGlyph? (glyph : Glyph) : Option Nat :=
  glyph.char?.bind hexValue?

/-- The unit of four hexadecimal digits. -/
def unit? (first second third fourth : Glyph) : Option Nat := do
  let a ← hexGlyph? first
  let b ← hexGlyph? second
  let c ← hexGlyph? third
  let d ← hexGlyph? fourth
  return ((a * 16 + b) * 16 + c) * 16 + d

/-- The character that a letter behind a backslash stands for. -/
def letterEscape? (letter : Char) : Option Char :=
  if letter = '"' ∨ letter = '\\' ∨ letter = '/' then some letter
  else if letter = 'b' then some (Char.ofNat 8)
  else if letter = 'f' then some (Char.ofNat 12)
  else if letter = 'n' then some '\n'
  else if letter = 'r' then some '\r'
  else if letter = 't' then some '\t'
  else none

/-- The pieces of a string whose opening quote has been read, and the rest behind its closing quote
or the fault that ends it. Where four digits are due, too few bytes are found before a wrong digit. -/
def scan : Source → List Piece × Except Fault Source
  | [] => ([], .error .truncated)
  | .char '"' :: rest => ([], .ok rest)
  | .char '\\' :: [] => ([], .error .truncated)
  | .char '\\' :: .char 'u' :: first :: second :: third :: fourth :: rest =>
    match unit? first second third fourth with
    | none => ([], .error .malformed)
    | some value =>
      let (pieces, ending) := scan rest
      (.unit value :: pieces, ending)
  | .char '\\' :: .char 'u' :: rest =>
    ([], .error (if Source.size rest < 4 then .truncated else .malformed))
  | .char '\\' :: letter :: rest =>
    match letter.char?.bind letterEscape? with
    | none => ([], .error .malformed)
    | some char =>
      let (pieces, ending) := scan rest
      (.glyph (.char char) :: pieces, ending)
  | glyph :: rest =>
    if glyph.char?.any (·.toNat < 32) then ([], .error .malformed)
    else
      let (pieces, ending) := scan rest
      (.glyph glyph :: pieces, ending)

/-! ### The kept text -/

/-- Whether a unit is the first half of a pair. -/
def isHigh (unit : Nat) : Bool := 0xD800 ≤ unit && unit ≤ 0xDBFF

/-- Whether a unit is the second half of a pair. -/
def isLow (unit : Nat) : Bool := 0xDC00 ≤ unit && unit ≤ 0xDFFF

/-- The glyphs of pieces. A half without its partner is refused; `ending` is the fault for a first
half at the end. -/
def glyphs (ending : Fault) : List Piece → Except Fault Source
  | [] => .ok []
  | .glyph value :: rest => (glyphs ending rest).map (value :: ·)
  | .unit value :: rest =>
    if isLow value then .error .malformed
    else if isHigh value then
      match rest with
      | [] => .error ending
      | .unit next :: rest =>
        if isLow next then
          let code := 0x10000 + (value - 0xD800) * 0x400 + (next - 0xDC00)
          (glyphs ending rest).map (.char (Char.ofNat code) :: ·)
        else .error .malformed
      | .glyph _ :: _ => .error .malformed
    else (glyphs ending rest).map (.char (Char.ofNat value) :: ·)

/-- The text of a scanned string. A broken pair is found on its way, the end of the string next,
and a stray byte last. -/
def decode (pieces : List Piece) (ending : Option Fault) : Except Fault String :=
  match glyphs (ending.getD .malformed) pieces, ending with
  | .error fault, _ => .error fault
  | .ok _, some fault => .error fault
  | .ok source, none => source.text?.elim (.error .malformed) .ok

end Json.Quote

end OciBundle
