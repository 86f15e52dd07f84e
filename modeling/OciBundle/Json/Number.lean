/-
**JSON numbers.**

A number token is an optional minus sign, digits without a leading zero, an optional fraction and
an optional exponent. Its value is an integer when it is written as one and fits 64 bits; all other
numbers are reals, of which only the size matters: it has to stay within binary64.

* `Lexeme.scan`: the parts of a number token, or where they stop.
* `Lexeme.value`: the integer, real or overflow that the parts denote.
-/

import OciBundle.Json.Quote

namespace OciBundle.Json

/-- The value of a kept number. -/
inductive Number where
  | integer (value : Int)
  | real
  deriving DecidableEq

namespace Number

/-- The parts of a number token. -/
structure Lexeme where
  negative : Bool
  whole : List Nat
  fraction : List Nat
  /-- The sign and the digits of the exponent. -/
  exponent : Option (Bool × List Nat)
  deriving DecidableEq

/-- Why a number token is incomplete: the text ends, or goes on with another character. -/
inductive Stop where
  | atEnd
  | inside
  deriving DecidableEq

/-- The value of a decimal digit. -/
def digit? : Glyph → Option Nat
  | .char char => if 48 ≤ char.toNat ∧ char.toNat ≤ 57 then some (char.toNat - 48) else none
  | .stray _ => none

/-- The digits at the head, and the rest. -/
def spanDigits : Source → List Nat × Source
  | [] => ([], [])
  | glyph :: rest =>
    match digit? glyph with
    | none => ([], glyph :: rest)
    | some digit =>
      let (digits, rest) := spanDigits rest
      (digit :: digits, rest)

/-- Where a missing digit stops the token. -/
def stop (source : Source) : Stop :=
  if source.isEmpty then .atEnd else .inside

/-- The whole part: a zero that no digit follows, or digits. -/
def scanWhole (source : Source) : Except Stop (List Nat × Source) :=
  match spanDigits source with
  | ([], rest) => .error (stop rest)
  | (0 :: _ :: _, _) => .error .inside
  | (digits, rest) => .ok (digits, rest)

/-- The fraction, when a point follows. -/
def scanFraction (source : Source) : Except Stop (List Nat × Source) :=
  match source with
  | .char '.' :: rest =>
    match spanDigits rest with
    | ([], rest) => .error (stop rest)
    | (digits, rest) => .ok (digits, rest)
  | _ => .ok ([], source)

/-- The sign of an exponent. -/
def scanSign : Source → Bool × Source
  | .char '+' :: rest => (false, rest)
  | .char '-' :: rest => (true, rest)
  | source => (false, source)

/-- Whether a glyph begins an exponent. -/
def isExponentMark (glyph : Glyph) : Bool :=
  glyph = .char 'e' || glyph = .char 'E'

/-- The exponent, when its mark follows. -/
def scanExponent (source : Source) : Except Stop (Option (Bool × List Nat) × Source) :=
  match source with
  | [] => .ok (none, [])
  | mark :: rest =>
    if isExponentMark mark then
      let (negative, rest) := scanSign rest
      match spanDigits rest with
      | ([], rest) => .error (stop rest)
      | (digits, rest) => .ok (some (negative, digits), rest)
    else .ok (none, source)

/-- Reads a number token behind its sign. -/
def Lexeme.scan (negative : Bool) (source : Source) : Except Stop (Lexeme × Source) := do
  let (whole, rest) ← scanWhole source
  let (fraction, rest) ← scanFraction rest
  let (exponent, rest) ← scanExponent rest
  return (⟨negative, whole, fraction, exponent⟩, rest)

/-! ### The size of a number -/

/-- The number that digits denote behind a leading one. -/
def ofDigits (start : Nat) (digits : List Nat) : Nat :=
  digits.foldl (fun value digit => value * 10 + digit) start

/-- The digits that still fit 64 bits behind a leading number, and the rest. -/
def fittingDigits : Nat → List Nat → Nat × List Nat
  | value, [] => (value, [])
  | value, digit :: rest =>
    if value * 10 + digit ≤ 0xffffffffffffffff then fittingDigits (value * 10 + digit) rest
    else (value, digit :: rest)

/-- A number rounded to 53 significant bits, half to even. -/
def roundToDouble (value : Nat) : Nat :=
  let excess := value.log2 - 52
  let unit := 1 <<< excess
  let kept := value / unit
  let left := value % unit
  if left * 2 > unit ∨ (left * 2 = unit ∧ kept % 2 = 1) then (kept + 1) * unit else kept * unit

/-- Whether the product of a 64-bit significand and a power of ten lies beyond binary64, when both
factors are rounded first. -/
def overflows (significand : Nat) (exponent : Int) : Bool :=
  significand ≠ 0 && (exponent > 308 ||
    (exponent ≥ 0 && roundToDouble significand * roundToDouble (Nat.pow 10 exponent.toNat)
      ≥ 1 <<< 1024 - 1 <<< 970))

/-- The 64-bit significand and the power of ten of a token. Digits beyond 64 bits are dropped: in
the whole part they raise the exponent, in the fraction they leave it alone. -/
def Lexeme.scaled (lexeme : Lexeme) : Nat × Int :=
  let (whole, dropped) := fittingDigits 0 lexeme.whole
  let (significand, ignored) := fittingDigits whole lexeme.fraction
  let shift : Int := dropped.length - (lexeme.fraction.length - ignored.length : Nat)
  match lexeme.exponent with
  | none => (significand, shift)
  | some (negative, digits) =>
    let size : Int := ofDigits 0 digits
    (significand, if negative then shift - size else shift + size)

/-- The value of a token; a number beyond binary64 is refused. -/
def Lexeme.value (lexeme : Lexeme) : Except Fault Number :=
  let size := ofDigits 0 lexeme.whole
  if lexeme.fraction.isEmpty && lexeme.exponent.isNone &&
      (if lexeme.negative then 0 < size && size ≤ 0x8000000000000000
        else size ≤ 0xffffffffffffffff) then
    .ok (.integer (if lexeme.negative then -size else size))
  else
    let (significand, exponent) := lexeme.scaled
    if overflows significand exponent then .error .malformed else .ok .real

end Number

end OciBundle.Json
