/-
**Integer texts.**

An integer text is an optional sign and at least one digit; a minus sign is for ranges that hold
negative numbers. Digits are ASCII, leading zeros are allowed, blanks are not.

* `integer`: reads an integer text of a base within a range. The first character that is no digit
  or takes the value out of the range decides the fault.
* `decimal`: the same for base ten, on texts.
-/

namespace OciBundle.Numeral

/-- Why a text is not an integer of a range. -/
inductive Fault where
  /-- There is no character at all. -/
  | empty
  /-- A character is no digit, or a sign stands alone. -/
  | notADigit
  /-- The value lies above the range. -/
  | tooLarge
  /-- The value lies below the range. -/
  | tooSmall
  deriving DecidableEq

/-- The text of a fault. -/
def Fault.message : Fault → String
  | .empty => "cannot parse integer from empty string"
  | .notADigit => "invalid digit found in string"
  | .tooLarge => "number too large to fit in target type"
  | .tooSmall => "number too small to fit in target type"

/-- The value of an ASCII digit of a base up to sixteen. -/
def digit? (base : Nat) (char : Char) : Option Nat :=
  let code := char.toNat
  let value? :=
    if 48 ≤ code ∧ code ≤ 57 then some (code - 48)
    else if 97 ≤ code ∧ code ≤ 102 then some (code - 87)
    else if 65 ≤ code ∧ code ≤ 70 then some (code - 55)
    else none
  value?.filter (· < base)

/-- Reads digits behind a value, which may not pass the limit. -/
def digits (base limit : Nat) (above : Fault) : Nat → List Char → Except Fault Nat
  | value, [] => .ok value
  | value, char :: rest =>
    match digit? base char with
    | none => .error .notADigit
    | some digit =>
      if value * base + digit ≤ limit then digits base limit above (value * base + digit) rest
      else .error above

/-- Reads an integer text of a base within the range from `low` to `high`. -/
def integer (base : Nat) (low high : Int) : List Char → Except Fault Int
  | [] => .error .empty
  | '+' :: [] => .error .notADigit
  | '-' :: [] => .error .notADigit
  | '+' :: rest => (digits base high.toNat .tooLarge 0 rest).map Int.ofNat
  | '-' :: rest =>
    if low < 0 then (digits base (-low).toNat .tooSmall 0 rest).map fun value => -Int.ofNat value
    else .error .notADigit
  | chars => (digits base high.toNat .tooLarge 0 chars).map Int.ofNat

/-- Reads a decimal integer text. -/
def decimal (low high : Int) (text : String) : Except Fault Int :=
  integer 10 low high text.toList

end OciBundle.Numeral
