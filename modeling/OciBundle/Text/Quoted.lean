/-
**Texts quoted in messages.**

* `quoted`: a text between double quotes. A quote and a backslash are written with a backslash,
  common controls by their letter, and other characters without a visible form by their code point.
-/

import OciBundle.Text.Unprintable

namespace OciBundle.Text

/-- The hexadecimal digits of a number, in lower case. -/
def hexadecimal (value : Nat) : List Char :=
  Nat.toDigits 16 value

/-- The written form of one character between quotes. -/
def quotedChar (char : Char) : List Char :=
  if char = '"' then ['\\', '"']
  else if char = '\\' then ['\\', '\\']
  else if char = '\n' then ['\\', 'n']
  else if char = '\r' then ['\\', 'r']
  else if char = '\t' then ['\\', 't']
  else if char.toNat = 0 then ['\\', '0']
  else if isUnprintable char then ['\\', 'u', '\x7b'] ++ hexadecimal char.toNat ++ ['\x7d']
  else [char]

/-- A text as messages quote it. -/
def quoted (text : String) : String :=
  String.ofList ('"' :: text.toList.flatMap quotedChar ++ ['"'])

end OciBundle.Text
