/-
**Blanks of all scripts.**

* `isBlank`: the characters with the property White_Space.
* `trim`: a text without the blanks at its two ends.
-/

namespace OciBundle.Text

/-- Whether a character is a blank of some script. -/
def isBlank (char : Char) : Bool :=
  let code := char.toNat
  (9 ≤ code && code ≤ 13) || code == 0x20 || code == 0x85 || code == 0xA0 || code == 0x1680
    || (0x2000 ≤ code && code ≤ 0x200A) || code == 0x2028 || code == 0x2029 || code == 0x202F
    || code == 0x205F || code == 0x3000

/-- Drops the blanks at the beginning. -/
def dropBlanks (chars : List Char) : List Char :=
  chars.dropWhile isBlank

/-- A text without the blanks at its two ends. -/
def trim (text : String) : String :=
  String.ofList (dropBlanks (dropBlanks text.toList).reverse).reverse

end OciBundle.Text
