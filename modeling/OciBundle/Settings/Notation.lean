/-
**The notation of settings.**

Settings are written in TOML; only lines `key = value` with texts, truth values and integers can
say something about them. Lines end with a line feed, also behind a carriage return, and a number
sign begins a comment.

* `Quotes.read`: a text between quotes. Single quotes keep what is between them, double quotes know
  escapes, and three quotes allow for several lines.
* `integer`: an integer with underscores between its digits, in base 2, 8, 10 or 16.
* `assignment`: a line `key = value`.
-/

import OciBundle.Text.Numeral
import OciBundle.Text.Separated
import OciBundle.Word

namespace OciBundle.Settings

/-- A list of characters in which a carriage return before a line feed is dropped. -/
def foldLines : List Char → List Char
  | [] => []
  | '\r' :: '\n' :: rest => '\n' :: foldLines rest
  | char :: rest => char :: foldLines rest

/-- Whether a character is a blank within a line. -/
def isBlank (char : Char) : Bool := char = ' ' || char = '\t'

/-- Whether a character may stand in a comment. -/
def isCommentChar (char : Char) : Bool := char = '\t' || 32 ≤ char.toNat

/-- Whether a character may stand between quotes. -/
def isTextChar (char : Char) : Bool := isCommentChar char && char.toNat ≠ 127

/-- Whether a character may stand in a word without quotes. -/
def isWordChar (char : Char) : Bool := char.isAlphanum || char = '-' || char = '_'

/-! ### Texts -/

namespace Quotes

/-- The quotes at the end of a text, if it ends here: those that belong to it and what follows. Of
five quotes that end a text of several lines, two belong to it. -/
def ending (quote : Char) (lines : Bool) (chars : List Char) : Option (List Char × List Char) :=
  let quotes := (chars.take (if lines then 5 else 1)).takeWhile (· = quote)
  let needed := if lines then 3 else 1
  if needed ≤ quotes.length then some (quotes.drop needed, chars.drop quotes.length) else none

/-- The character of a code point given by hexadecimal digits. -/
def codePoint (digits : List Char) : Option Char := do
  let code ← (Numeral.digits 16 0x100000000 .tooLarge 0 digits).toOption
  if Nat.isValidChar code then some (Char.ofNat code) else none

/-- The character of a short escape. -/
def escaped : Char → Option Char
  | '"' => some '"'
  | '\\' => some '\\'
  | 'b' => some (Char.ofNat 8)
  | 'f' => some (Char.ofNat 12)
  | 'n' => some '\n'
  | 'r' => some '\r'
  | 't' => some '\t'
  | _ => none

/-- Reads the rest of a text between single quotes. -/
def literal (lines : Bool) : List Char → Option (List Char × List Char)
  | [] => none
  | char :: rest =>
    match ending '\'' lines (char :: rest) with
    | some found => some found
    | none =>
      if isTextChar char ∨ (lines ∧ char = '\n') then
        (literal lines rest).map fun (text, rest) => (char :: text, rest)
      else none

/-- What a backslash at the end of a line leaves out. -/
inductive Gap where
  /-- Nothing. -/
  | none
  /-- The blanks up to the end of the line. -/
  | line
  /-- Blanks and line ends up to the next other character. -/
  | all
  deriving DecidableEq

/-- Reads the rest of a text between double quotes. -/
def basic (lines : Bool) : Gap → List Char → Option (List Char × List Char)
  | .line, ' ' :: rest => basic lines .line rest
  | .line, '\t' :: rest => basic lines .line rest
  | .line, '\n' :: rest => basic lines .all rest
  | .line, _ => none
  | .all, ' ' :: rest => basic lines .all rest
  | .all, '\t' :: rest => basic lines .all rest
  | .all, '\n' :: rest => basic lines .all rest
  | _, '\\' :: 'u' :: a :: b :: c :: d :: rest => do
    let char ← codePoint [a, b, c, d]
    (basic lines .none rest).map fun (text, rest) => (char :: text, rest)
  | _, '\\' :: 'U' :: a :: b :: c :: d :: e :: f :: g :: h :: rest => do
    let char ← codePoint [a, b, c, d, e, f, g, h]
    (basic lines .none rest).map fun (text, rest) => (char :: text, rest)
  | _, '\\' :: letter :: rest =>
    match escaped letter with
    | some char => (basic lines .none rest).map fun (text, rest) => (char :: text, rest)
    | none =>
      if ¬ lines then none
      else if letter = '\n' then basic lines .all rest
      else if isBlank letter then basic lines .line rest
      else none
  | _, char :: rest =>
    match ending '"' lines (char :: rest) with
    | some found => some found
    | none =>
      if char ≠ '\\' ∧ (isTextChar char ∨ (lines ∧ char = '\n')) then
        (basic lines .none rest).map fun (text, rest) => (char :: text, rest)
      else none
  | _, [] => none

/-- Reads the rest of a text behind its first quotes. -/
def body (quote : Char) (lines : Bool) (chars : List Char) : Option (List Char × List Char) :=
  if quote = '"' then basic lines .none chars else literal lines chars

/-- A text between quotes, as it is read. -/
structure Reading where
  text : String
  /-- Whether the text is between three quotes. -/
  lines : Bool
  rest : List Char

/-- Reads a text behind its first quote. A line end right behind three quotes is dropped. -/
def read (quote : Char) (chars : List Char) : Option Reading :=
  let found (lines : Bool) (read : Option (List Char × List Char)) : Option Reading :=
    read.map fun (text, rest) => ⟨String.ofList text, lines, rest⟩
  if chars.take 2 = [quote, quote] then
    match chars.drop 2 with
    | '\n' :: rest => found true (body quote true rest)
    | rest => found true (body quote true rest)
  else found false (body quote false chars)

end Quotes

/-! ### Integers -/

/-- The digits of an integer: of the base, with single underscores between them. In base ten a zero
stands alone. -/
def integerDigits (base : Nat) (chars : List Char) : Option (List Char) :=
  let groups := Text.pieces '_' chars
  let digits := groups.flatten
  if groups.any (·.isEmpty) ∨ ¬ digits.all fun char => (Numeral.digit? base char).isSome then none
  else if base = 10 ∧ digits.head? = some '0' ∧ chars ≠ ['0'] then none
  else some digits

/-- Reads an integer of 64 bits. A minus sign is for base ten only. -/
def integer (chars : List Char) : Option Int64 :=
  let read (base : Nat) (sign digits : List Char) : Option Int64 := do
    let digits ← integerDigits base digits
    let value ← (Numeral.integer base (Word.low Int64) (Word.high Int64) (sign ++ digits)).toOption
    return Word.ofInt value
  match chars with
  | '0' :: 'x' :: digits => read 16 [] digits
  | '0' :: 'o' :: digits => read 8 [] digits
  | '0' :: 'b' :: digits => read 2 [] digits
  | '-' :: digits => read 10 ['-'] digits
  | digits => read 10 [] digits

/-! ### Lines -/

/-- What a key is set to. -/
inductive Value where
  | text (value : String)
  | truth (value : Bool)
  | number (value : Int64)
  deriving DecidableEq

/-- Reads a word without quotes. -/
def word (chars : List Char) : List Char × List Char :=
  (chars.takeWhile isWordChar, chars.dropWhile isWordChar)

/-- Reads a value. A plus sign may stand before an integer. -/
def value : List Char → Option (Value × List Char)
  | '"' :: rest => (Quotes.read '"' rest).map fun found => (.text found.text, found.rest)
  | '\'' :: rest => (Quotes.read '\'' rest).map fun found => (.text found.text, found.rest)
  | '+' :: chars =>
    let (digits, rest) := word chars
    (integer digits).map fun number => (.number number, rest)
  | chars =>
    let (name, rest) := word chars
    if name = ['t', 'r', 'u', 'e'] then some (.truth true, rest)
    else if name = ['f', 'a', 'l', 's', 'e'] then some (.truth false, rest)
    else (integer name).map fun number => (.number number, rest)

/-- Reads a key: a word, or a text between single quotes or double quotes. -/
def key (chars : List Char) : Option (String × List Char) :=
  let quoted (quote : Char) (rest : List Char) : Option (String × List Char) := do
    let found ← Quotes.read quote rest
    if found.lines then none else some (found.text, found.rest)
  match chars with
  | '"' :: rest => quoted '"' rest
  | '\'' :: rest => quoted '\'' rest
  | chars =>
    match word chars with
    | ([], _) => none
    | (name, rest) => some (String.ofList name, rest)

/-- What follows the end of a line. -/
def lineEnd (chars : List Char) : Option (List Char) :=
  let chars := match chars.dropWhile isBlank with
    | '#' :: comment => comment.dropWhile isCommentChar
    | chars => chars
  match chars with
  | [] => some []
  | '\n' :: rest => some rest
  | _ => none

/-- Reads a line `key = value`. -/
def assignment (chars : List Char) : Option ((String × Value) × List Char) := do
  let (key, rest) ← key chars
  match rest.dropWhile isBlank with
  | '=' :: rest =>
    let (value, rest) ← value (rest.dropWhile isBlank)
    let rest ← lineEnd rest
    return ((key, value), rest)
  | _ => none

/-- Drops empty lines and comments. -/
def skipEmpty : Bool → List Char → Option (List Char)
  | _, [] => some []
  | true, char :: rest =>
    if char = '\n' then skipEmpty false rest
    else if isCommentChar char then skipEmpty true rest
    else none
  | false, char :: rest =>
    if isBlank char ∨ char = '\n' then skipEmpty false rest
    else if char = '#' then skipEmpty true rest
    else some (char :: rest)

/-- Reads all lines. -/
def lines (chars : List Char) : Option (List (String × Value)) :=
  match skipEmpty false chars with
  | none => none
  | some [] => some []
  | some (char :: rest) =>
    match assignment (char :: rest) with
    | none => none
    | some (first, rest) =>
      if _shorter : rest.length < chars.length then (lines rest).map (first :: ·) else none
termination_by chars.length

/-- Reads a text; a mark of its byte order is dropped. -/
def read (text : String) : Option (List (String × Value)) :=
  match text.toList with
  | first :: rest => lines (foldLines (if first.toNat = 0xfeff then rest else first :: rest))
  | [] => some []

end OciBundle.Settings
