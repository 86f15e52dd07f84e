/-
**Reading documents.**

* `Document.read`: the document of a source.

The functions that call each other take a bound on the depth of their calls first. A call that
stops where the text cannot be continued has no rest; every reader of the document then comes
across a fault before it asks for what follows.
-/

import OciBundle.Json.Document

namespace OciBundle.Json

/-- Whether a glyph is a blank between tokens. -/
def isGap (glyph : Glyph) : Bool :=
  glyph = .char ' ' || glyph = .char '\n' || glyph = .char '\t' || glyph = .char '\r'

/-- The source behind its leading blanks. -/
def skipGap (source : Source) : Source :=
  source.dropWhile isGap

/-- The rest behind the letters of a literal. -/
def expectLetters : List Char → Source → Except Fault Source
  | [], rest => .ok rest
  | _ :: _, [] => .error .truncated
  | letter :: letters, glyph :: rest =>
    if glyph = .char letter then expectLetters letters rest else .error .malformed

/-- Reads the null literal behind its first letter. -/
def readNull (source : Source) : Document × Option Source :=
  match expectLetters ['u', 'l', 'l'] source with
  | .ok rest => (.null, some rest)
  | .error fault => (.broken fault, none)

/-- Reads the literal of a truth value behind its first letter. -/
def readBool (value : Bool) (letters : List Char) (source : Source) : Document × Option Source :=
  match expectLetters letters source with
  | .ok rest => (.bool ⟨.ok value, none⟩, some rest)
  | .error fault => (.bool ⟨.error fault, some fault⟩, none)

/-- Reads a number behind its sign. Where it is passed over, a number that ends too early is
malformed. -/
def readNumber (negative : Bool) (source : Source) : Document × Option Source :=
  match Number.Lexeme.scan negative source with
  | .ok (lexeme, rest) => (.number ⟨lexeme.value, none⟩, some rest)
  | .error stop =>
    let fault := if stop = .atEnd then .truncated else .malformed
    (.number ⟨.error fault, some .malformed⟩, none)

/-- Reads a string behind its opening quote. -/
def readText (source : Source) : Token String × Option Source :=
  let (pieces, ending) := Quote.scan source
  match ending with
  | .ok rest => (⟨Quote.decode pieces none, none⟩, some rest)
  | .error fault => (⟨Quote.decode pieces (some fault), some fault⟩, none)

/-- Whether a glyph begins a number. -/
def isDigit (glyph : Glyph) : Bool :=
  (Number.digit? glyph).isSome

namespace Document

mutual

/-- Reads a value. -/
def readValue : Nat → Source → Document × Option Source
  | 0, _ => (.broken .truncated, none)
  | depth + 1, source =>
    match skipGap source with
    | [] => (.broken .truncated, none)
    | .char 'n' :: rest => readNull rest
    | .char 't' :: rest => readBool true ['r', 'u', 'e'] rest
    | .char 'f' :: rest => readBool false ['a', 'l', 's', 'e'] rest
    | .char '-' :: rest => readNumber true rest
    | .char '"' :: rest =>
      let (token, rest) := readText rest
      (.text token, rest)
    | .char '[' :: rest =>
      match skipGap rest with
      | [] => (.list [] (some .truncated), none)
      | .char ']' :: rest => (.list [] none, some rest)
      | rest =>
        let (items, ending, rest) := readItems depth rest
        (.list items ending, rest)
    | .char '\x7b' :: rest =>
      match skipGap rest with
      | .char '\x7d' :: rest => (.object [] none, some rest)
      | rest =>
        let (members, ending, rest) := readMembers depth rest
        (.object members ending, rest)
    | glyph :: rest =>
      if isDigit glyph then readNumber false (glyph :: rest) else (.broken .malformed, none)

/-- Reads items up to the closing bracket; there is at least one. -/
def readItems : Nat → Source → List Document × Option Fault × Option Source
  | 0, _ => ([], some .truncated, none)
  | depth + 1, source =>
    match readValue depth source with
    | (item, none) => ([item], none, none)
    | (item, some rest) =>
      match skipGap rest with
      | [] => ([item], some .truncated, none)
      | .char ']' :: rest => ([item], none, some rest)
      | .char ',' :: rest =>
        let (items, ending, rest) := readItems depth rest
        (item :: items, ending, rest)
      | _ => ([item], some .malformed, none)

/-- Reads members up to the closing brace; there is at least one. -/
def readMembers : Nat → Source → List (Token String × Document) × Option Break × Option Source
  | 0, _ => ([], some ⟨.truncated, .truncated⟩, none)
  | depth + 1, source =>
    match skipGap source with
    | [] => ([], some ⟨.truncated, .truncated⟩, none)
    | .char '"' :: rest =>
      match readText rest with
      | (name, none) => ([(name, .broken .malformed)], none, none)
      | (name, some rest) =>
        match skipGap rest with
        | [] => ([(name, .broken .truncated)], none, none)
        | .char ':' :: rest =>
          match readValue depth rest with
          | (value, none) => ([(name, value)], none, none)
          | (value, some rest) =>
            match skipGap rest with
            | [] => ([(name, value)], some ⟨.truncated, .truncated⟩, none)
            | .char '\x7d' :: rest => ([(name, value)], none, some rest)
            | .char ',' :: rest =>
              let (members, ending, rest) := readMembers depth rest
              ((name, value) :: members, ending.map Break.behindComma, rest)
            | _ => ([(name, value)], some ⟨.malformed, .malformed⟩, none)
        | _ => ([(name, .broken .malformed)], none, none)
    | _ => ([], some ⟨.malformed, .malformed⟩, none)

end

/-- Reads a whole text. -/
def read (source : Source) : Whole :=
  match readValue (2 * source.length + 2) source with
  | (value, none) => ⟨value, none⟩
  | (value, some rest) => ⟨value, if (skipGap rest).isEmpty then none else some .malformed⟩

end Document

end OciBundle.Json
