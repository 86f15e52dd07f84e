/-
**The grammar of JSON texts.**

A text is spelled token by token: blanks around the tokens, escapes and surrogate units in strings,
numbers with fraction and exponent. The grammar speaks of documents only where it says what a token
stands for; it does not mention the reader.

* `Spells`: the texts of a document.
* `Document.skip_of_spells`: a spelled document can be passed over.
* `before`: a text in front of a source.
-/

import OciBundle.Json.Document

namespace OciBundle.Json

/-! ### Tokens -/

/-- Blanks between tokens. -/
def Gap (chars : List Char) : Prop :=
  ∀ char ∈ chars, char ∈ [' ', '\n', '\t', '\r']

namespace Number

/-- The digits of a text. -/
def Digits (chars : List Char) : Prop :=
  chars ≠ [] ∧ ∀ char ∈ chars, char.isDigit

/-- The numbers that digits stand for. -/
def values (chars : List Char) : List Nat :=
  chars.map fun char => char.toNat - 48

/-- A fraction behind its point. -/
inductive SpellsFraction : List Nat → List Char → Prop
  | none : SpellsFraction [] []
  | some {digits : List Char} (given : Digits digits) : SpellsFraction (values digits) ('.' :: digits)

/-- The sign of an exponent. -/
inductive SpellsSign : Bool → List Char → Prop
  | none : SpellsSign false []
  | plus : SpellsSign false ['+']
  | minus : SpellsSign true ['-']

/-- An exponent behind its mark. -/
inductive SpellsExponent : Option (Bool × List Nat) → List Char → Prop
  | none : SpellsExponent none []
  | some {mark : Char} {negative : Bool} {sign digits : List Char} (marks : mark ∈ ['e', 'E'])
    (signed : SpellsSign negative sign) (given : Digits digits) :
    SpellsExponent (some (negative, values digits)) (mark :: (sign ++ digits))

/-- A number behind its sign: digits, of which the first one is a zero only where it is the single
one, a fraction and an exponent. -/
inductive SpellsUnsigned (negative : Bool) : Lexeme → List Char → Prop
  | unsigned {whole fractionText exponentText : List Char} {fraction : List Nat}
    {exponent : Option (Bool × List Nat)} (given : Digits whole)
    (leading : whole.head? = some '0' → whole = ['0'])
    (spelledFraction : SpellsFraction fraction fractionText)
    (spelledExponent : SpellsExponent exponent exponentText) :
    SpellsUnsigned negative ⟨negative, values whole, fraction, exponent⟩
      (whole ++ (fractionText ++ exponentText))

/-- A number. -/
inductive SpellsNumber : Lexeme → List Char → Prop
  | positive {lexeme : Lexeme} {chars : List Char} (unsigned : SpellsUnsigned false lexeme chars) :
    SpellsNumber lexeme chars
  | negative {lexeme : Lexeme} {chars : List Char} (unsigned : SpellsUnsigned true lexeme chars) :
    SpellsNumber lexeme ('-' :: chars)

end Number

namespace Quote

/-- A piece of a string. -/
inductive SpellsPiece : Piece → List Char → Prop
  | plain {char : Char} (noQuote : char ≠ '"') (noBackslash : char ≠ '\\')
    (noControl : 32 ≤ char.toNat) : SpellsPiece (.glyph (.char char)) [char]
  | letter {letter char : Char} (escape : (letter, char) ∈ [('"', '"'), ('\\', '\\'), ('/', '/'),
      ('b', '\x08'), ('f', '\x0c'), ('n', '\n'), ('r', '\r'), ('t', '\t')]) :
    SpellsPiece (.glyph (.char char)) ['\\', letter]
  | unit {first second third fourth : Char} {value : Nat} (digits :
      unit? (.char first) (.char second) (.char third) (.char fourth) = some value) :
    SpellsPiece (.unit value) ['\\', 'u', first, second, third, fourth]

/-- What stands between the quotes of a string. -/
inductive SpellsPieces : List Piece → List Char → Prop
  | nil : SpellsPieces [] []
  | cons {piece : Piece} {pieces : List Piece} {chars rest : List Char}
    (first : SpellsPiece piece chars) (others : SpellsPieces pieces rest) :
    SpellsPieces (piece :: pieces) (chars ++ rest)

/-- A string; a half of a surrogate pair alone is spelled, but stands for no text. -/
inductive SpellsString : Token String → List Char → Prop
  | string {pieces : List Piece} {chars : List Char} (inside : SpellsPieces pieces chars) :
    SpellsString ⟨decode pieces none, none⟩ ('"' :: (chars ++ ['"']))

end Quote

/-! ### Values -/

/-- Texts, each behind a comma. -/
def behindCommas : List (List Char) → List Char
  | [] => []
  | chars :: rest => ',' :: (chars ++ behindCommas rest)

/-- A member of an object with its texts. -/
structure MemberText where
  name : Token String
  nameText : List Char
  value : Document
  valueText : List Char

/-- The member without its texts. -/
def MemberText.member (entry : MemberText) : Token String × Document :=
  (entry.name, entry.value)

/-- The text of a member. -/
def MemberText.text (entry : MemberText) : List Char :=
  entry.nameText ++ ':' :: entry.valueText

/-- The name of a member, with blanks around it. -/
inductive SpellsName : Token String → List Char → Prop
  | name {token : Token String} {front chars back : List Char} (before : Gap front)
    (string : Quote.SpellsString token chars) (behind : Gap back) :
    SpellsName token (front ++ (chars ++ back))

/-- **The texts of a document**, with blanks around its values. -/
inductive Spells : Document → List Char → Prop
  | gaps {document : Document} {front chars back : List Char} (before : Gap front)
    (value : Spells document chars) (behind : Gap back) : Spells document (front ++ (chars ++ back))
  | null : Spells .null ['n', 'u', 'l', 'l']
  | true : Spells (.bool ⟨.ok Bool.true, none⟩) ['t', 'r', 'u', 'e']
  | false : Spells (.bool ⟨.ok Bool.false, none⟩) ['f', 'a', 'l', 's', 'e']
  | number {lexeme : Number.Lexeme} {chars : List Char} (number : Number.SpellsNumber lexeme chars) :
    Spells (.number ⟨lexeme.value, none⟩) chars
  | string {token : Token String} {chars : List Char} (string : Quote.SpellsString token chars) :
    Spells (.text token) chars
  | emptyList {gap : List Char} (blank : Gap gap) : Spells (.list [] none) ('[' :: (gap ++ [']']))
  | list {first : Document × List Char} {others : List (Document × List Char)}
    (each : ∀ entry ∈ first :: others, Spells entry.1 entry.2) :
    Spells (.list ((first :: others).map Prod.fst) none)
      ('[' :: (first.2 ++ (behindCommas (others.map Prod.snd) ++ [']'])))
  | emptyObject {gap : List Char} (blank : Gap gap) :
    Spells (.object [] none) ('\x7b' :: (gap ++ ['\x7d']))
  | object {first : MemberText} {others : List MemberText}
    (names : ∀ entry ∈ first :: others, SpellsName entry.name entry.nameText)
    (values : ∀ entry ∈ first :: others, Spells entry.value entry.valueText) :
    Spells (.object ((first :: others).map MemberText.member) none)
      ('\x7b' :: (first.text ++ (behindCommas (others.map MemberText.text) ++ ['\x7d'])))

/-! ### Passing over -/

theorem Document.skipItems_of_skip {items : List Document} (each : ∀ item ∈ items, item.skip = .ok ()) :
    skipItems items = .ok () := by
  induction items with
  | nil => rfl
  | cons item items hypothesis =>
    obtain ⟨here, later⟩ := List.forall_mem_cons.mp each
    rw [skipItems, here]
    exact hypothesis later

theorem Document.skipMembers_of_skip {members : List (Token String × Document)}
    (names : ∀ member ∈ members, member.1.skipped = none)
    (each : ∀ member ∈ members, member.2.skip = .ok ()) : skipMembers members = .ok () := by
  induction members with
  | nil => rfl
  | cons member members hypothesis =>
    obtain ⟨name, laterNames⟩ := List.forall_mem_cons.mp names
    obtain ⟨here, later⟩ := List.forall_mem_cons.mp each
    rw [skipMembers, name, here]
    exact hypothesis laterNames later

theorem skipped_of_spellsName {token : Token String} {chars : List Char}
    (spelled : SpellsName token chars) : token.skipped = none := by
  cases spelled with
  | name _ string _ =>
    cases string
    rfl

/-- **A spelled document can be passed over**, whatever its tokens stand for. -/
theorem Document.skip_of_spells {document : Document} {chars : List Char}
    (spelled : Spells document chars) : document.skip = .ok () := by
  induction spelled with
  | gaps _ _ _ hypothesis => exact hypothesis
  | null | true | false | number _ | emptyList _ | emptyObject _ => rfl
  | string string =>
    cases string
    rfl
  | list _ hypothesis =>
    have items := skipItems_of_skip (List.forall_mem_map.mpr hypothesis)
    rw [skip, items]
    rfl
  | @object first others names _ hypothesis =>
    have members : skipMembers ((first :: others).map MemberText.member) = .ok () := by
      refine skipMembers_of_skip (List.forall_mem_map.mpr fun entry member => ?_)
        (List.forall_mem_map.mpr fun entry member => hypothesis entry member)
      exact skipped_of_spellsName (names entry member)
    rw [skip, members]
    rfl

/-! ### Texts in front of a source -/

/-- The source of written characters with what follows them. -/
def before (chars : List Char) (rest : Source) : Source :=
  chars.map .char ++ rest

@[simp] theorem before_nil (rest : Source) : before [] rest = rest := rfl

@[simp] theorem before_cons (char : Char) (chars : List Char) (rest : Source) :
    before (char :: chars) rest = .char char :: before chars rest := rfl

@[simp] theorem before_append (chars others : List Char) (rest : Source) :
    before (chars ++ others) rest = before chars (before others rest) := by
  rw [before, before, before, List.map_append, List.append_assoc]

end OciBundle.Json
