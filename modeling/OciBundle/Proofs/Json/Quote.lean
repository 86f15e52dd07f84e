/-
**Strings: spelled ones are read, and written texts are spelled.**

A written text is spelled character by character: each one is a single piece.

* `readText_of_spells`: a spelled string is read behind its opening quote.
* `decode_map_piece`: the pieces of a written text denote it.
* `spells_encode`: a text is spelled as it is written.
-/

import OciBundle.Json.Reader
import OciBundle.Proofs.Json.Grammar

namespace OciBundle.Json.Quote

/-! ### Spelled strings -/

/-- A letter behind a backslash is scanned as the character that it stands for. -/
theorem scan_letter {letter char : Char} (rest : Source) (other : letter ≠ 'u')
    (escape : letterEscape? letter = some char) :
    scan (.char '\\' :: .char letter :: rest) =
      (.glyph (.char char) :: (scan rest).1, (scan rest).2) := by
  have noUnit : Glyph.char letter ≠ .char 'u' := fun equal => other (Glyph.char.inj equal)
  rw [scan.eq_6 _ _ (fun _ _ _ _ _ equal _ => noUnit equal) noUnit]
  simp only [Glyph.char?, Option.bind_some, escape]

/-- Four digits behind a backslash are scanned as their unit. -/
theorem scan_unit {first second third fourth : Glyph} {code : Nat} (rest : Source)
    (unit : unit? first second third fourth = some code) :
    scan (.char '\\' :: .char 'u' :: first :: second :: third :: fourth :: rest) =
      (.unit code :: (scan rest).1, (scan rest).2) := by
  rw [scan, unit]

/-- A character that needs no escape is scanned as itself. -/
theorem scan_plain {char : Char} (rest : Source) (noQuote : char ≠ '"') (noBackslash : char ≠ '\\')
    (noControl : ¬ char.toNat < 32) :
    scan (.char char :: rest) = (.glyph (.char char) :: (scan rest).1, (scan rest).2) := by
  have quote : Glyph.char char ≠ .char '"' := fun equal => noQuote (Glyph.char.inj equal)
  have backslash : Glyph.char char ≠ .char '\\' := fun equal => noBackslash (Glyph.char.inj equal)
  rw [scan.eq_7 _ _ quote (fun equal => absurd equal backslash)
    (fun _ _ _ _ _ equal => absurd equal backslash) (fun _ equal => absurd equal backslash)
    (fun _ _ equal => absurd equal backslash)]
  simp only [Glyph.char?, Option.any_some, noControl, decide_false, Bool.false_eq_true, if_false]

section Scan

variable {rest : Source}

/-- **A spelled piece is scanned as itself.** -/
theorem scan_of_spellsPiece {piece : Piece} {chars : List Char} (spelled : SpellsPiece piece chars) :
    scan (before chars rest) = (piece :: (scan rest).1, (scan rest).2) := by
  cases spelled with
  | plain noQuote noBackslash noControl =>
    exact scan_plain rest noQuote noBackslash (Nat.not_lt.mpr noControl)
  | letter escape =>
    have escapes : ∀ pair ∈ [('"', '"'), ('\\', '\\'), ('/', '/'), ('b', '\x08'), ('f', '\x0c'),
        ('n', '\n'), ('r', '\r'), ('t', '\t')],
        pair.1 ≠ 'u' ∧ letterEscape? pair.1 = some pair.2 := by decide
    exact scan_letter rest (escapes _ escape).1 (escapes _ escape).2
  | unit digits => exact scan_unit rest digits

theorem scan_of_spells {pieces : List Piece} {chars : List Char}
    (spelled : SpellsPieces pieces chars) :
    scan (before chars (.char '"' :: rest)) = (pieces, .ok rest) := by
  induction spelled with
  | nil => rw [before_nil, scan]
  | cons first _ hypothesis => rw [before_append, scan_of_spellsPiece first, hypothesis]

/-- **A spelled string is read** behind its opening quote. -/
theorem readText_of_spells {token : Token String} {chars : List Char}
    (spelled : SpellsString token chars) :
    ∃ behind, chars = '"' :: behind ∧
      ∀ rest, readText (before behind rest) = (token, some rest) := by
  cases spelled with
  | @string pieces chars inside =>
    refine ⟨chars ++ ['"'], rfl, fun rest => ?_⟩
    rw [before_append, before_cons, before_nil, readText, scan_of_spells inside]

end Scan

/-! ### Written characters -/

/-- The piece that a written character is scanned as. -/
def piece (char : Char) : Piece :=
  if char.toNat < 32 ∧ char.toNat ∉ [8, 9, 10, 12, 13] then .unit char.toNat
  else .glyph (.char char)

theorem eq_ofNat_of_toNat {char : Char} {code : Nat} (equal : char.toNat = code) :
    char = Char.ofNat code := by
  rw [← equal, Char.ofNat_toNat]

/-- Two hexadecimal digits behind two zeros are read as the number that they were made of. -/
theorem unit?_hexDigit {code : Nat} (control : code < 32) :
    unit? (.char '0') (.char '0') (.char (hexDigit (code / 16))) (.char (hexDigit (code % 16))) =
      some code := by
  have each : ∀ code : Fin 32, unit? (.char '0') (.char '0') (.char (hexDigit (code / 16)))
      (.char (hexDigit (code % 16))) = some code.val := by decide
  exact each ⟨code, control⟩

theorem piece_of_mem {char : Char} (letter : char.toNat ∈ [8, 9, 10, 12, 13]) :
    piece char = .glyph (.char char) :=
  if_neg fun numbered => numbered.2 letter

theorem piece_of_not_lt {char : Char} (noControl : ¬ char.toNat < 32) :
    piece char = .glyph (.char char) :=
  if_neg fun numbered => noControl numbered.1

/-- **A written character is spelled as its piece.** -/
theorem spells_encodeChar (char : Char) : SpellsPiece (piece char) (encodeChar char) := by
  unfold encodeChar
  split
  next equal =>
    subst equal
    exact .letter (by decide)
  split
  next equal =>
    subst equal
    exact .letter (by decide)
  split
  next code =>
    rw [piece_of_mem (by simp [code]), eq_ofNat_of_toNat code]
    exact .letter (by decide)
  split
  next code =>
    rw [piece_of_mem (by simp [code]), eq_ofNat_of_toNat code]
    exact .letter (by decide)
  split
  next equal =>
    subst equal
    exact .letter (by decide)
  split
  next equal =>
    subst equal
    exact .letter (by decide)
  split
  next equal =>
    subst equal
    exact .letter (by decide)
  next noQuote noBackslash noBackspace noFeed noLine noReturn noTab =>
    split
    next control =>
      have numbered : char.toNat ∉ [8, 9, 10, 12, 13] := by
        have line : char.toNat ≠ 10 := fun code => noLine (eq_ofNat_of_toNat code)
        have back : char.toNat ≠ 13 := fun code => noReturn (eq_ofNat_of_toNat code)
        have tab : char.toNat ≠ 9 := fun code => noTab (eq_ofNat_of_toNat code)
        simp [noBackspace, noFeed, line, back, tab]
      rw [piece, if_pos ⟨control, numbered⟩]
      exact .unit (unit?_hexDigit control)
    next noControl =>
      rw [piece_of_not_lt noControl]
      exact .plain noQuote noBackslash (Nat.not_lt.mp noControl)

/-! ### Written texts -/

theorem spells_flatMap_encodeChar (chars : List Char) :
    SpellsPieces (chars.map piece) (chars.flatMap encodeChar) := by
  induction chars with
  | nil => exact .nil
  | cons char chars hypothesis => exact .cons (spells_encodeChar char) hypothesis

theorem glyphs_piece_cons (char : Char) (rest : List Piece) :
    glyphs .malformed (piece char :: rest) =
      (glyphs .malformed rest).map (.char char :: ·) := by
  unfold piece
  split
  next numbered =>
    have noLow : isLow char.toNat = false := by simp [isLow]; omega
    have noHigh : isHigh char.toNat = false := by simp [isHigh]; omega
    rw [glyphs.eq_def]
    simp only [noLow, noHigh, Bool.false_eq_true, if_false, Char.ofNat_toNat]
  next => rw [glyphs]

/-- The pieces of written characters stand for these characters. -/
theorem glyphs_map_piece (chars : List Char) :
    glyphs .malformed (chars.map piece) = .ok (chars.map .char) := by
  induction chars with
  | nil => rfl
  | cons char chars hypothesis =>
    rw [List.map_cons, glyphs_piece_cons, hypothesis]
    rfl

theorem decode_map_piece (text : String) : decode (text.toList.map piece) none = .ok text := by
  have kept : Source.text? (text.toList.map .char) = some text := Source.text?_ofString text
  unfold decode
  rw [Option.getD_none, glyphs_map_piece]
  simp only [kept, Option.elim_some]

/-- The token of a text. -/
def token (text : String) : Token String := ⟨.ok text, none⟩

/-- **A text is spelled as it is written.** -/
theorem spells_encode (text : String) : SpellsString (token text) (encode text) := by
  have spelled := SpellsString.string (spells_flatMap_encodeChar text.toList)
  rwa [decode_map_piece] at spelled

end OciBundle.Json.Quote
