/-
**Spelled texts are read.**

Every text that the grammar spells is read as the document that it was spelled from. The reader's
bound is twice the length of the text, and blanks at the end of a value are left to what follows.

* `ReadsText`: a text is read as a document, whatever follows it.
* `readsText_of_spells`: all spelled texts are.
* `Document.read_of_spells`: a whole text is read as its document.
* `Document.Whole.keep_eq_ok_iff`: what a whole text holds.
-/

import Mathlib.Data.List.DropRight
import OciBundle.Proofs.Json.Number
import OciBundle.Proofs.Json.Quote
import OciBundle.Proofs.Result

namespace OciBundle.Json

/-! ### Gaps -/

theorem skipGap_of_not_gap (char : Char) {rest : Source} (noGap : isGap (.char char) = false) :
    skipGap (.char char :: rest) = .char char :: rest := by
  rw [skipGap, List.dropWhile_cons_of_neg (by rw [noGap]; exact Bool.false_ne_true)]

theorem skipGap_of_gap {glyph : Glyph} {rest : Source} (gap : isGap glyph = true) :
    skipGap (glyph :: rest) = skipGap rest := by
  rw [skipGap, List.dropWhile_cons_of_pos gap, skipGap]

theorem skipGap_gap {gap : List Char} (blank : Gap gap) (rest : Source) :
    skipGap (before gap rest) = skipGap rest := by
  induction gap with
  | nil => rfl
  | cons char gap hypothesis =>
    obtain ⟨here, later⟩ := List.forall_mem_cons.mp blank
    have isBlank : ∀ char ∈ [' ', '\n', '\t', '\r'], isGap (.char char) = true :=
      List.all_iff_forall_prop.mp (by decide)
    rw [before_cons, skipGap_of_gap (isBlank char here), hypothesis later]

theorem skipGap_skipGap (source : Source) : skipGap (skipGap source) = skipGap source :=
  List.dropWhile_idempotent isGap source

/-- A gap ends a number, as what follows it does. -/
theorem ends_gap {gap : List Char} (blank : Gap gap) {rest : Source} (ends : Number.Ends rest) :
    Number.Ends (before gap rest) := by
  cases gap with
  | nil => exact ends
  | cons char gap =>
    have stops : ∀ char ∈ [' ', '\n', '\t', '\r'], Number.digit? (.char char) = none ∧
        Glyph.char char ≠ .char '.' ∧ Number.isExponentMark (.char char) = false :=
      List.all_iff_forall_prop.mp (by decide)
    intro glyph head
    cases head
    exact stops char (blank char List.mem_cons_self)

/-! ### Reading values -/

open Document (readValue readItems readMembers)

/-- In front of what ends a number, a text is read as a document; blanks at its end are left. -/
def ReadsText (document : Document) (chars : List Char) : Prop :=
  ∀ (bound : Nat) (rest : Source), Number.Ends rest → 2 * chars.length < bound →
    ∃ behind, readValue bound (before chars rest) = (document, some behind) ∧
      skipGap behind = skipGap rest

theorem readValue_skipGap (bound : Nat) (source : Source) :
    readValue bound (skipGap source) = readValue bound source := by
  cases bound with
  | zero => rfl
  | succ bound => rw [readValue, readValue, skipGap_skipGap]

theorem readItems_skipGap (bound : Nat) (source : Source) :
    readItems bound (skipGap source) = readItems bound source := by
  cases bound with
  | zero => rfl
  | succ bound => rw [readItems, readItems, readValue_skipGap]

theorem readMembers_skipGap (bound : Nat) (source : Source) :
    readMembers bound (skipGap source) = readMembers bound source := by
  cases bound with
  | zero => rfl
  | succ bound => rw [readMembers, readMembers, skipGap_skipGap]

theorem isGap_of_isDigit {char : Char} (isDigit : char.isDigit) : isGap (.char char) = false := by
  have bounds := Number.toNat_bounds_of_isDigit isDigit
  have other : ∀ gap : Char, gap.toNat < 48 → Glyph.char char ≠ .char gap := by
    intro gap low equal
    rw [Glyph.char.inj equal] at bounds
    omega
  simp [isGap, other ' ' (by decide), other '\n' (by decide), other '\t' (by decide),
    other '\r' (by decide)]

/-- No text begins with a closing bracket. -/
theorem exists_first_of_spells {document : Document} {chars : List Char}
    (spelled : Spells document chars) (rest : Source) :
    ∃ first others, skipGap (before chars rest) = .char first :: others ∧ first ≠ ']' := by
  have visible (first : Char) (others : List Char) (noGap : isGap (.char first) = false)
      (other : first ≠ ']') : ∃ char behind,
        skipGap (before (first :: others) rest) = .char char :: behind ∧ char ≠ ']' :=
    ⟨first, _, skipGap_of_not_gap first noGap, other⟩
  induction spelled generalizing rest with
  | gaps before _ _ hypothesis =>
    rw [before_append, skipGap_gap before, before_append]
    exact hypothesis _ fun first others noGap other =>
      ⟨first, _, skipGap_of_not_gap first noGap, other⟩
  | null => exact visible _ _ (by decide) (by decide)
  | true => exact visible _ _ (by decide) (by decide)
  | false => exact visible _ _ (by decide) (by decide)
  | number number =>
    cases number with
    | positive unsigned =>
      obtain ⟨first, others, rfl, isDigit⟩ := Number.exists_digit_of_spells unsigned
      refine visible first others (isGap_of_isDigit isDigit) ?_
      rintro rfl
      exact absurd isDigit (by decide)
    | negative _ => exact visible _ _ (by decide) (by decide)
  | string string =>
    cases string
    exact visible _ _ (by decide) (by decide)
  | emptyList _ => exact visible _ _ (by decide) (by decide)
  | list _ _ => exact visible _ _ (by decide) (by decide)
  | emptyObject _ => exact visible _ _ (by decide) (by decide)
  | object _ _ _ => exact visible _ _ (by decide) (by decide)

/-! ### Leaves -/

theorem ends_char {char : Char} (other : char ∈ [',', ']', '\x7d']) (rest : Source) :
    Number.Ends (.char char :: rest) := by
  have stops : ∀ char ∈ [',', ']', '\x7d'], Number.digit? (.char char) = none ∧
      Glyph.char char ≠ .char '.' ∧ Number.isExponentMark (.char char) = false :=
    List.all_iff_forall_prop.mp (by decide)
  intro glyph head
  cases head
  exact stops char other

theorem ReadsText.gaps {document : Document} {front chars back : List Char} (before : Gap front)
    (reads : ReadsText document chars) (behind : Gap back) :
    ReadsText document (front ++ (chars ++ back)) := by
  intro bound rest ends enough
  rw [List.length_append, List.length_append] at enough
  obtain ⟨left, read, gap⟩ := reads bound (Json.before back rest) (ends_gap behind ends) (by omega)
  refine ⟨left, ?_, gap.trans (skipGap_gap behind rest)⟩
  rw [before_append, before_append, ← readValue_skipGap, skipGap_gap before, readValue_skipGap, read]

/-- A text that is read in one step. -/
theorem readsText_of_step {document : Document} {first : Char} {others : List Char}
    (step : ∀ (bound : Nat) (rest : Source), Number.Ends rest →
      2 * others.length + 2 < bound + 1 →
        readValue (bound + 1) (.char first :: before others rest) = (document, some rest)) :
    ReadsText document (first :: others) := by
  intro bound rest ends enough
  obtain ⟨bound, rfl⟩ : ∃ smaller, bound = smaller + 1 := ⟨bound - 1, by omega⟩
  rw [List.length_cons] at enough
  exact ⟨rest, step bound rest ends (by omega), rfl⟩

/-- Where a digit stands, a number is read. -/
theorem readValue_of_isDigit {bound : Nat} {source rest : Source} {first : Char}
    (text : skipGap source = .char first :: rest) (digit : first.isDigit) :
    readValue (bound + 1) source = readNumber false (.char first :: rest) := by
  have other (letter : Char) (noDigit : letter.isDigit = false) :
      Glyph.char first ≠ .char letter := by
    intro equal
    rw [Glyph.char.inj equal, noDigit] at digit
    exact absurd digit Bool.false_ne_true
  have known : isDigit (.char first) = true := by
    rw [isDigit, Number.digit?_of_isDigit digit, Option.isSome_some]
  rw [readValue, text]
  split
  case h_1 equal => cases equal
  case h_9 equal =>
    cases equal
    rw [if_pos known]
  all_goals
    rename_i equal
    exact absurd (List.cons.inj equal).1 (other _ (by decide))

theorem readsText_number {lexeme : Number.Lexeme} {chars : List Char}
    (spelled : Number.SpellsNumber lexeme chars) : ReadsText (.number ⟨lexeme.value, none⟩) chars := by
  cases spelled with
  | positive unsigned =>
    obtain ⟨first, others, shape, isDigit⟩ := Number.exists_digit_of_spells unsigned
    subst shape
    refine readsText_of_step fun bound rest ends _ => ?_
    rw [readValue_of_isDigit (skipGap_of_not_gap first (isGap_of_isDigit isDigit)) isDigit]
    exact Number.readNumber_of_spells unsigned ends
  | negative unsigned =>
    refine readsText_of_step fun bound rest ends _ => ?_
    rw [readValue, skipGap_of_not_gap '-' rfl]
    exact Number.readNumber_of_spells unsigned ends

theorem readsText_string {token : Token String} {chars : List Char}
    (spelled : Quote.SpellsString token chars) : ReadsText (.text token) chars := by
  obtain ⟨inside, rfl, read⟩ := Quote.readText_of_spells spelled
  refine readsText_of_step fun bound rest _ _ => ?_
  rw [readValue, skipGap_of_not_gap '"' rfl]
  simp only [read]

/-! ### Lists -/

section Items

variable {first : Document × List Char} {others : List (Document × List Char)}

/-- Items are read one after another up to the closing bracket. -/
theorem readItems_of_readsText (each : ∀ entry ∈ first :: others, ReadsText entry.1 entry.2)
    (bound : Nat) (rest : Source)
    (enough : 2 * (first.2 ++ behindCommas (others.map Prod.snd)).length + 1 < bound) :
    readItems bound
        (before first.2 (before (behindCommas (others.map Prod.snd)) (.char ']' :: rest))) =
      ((first :: others).map Prod.fst, none, some rest) := by
  induction others generalizing first bound with
  | nil =>
    obtain ⟨bound, rfl⟩ : ∃ smaller, bound = smaller + 1 := ⟨bound - 1, by omega⟩
    rw [List.map_nil, behindCommas, List.append_nil] at enough
    obtain ⟨behind, read, gap⟩ := each first List.mem_cons_self bound (.char ']' :: rest)
      (ends_char (by decide) rest) (by omega)
    rw [List.map_nil, behindCommas, before_nil, readItems, read]
    simp only [gap, skipGap_of_not_gap ']' rfl]
    rfl
  | cons next others hypothesis =>
    obtain ⟨bound, rfl⟩ : ∃ smaller, bound = smaller + 1 := ⟨bound - 1, by omega⟩
    rw [List.map_cons, behindCommas, List.length_append, List.length_cons] at enough
    obtain ⟨behind, read, gap⟩ := each first List.mem_cons_self bound
      (.char ',' :: before next.2 (before (behindCommas (others.map Prod.snd)) (.char ']' :: rest)))
      (ends_char (by decide) _) (by omega)
    have later := hypothesis (fun entry member => each entry (List.mem_cons_of_mem _ member)) bound
      (by omega)
    rw [List.map_cons, behindCommas, before_cons, before_append, readItems, read]
    simp only [gap, skipGap_of_not_gap ',' rfl, later]
    rfl

theorem readsText_list (spelled : Spells first.1 first.2)
    (each : ∀ entry ∈ first :: others, ReadsText entry.1 entry.2) :
    ReadsText (.list ((first :: others).map Prod.fst) none)
      ('[' :: (first.2 ++ (behindCommas (others.map Prod.snd) ++ [']']))) := by
  refine readsText_of_step fun bound rest _ enough => ?_
  rw [← List.append_assoc, List.length_append, List.length_singleton] at enough
  have items := readItems_of_readsText each bound rest (by omega)
  obtain ⟨char, behind, start, other⟩ :=
    exists_first_of_spells spelled (before (behindCommas (others.map Prod.snd)) (.char ']' :: rest))
  rw [readValue, skipGap_of_not_gap '[' rfl]
  simp only [before_append, before_cons, before_nil]
  rw [← readItems_skipGap] at items
  split
  next equal =>
    rw [start] at equal
    cases equal
  next equal =>
    rw [start] at equal
    exact absurd (Glyph.char.inj (List.cons.inj equal).1) other
  next => rw [items]

end Items

/-! ### Objects -/

section Members

variable {first : MemberText} {others : List MemberText}

/-- The name of a member is read up to its colon. -/
theorem exists_quote_of_spells {token : Token String} {chars : List Char}
    (spelled : SpellsName token chars) (rest : Source) :
    ∃ inside behind, skipGap (before chars rest) = .char '"' :: inside ∧
      readText inside = (token, some behind) ∧ skipGap behind = skipGap rest := by
  cases spelled with
  | @name front _ back blank string behind =>
    obtain ⟨inside, rfl, read⟩ := Quote.readText_of_spells string
    refine ⟨before inside (before back rest), _, ?_, read _, skipGap_gap behind rest⟩
    rw [before_append, skipGap_gap blank, before_append, before_cons, skipGap_of_not_gap '"' rfl]

/-- A member is read up to what follows it. -/
theorem exists_member_of_readsText (name : SpellsName first.name first.nameText)
    (value : ReadsText first.value first.valueText) (bound : Nat) {rest : Source}
    (ends : Number.Ends rest) (enough : 2 * first.text.length < bound) :
    ∃ inside colon behind after, skipGap (before first.text rest) = .char '"' :: inside ∧
      readText inside = (first.name, some colon) ∧ skipGap colon = .char ':' :: behind ∧
      readValue bound behind = (first.value, some after) ∧ skipGap after = skipGap rest := by
  rw [MemberText.text, List.length_append, List.length_cons] at enough
  obtain ⟨inside, colon, start, read, toColon⟩ :=
    exists_quote_of_spells name (before (':' :: first.valueText) rest)
  obtain ⟨after, kept, gap⟩ := value bound rest ends (by omega)
  rw [before_cons, skipGap_of_not_gap ':' rfl] at toColon
  rw [MemberText.text, before_append]
  exact ⟨inside, colon, _, after, start, read, toColon, kept, gap⟩

/-- Members are read one after another up to the closing brace. -/
theorem readMembers_of_readsText
    (names : ∀ entry ∈ first :: others, SpellsName entry.name entry.nameText)
    (values : ∀ entry ∈ first :: others, ReadsText entry.value entry.valueText)
    (bound : Nat) (rest : Source)
    (enough : 2 * (first.text ++ behindCommas (others.map MemberText.text)).length + 1 < bound) :
    readMembers bound (before first.text
        (before (behindCommas (others.map MemberText.text)) (.char '\x7d' :: rest))) =
      ((first :: others).map MemberText.member, none, some rest) := by
  induction others generalizing first bound with
  | nil =>
    obtain ⟨bound, rfl⟩ : ∃ smaller, bound = smaller + 1 := ⟨bound - 1, by omega⟩
    rw [List.map_nil, behindCommas, List.append_nil] at enough
    have ends : Number.Ends (.char '\x7d' :: rest) := ends_char (by decide) rest
    obtain ⟨inside, colon, behind, after, start, name, toColon, value, gap⟩ :=
      exists_member_of_readsText (names first List.mem_cons_self) (values first List.mem_cons_self)
        bound ends (by omega)
    rw [List.map_nil, behindCommas, before_nil, readMembers, start]
    simp only [name, toColon, value, gap, skipGap_of_not_gap '\x7d' rfl]
    rfl
  | cons next others hypothesis =>
    obtain ⟨bound, rfl⟩ : ∃ smaller, bound = smaller + 1 := ⟨bound - 1, by omega⟩
    rw [List.map_cons, behindCommas, List.length_append, List.length_cons] at enough
    have ends : Number.Ends (.char ',' :: before next.text
        (before (behindCommas (others.map MemberText.text)) (.char '\x7d' :: rest))) :=
      ends_char (by decide) _
    obtain ⟨inside, colon, behind, after, start, name, toColon, value, gap⟩ :=
      exists_member_of_readsText (names first List.mem_cons_self) (values first List.mem_cons_self)
        bound ends (by omega)
    have later := hypothesis (fun entry member => names entry (List.mem_cons_of_mem _ member))
      (fun entry member => values entry (List.mem_cons_of_mem _ member)) bound (by omega)
    rw [List.map_cons, behindCommas, before_cons, before_append, readMembers, start]
    simp only [name, toColon, value, gap, skipGap_of_not_gap ',' rfl, later]
    rfl

theorem readsText_object
    (names : ∀ entry ∈ first :: others, SpellsName entry.name entry.nameText)
    (values : ∀ entry ∈ first :: others, ReadsText entry.value entry.valueText) :
    ReadsText (.object ((first :: others).map MemberText.member) none)
      ('\x7b' :: (first.text ++ (behindCommas (others.map MemberText.text) ++ ['\x7d']))) := by
  refine readsText_of_step fun bound rest _ enough => ?_
  rw [← List.append_assoc, List.length_append, List.length_singleton] at enough
  have members := readMembers_of_readsText names values bound rest (by omega)
  obtain ⟨inside, behind, start, _⟩ := exists_quote_of_spells (names first List.mem_cons_self)
    (before (':' :: first.valueText)
      (before (behindCommas (others.map MemberText.text)) (.char '\x7d' :: rest)))
  rw [← before_append, ← MemberText.text] at start
  rw [readValue, skipGap_of_not_gap '\x7b' rfl]
  simp only [before_append, before_cons, before_nil]
  rw [← readMembers_skipGap] at members
  split
  next equal =>
    rw [start] at equal
    exact absurd (Glyph.char.inj (List.cons.inj equal).1) (by decide)
  next => rw [members]

end Members

/-! ### Whole texts -/

theorem readsText_of_spells {document : Document} {chars : List Char}
    (spelled : Spells document chars) : ReadsText document chars := by
  induction spelled with
  | gaps before _ behind hypothesis => exact hypothesis.gaps before behind
  | null => exact readsText_of_step fun _ _ _ _ => rfl
  | true => exact readsText_of_step fun _ _ _ _ => rfl
  | false => exact readsText_of_step fun _ _ _ _ => rfl
  | number number => exact readsText_number number
  | string string => exact readsText_string string
  | emptyList blank =>
    refine readsText_of_step fun bound rest _ _ => ?_
    rw [readValue, skipGap_of_not_gap '[' rfl]
    simp only [before_append, before_cons, before_nil, skipGap_gap blank, skipGap_of_not_gap ']' rfl]
  | list each hypothesis => exact readsText_list (each _ List.mem_cons_self) hypothesis
  | emptyObject blank =>
    refine readsText_of_step fun bound rest _ _ => ?_
    rw [readValue, skipGap_of_not_gap '\x7b' rfl]
    simp only [before_append, before_cons, before_nil, skipGap_gap blank,
      skipGap_of_not_gap '\x7d' rfl]
  | object names _ hypothesis => exact readsText_object names hypothesis

/-- **A spelled text is read as its document**, with nothing behind it. -/
theorem Document.read_of_spells {document : Document} {text : String}
    (spelled : Spells document text.toList) : read (.ofString text) = ⟨document, none⟩ := by
  have source : Source.ofString text = before text.toList [] := (List.append_nil _).symm
  obtain ⟨behind, whole, gap⟩ := readsText_of_spells spelled
    (2 * (before text.toList []).length + 2) [] (fun _ head => by cases head)
    (by rw [before, List.length_append, List.length_map]; omega)
  rw [read, source, whole]
  simp only [gap]
  rfl

/-- A text holds a value when its document does and nothing goes wrong behind it. -/
theorem Document.Whole.keep_eq_ok_iff {α : Type} {decode : Document → Except Fault α}
    {whole : Whole} {value : α} :
    whole.keep decode = .ok value ↔ decode whole.value = .ok value ∧ whole.ending = none := by
  constructor
  · intro done
    obtain ⟨kept, decoded, done⟩ := exists_of_bind_eq_ok done
    cases ending : whole.ending with
    | none =>
      rw [ending] at done
      cases done
      exact ⟨decoded, rfl⟩
    | some fault =>
      rw [ending] at done
      cases done
  · intro ⟨decoded, ending⟩
    rw [keep, decoded, ending]
    rfl

end OciBundle.Json
