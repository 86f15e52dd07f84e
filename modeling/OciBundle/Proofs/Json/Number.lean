/-
**Numbers: spelled ones are read, and written integers are spelled.**

What follows a number must not go on with it: `Number.Ends`. An integer is written in decimal digits
without a leading zero, behind a minus sign if it is negative.

* `scan_of_spells`, `readNumber_of_spells`: a spelled number is read behind its sign.
* `spells_integerText`: an integer of 64 bits is spelled as it is written.
-/

import Mathlib.Data.Bool.AllAny
import OciBundle.Json.Printer
import OciBundle.Json.Reader
import OciBundle.Proofs.Json.Grammar

namespace OciBundle.Json.Number

/-- What may follow a written integer: no digit, no fraction and no exponent. -/
def Ends (rest : Source) : Prop :=
  ∀ glyph ∈ rest.head?, digit? glyph = none ∧ glyph ≠ .char '.' ∧ isExponentMark glyph = false

/-- What may follow digits. -/
def NoDigit (rest : Source) : Prop :=
  ∀ glyph ∈ rest.head?, digit? glyph = none

theorem Ends.noDigit {rest : Source} (ends : Ends rest) : NoDigit rest :=
  fun glyph head => (ends glyph head).1

/-! ### Digits -/

theorem toNat_bounds_of_isDigit {char : Char} (isDigit : char.isDigit) :
    48 ≤ char.toNat ∧ char.toNat ≤ 57 := by
  simp only [Char.isDigit, Bool.and_eq_true, decide_eq_true_eq, ge_iff_le, UInt32.le_iff_toNat_le]
    at isDigit
  exact isDigit

theorem digit?_of_isDigit {char : Char} (isDigit : char.isDigit) :
    digit? (.char char) = some (char.toNat - 48) := by
  rw [digit?, if_pos (toNat_bounds_of_isDigit isDigit)]

theorem spanDigits_of_noDigit {rest : Source} (stops : NoDigit rest) :
    spanDigits rest = ([], rest) := by
  cases rest with
  | nil => rfl
  | cons glyph rest => rw [spanDigits, stops glyph rfl]

/-- **The scan takes exactly the digits** that stand before what is no digit. -/
theorem spanDigits_before {chars : List Char} {rest : Source}
    (digits : ∀ char ∈ chars, char.isDigit) (stops : NoDigit rest) :
    spanDigits (before chars rest) = (values chars, rest) := by
  induction chars with
  | nil => exact spanDigits_of_noDigit stops
  | cons first chars hypothesis =>
    have here : digit? (.char first) = some (first.toNat - 48) :=
      digit?_of_isDigit (digits first List.mem_cons_self)
    have later := hypothesis fun char member => digits char (List.mem_cons_of_mem _ member)
    simp only [before_cons, spanDigits, here, later, values, List.map_cons]

/-! ### Spelled numbers -/

section Scan

variable {rest : Source}

theorem scanExponent_of_ends (ends : Ends rest) :
    scanExponent rest = .ok (none, rest) := by
  cases rest with
  | nil => rfl
  | cons mark rest => rw [scanExponent, (ends mark rfl).2.2, if_neg Bool.false_ne_true]

theorem values_ne_nil {chars : List Char} (given : Digits chars) : values chars ≠ [] :=
  fun none => given.1 (List.map_eq_nil_iff.mp none)

/-- Digits whose first one is a zero stand for a single number. -/
theorem values_ne_zero_cons_cons {chars : List Char} (given : Digits chars)
    (leading : chars.head? = some '0' → chars = ['0']) (next : Nat) (more : List Nat) :
    values chars ≠ 0 :: next :: more := by
  intro equal
  obtain ⟨first, others, shape, zero, behind⟩ := List.map_eq_cons_iff.mp equal
  have isDigit : first.isDigit := given.2 first (shape ▸ List.mem_cons_self)
  have isZero : first = '0' := by
    have bounds := toNat_bounds_of_isDigit isDigit
    exact Char.toNat_inj.mp (show first.toNat = 48 by omega)
  have single := leading (by rw [shape, isZero]; rfl)
  rw [shape] at single
  obtain rfl := (List.cons.inj single).2
  cases behind

theorem scanWhole_of_digits {chars : List Char} (given : Digits chars)
    (leading : chars.head? = some '0' → chars = ['0']) (stops : NoDigit rest) :
    scanWhole (before chars rest) = .ok (values chars, rest) := by
  rw [scanWhole, spanDigits_before given.2 stops]
  split
  next equal => exact absurd (congrArg Prod.fst equal) (values_ne_nil given)
  next equal =>
    exact absurd (congrArg Prod.fst equal) (values_ne_zero_cons_cons given leading _ _)
  next equal => rw [← equal]

theorem scanFraction_of_spells {fraction : List Nat} {chars : List Char}
    (spelled : SpellsFraction fraction chars) (stops : NoDigit rest)
    (noPoint : ∀ glyph ∈ rest.head?, glyph ≠ .char '.') :
    scanFraction (before chars rest) = .ok (fraction, rest) := by
  cases spelled with
  | none =>
    rw [before_nil, scanFraction]
    intro behind equal
    rw [equal] at noPoint
    exact noPoint _ rfl rfl
  | some given =>
    rw [before_cons, scanFraction, spanDigits_before given.2 stops]
    split
    next equal => exact absurd (congrArg Prod.fst equal) (values_ne_nil given)
    next equal => rw [← equal]

theorem scanSign_of_spells {negative : Bool} {sign : List Char} {first : Char}
    (spelled : SpellsSign negative sign) (isDigit : first.isDigit) :
    scanSign (before sign (.char first :: rest)) = (negative, .char first :: rest) := by
  cases spelled with
  | none =>
    rw [before_nil, scanSign]
    · rintro behind equal
      cases equal
      exact absurd isDigit (by decide)
    · rintro behind equal
      cases equal
      exact absurd isDigit (by decide)
  | plus => rfl
  | minus => rfl

theorem scanExponent_of_spells {exponent : Option (Bool × List Nat)} {chars : List Char}
    (spelled : SpellsExponent exponent chars) (ends : Ends rest) :
    scanExponent (before chars rest) = .ok (exponent, rest) := by
  cases spelled with
  | none => exact scanExponent_of_ends ends
  | @some mark negative sign digits marks signed given =>
    have isMark : ∀ mark ∈ ['e', 'E'], isExponentMark (.char mark) = true :=
      List.all_iff_forall_prop.mp (by decide)
    obtain ⟨first, others, shape⟩ := List.exists_cons_of_ne_nil given.1
    have isDigit : first.isDigit := given.2 first (shape ▸ List.mem_cons_self)
    have signs : scanSign (before sign (before digits rest)) = (negative, before digits rest) := by
      rw [shape, before_cons]
      exact scanSign_of_spells signed isDigit
    rw [before_cons, before_append, scanExponent, if_pos (isMark mark marks), signs]
    simp only [spanDigits_before given.2 ends.noDigit]
    split
    next equal => exact absurd (congrArg Prod.fst equal) (values_ne_nil given)
    next equal =>
      obtain ⟨rfl, rfl⟩ := Prod.mk.inj equal
      rfl

theorem noDigit_exponent {exponent : Option (Bool × List Nat)} {chars : List Char}
    (spelled : SpellsExponent exponent chars) (ends : Ends rest) :
    NoDigit (before chars rest) ∧ ∀ glyph ∈ (before chars rest).head?, glyph ≠ .char '.' := by
  cases spelled with
  | none => exact ⟨ends.noDigit, fun glyph head => (ends glyph head).2.1⟩
  | @some mark _ _ _ marks _ _ =>
    have other : ∀ mark ∈ ['e', 'E'], digit? (.char mark) = none ∧ Glyph.char mark ≠ .char '.' :=
      List.all_iff_forall_prop.mp (by decide)
    refine ⟨fun glyph head => ?_, fun glyph head => ?_⟩
    · cases head
      exact (other mark marks).1
    · cases head
      exact (other mark marks).2

theorem noDigit_fraction {fraction : List Nat} {chars : List Char}
    (spelled : SpellsFraction fraction chars) (stops : NoDigit rest) :
    NoDigit (before chars rest) := by
  cases spelled with
  | none => exact stops
  | some _ =>
    intro glyph head
    cases head
    decide

/-- **A spelled number is scanned** up to where it ends. -/
theorem scan_of_spells {negative : Bool} {lexeme : Lexeme} {chars : List Char}
    (spelled : SpellsUnsigned negative lexeme chars) (ends : Ends rest) :
    Lexeme.scan negative (before chars rest) = .ok (lexeme, rest) := by
  cases spelled with
  | unsigned given leading spelledFraction spelledExponent =>
    obtain ⟨stops, noPoint⟩ := noDigit_exponent spelledExponent ends
    rw [before_append, before_append]
    simp only [Lexeme.scan, bind, Except.bind, pure, Except.pure,
      scanWhole_of_digits given leading (noDigit_fraction spelledFraction stops),
      scanFraction_of_spells spelledFraction stops noPoint,
      scanExponent_of_spells spelledExponent ends]

theorem readNumber_of_spells {negative : Bool} {lexeme : Lexeme} {chars : List Char}
    (spelled : SpellsUnsigned negative lexeme chars) (ends : Ends rest) :
    readNumber negative (before chars rest) = (.number ⟨lexeme.value, none⟩, some rest) := by
  rw [readNumber, scan_of_spells spelled ends]

theorem exists_digit_of_spells {negative : Bool} {lexeme : Lexeme} {chars : List Char}
    (spelled : SpellsUnsigned negative lexeme chars) :
    ∃ first others, chars = first :: others ∧ first.isDigit := by
  cases spelled with
  | unsigned given leading spelledFraction spelledExponent =>
    obtain ⟨first, others, rfl⟩ := List.exists_cons_of_ne_nil given.1
    exact ⟨first, _, rfl, given.2 first List.mem_cons_self⟩

end Scan

/-! ### Written integers -/

theorem isDigit_of_mem_toDigits {value : Nat} {char : Char}
    (member : char ∈ Nat.toDigits 10 value) : char.isDigit :=
  Nat.isDigit_of_mem_toDigits (by decide) (by decide) member

/-- The digits of a number denote it. -/
theorem ofDigits_toDigits (value : Nat) : ofDigits 0 (values (Nat.toDigits 10 value)) = value := by
  have step : (fun total (char : Char) => total * 10 + (char.toNat - 48)) =
      fun total char => 10 * total + (char.toNat - '0'.toNat) := by
    funext total char
    rw [Nat.mul_comm]
    rfl
  rw [ofDigits, values, List.foldl_map, step, ← Nat.ofDigitChars_eq_foldl,
    Nat.ofDigitChars_ten_toDigits]

/-- Only zero is written with a zero in front. -/
theorem eq_zero_of_head?_toDigits {value : Nat} (zero : (Nat.toDigits 10 value).head? = some '0') :
    value = 0 := by
  induction value using Nat.strongRecOn with
  | ind value hypothesis =>
    by_cases small : value < 10
    · rw [Nat.toDigits_of_lt_base small] at zero
      exact Nat.digitChar_eq_zero.mp (Option.some.inj zero)
    · obtain ⟨first, others, shape⟩ :=
        List.exists_cons_of_ne_nil (Nat.toDigits_ne_nil (n := value / 10) (b := 10))
      rw [Nat.toDigits_of_base_le (by decide) (by omega), shape] at zero
      have shorter := hypothesis (value / 10) (by omega) (by rw [shape]; exact zero)
      omega

/-- The lexeme of a written integer. -/
def Lexeme.ofNat (negative : Bool) (value : Nat) : Lexeme :=
  ⟨negative, values (Nat.toDigits 10 value), [], none⟩

theorem value_ofNat {value : Nat} (fits : value ≤ 0xffffffffffffffff) :
    (Lexeme.ofNat false value).value = .ok (.integer value) := by
  rw [Lexeme.value]
  simp only [Lexeme.ofNat, ofDigits_toDigits]
  rw [if_pos (by simpa using fits)]
  rfl

theorem value_ofNat_negative {value : Nat} (positive : 0 < value) (fits : value ≤ 0x8000000000000000) :
    (Lexeme.ofNat true value).value = .ok (.integer (-value)) := by
  rw [Lexeme.value]
  simp only [Lexeme.ofNat, ofDigits_toDigits]
  rw [if_pos (by simpa using ⟨positive, fits⟩)]
  rfl

/-- The document of an integer. -/
def document (value : Int) : Document := .number ⟨.ok (.integer value), none⟩

theorem integerText_ofNat (value : Nat) : integerText value = Nat.toDigits 10 value := by
  show (Nat.repr value).toList = Nat.toDigits 10 value
  exact Nat.toList_repr

theorem integerText_negSucc (value : Nat) :
    integerText (Int.negSucc value) = '-' :: Nat.toDigits 10 (value + 1) := by
  show ("-" ++ Nat.repr (value + 1)).toList = '-' :: Nat.toDigits 10 (value + 1)
  rw [String.toList_append, Nat.toList_repr]
  rfl


theorem spells_toDigits (negative : Bool) (value : Nat) :
    SpellsUnsigned negative (.ofNat negative value) (Nat.toDigits 10 value) := by
  have given : Digits (Nat.toDigits 10 value) :=
    ⟨Nat.toDigits_ne_nil, fun _ => isDigit_of_mem_toDigits⟩
  have leading : (Nat.toDigits 10 value).head? = some '0' → Nat.toDigits 10 value = ['0'] := by
    intro zero
    rw [eq_zero_of_head?_toDigits zero, Nat.toDigits_zero]
  have spelled : SpellsUnsigned negative (.ofNat negative value) (Nat.toDigits 10 value ++ []) :=
    .unsigned given leading .none .none
  rwa [List.append_nil] at spelled

/-- **An integer of 64 bits is spelled as it is written.** -/
theorem spells_integerText {value : Int} (low : -0x8000000000000000 ≤ value)
    (high : value ≤ 0xffffffffffffffff) : Spells (document value) (integerText value) := by
  cases value with
  | ofNat value =>
    have spelled := Spells.number (.positive (spells_toDigits false value))
    rwa [value_ofNat (Int.ofNat_le.mp high), ← integerText_ofNat] at spelled
  | negSucc value =>
    have spelled := Spells.number (.negative (spells_toDigits true (value + 1)))
    rwa [value_ofNat_negative (Nat.succ_pos value) (by omega), ← integerText_negSucc] at spelled

end OciBundle.Json.Number
