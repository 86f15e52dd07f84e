/-
**Integer texts and the values that they spell.**

A text spells a value by its digits, the first of which counts most; a sign may stand before them.
The reader goes from the front and stops at the first step that leaves the range. Later digits only
make a value larger, so it reads exactly the texts whose value lies within the range.

* `SpellsDigits`, `Spells`: the texts of a value.
* `digits_eq_ok_iff`, `integer_eq_ok_iff`: what is read as an integer of a range.
* `spells_toDigits`: the digits that a number is written in spell it.
* `Word.Spells`, `Word.read_eq_ok_iff`: what is read as a machine word.
* `Word.spells_text`: the decimal text of a word spells it.
-/

import Mathlib.Data.Nat.Digits.Defs
import OciBundle.Proofs.Result
import OciBundle.Word

namespace OciBundle

namespace Numeral

/-- Whether characters are digits of a base, one at least, that stand for a value. -/
def SpellsDigits (base : Nat) (chars : List Char) (value : Nat) : Prop :=
  ∃ digits : List Nat, digits ≠ [] ∧ (∀ digit ∈ digits, digit < base) ∧
    chars = digits.map Nat.digitChar ∧ value = Nat.ofDigits base digits.reverse

/-- Whether a text spells a value, with or without a sign. A minus sign is for ranges that hold
negative numbers, so the least number of the range tells whether it may stand there. -/
inductive Spells (base : Nat) (low : Int) : List Char → Int → Prop
  | bare {chars : List Char} {value : Nat} (digits : SpellsDigits base chars value) :
    Spells base low chars value
  | plus {chars : List Char} {value : Nat} (digits : SpellsDigits base chars value) :
    Spells base low ('+' :: chars) value
  | minus {chars : List Char} {value : Nat} (signed : low < 0)
    (digits : SpellsDigits base chars value) : Spells base low ('-' :: chars) (-value)

variable {base limit digit value result : Nat} {low high number : Int} {char : Char}
  {chars : List Char} {above : Fault}

/-! ### Digits -/

/-- The value that digits make of the value of those before them. -/
def extend (base value : Nat) (digits : List Nat) : Nat :=
  digits.foldl (fun value digit => value * base + digit) value

theorem extend_zero (base : Nat) (digits : List Nat) :
    extend base 0 digits = Nat.ofDigits base digits.reverse := by
  rw [extend, Nat.ofDigits_eq_foldr, List.foldr_reverse]
  refine congrArg (fun step => List.foldl step 0 digits) ?_
  funext value digit
  rw [Nat.cast_id, Nat.add_comm, Nat.mul_comm]

/-- More digits make no value smaller. -/
theorem le_extend (positive : 0 < base) (digits : List Nat) : value ≤ extend base value digits := by
  induction digits generalizing value with
  | nil => exact Nat.le_refl value
  | cons digit digits hypothesis =>
    calc value ≤ value * base := Nat.le_mul_of_pos_right value positive
      _ ≤ value * base + digit := Nat.le_add_right _ _
      _ ≤ extend base (value * base + digit) digits := hypothesis

/-- The digits of a base up to ten have characters of their own. -/
theorem digit?_eq_some_iff (small : base ≤ 10) :
    digit? base char = some digit ↔ digit < base ∧ char = digit.digitChar := by
  rw [digit?, Option.filter_eq_some_iff, decide_eq_true_iff, and_comm]
  refine and_congr_right fun below => ?_
  have code : digit.digitChar.toNat = 48 + digit := Nat.toNat_digitChar_of_lt_ten (by omega)
  rw [← Char.toNat_inj, code]
  constructor
  · intro found
    split at found
    next => have := Option.some.inj found; omega
    next =>
      split at found
      next => have := Option.some.inj found; omega
      next =>
        split at found
        next => have := Option.some.inj found; omega
        next => cases found
  · intro equal
    rw [if_pos (by omega), equal, Nat.add_sub_cancel_left]

/-- **Digits are read** exactly where they take the value no further than the limit. By induction on
the characters; what is beyond the limit at one step stays so. -/
theorem digits_eq_ok_iff (small : base ≤ 10) (fits : value ≤ limit) :
    digits base limit above value chars = .ok result ↔
      ∃ given : List Nat, (∀ digit ∈ given, digit < base) ∧ chars = given.map Nat.digitChar ∧
        result = extend base value given ∧ result ≤ limit := by
  induction chars generalizing value with
  | nil =>
    constructor
    · intro done
      cases done
      exact ⟨[], List.forall_mem_nil _, rfl, rfl, fits⟩
    · rintro ⟨given, _, none, rfl, _⟩
      rw [List.map_eq_nil_iff.mp none.symm]
      rfl
  | cons char chars hypothesis =>
    rw [digits]
    constructor
    · intro done
      split at done
      next => cases done
      next digit found =>
        obtain ⟨below, rfl⟩ := (digit?_eq_some_iff small).mp found
        by_cases inside : value * base + digit ≤ limit
        · rw [if_pos inside] at done
          obtain ⟨given, proper, rfl, equal, ends⟩ := (hypothesis inside).mp done
          exact ⟨digit :: given, List.forall_mem_cons.mpr ⟨below, proper⟩, rfl, equal, ends⟩
        · rw [if_neg inside] at done
          cases done
    · rintro ⟨given, proper, shape, equal, ends⟩
      obtain ⟨digit, given, rfl, rfl, rfl⟩ := List.map_eq_cons_iff.mp shape.symm
      obtain ⟨below, proper⟩ := List.forall_mem_cons.mp proper
      have inside : value * base + digit ≤ limit :=
        calc value * base + digit ≤ extend base (value * base + digit) given :=
              le_extend (by omega) given
          _ = result := equal.symm
          _ ≤ limit := ends
      rw [(digit?_eq_some_iff small).mpr ⟨below, rfl⟩]
      show (if value * base + digit ≤ limit then _ else _) = _
      rw [if_pos inside]
      exact (hypothesis inside).mpr ⟨given, proper, rfl, equal, ends⟩

theorem digits_zero_eq_ok_iff (small : base ≤ 10) (some : chars ≠ []) :
    digits base limit above 0 chars = .ok result ↔
      SpellsDigits base chars result ∧ result ≤ limit := by
  rw [digits_eq_ok_iff small (Nat.zero_le limit)]
  constructor
  · rintro ⟨given, proper, rfl, equal, ends⟩
    rw [extend_zero] at equal
    exact ⟨⟨given, fun none => some (none ▸ rfl), proper, rfl, equal⟩, ends⟩
  · rintro ⟨⟨given, _, proper, rfl, equal⟩, ends⟩
    rw [← extend_zero] at equal
    exact ⟨given, proper, rfl, equal, ends⟩

/-! ### Signs -/

theorem SpellsDigits.ne_nil (spelled : SpellsDigits base chars value) : chars ≠ [] := by
  obtain ⟨digits, some, _, rfl, _⟩ := spelled
  exact fun none => some (List.map_eq_nil_iff.mp none)

theorem SpellsDigits.isDigit (small : base ≤ 10) (spelled : SpellsDigits base chars value) :
    ∀ char ∈ chars, char.isDigit = true := by
  obtain ⟨digits, _, proper, rfl, _⟩ := spelled
  refine List.forall_mem_map.mpr fun digit member => ?_
  have below := proper digit member
  rw [Nat.isDigit_digitChar]
  exact decide_eq_true (by omega)

/-- No digit is a sign. -/
theorem SpellsDigits.isDigit_head (small : base ≤ 10)
    (spelled : SpellsDigits base (char :: chars) value) : char ≠ '+' ∧ char ≠ '-' := by
  have isDigit := spelled.isDigit small char List.mem_cons_self
  constructor
  · rintro rfl
    exact absurd isDigit (by decide)
  · rintro rfl
    exact absurd isDigit (by decide)

theorem spells_plus_iff (small : base ≤ 10) :
    Spells base low ('+' :: chars) number ↔
      ∃ value : Nat, SpellsDigits base chars value ∧ value = number := by
  constructor
  · intro spelled
    cases spelled with
    | bare digits => exact absurd rfl (digits.isDigit_head small).1
    | plus digits => exact ⟨_, digits, rfl⟩
  · rintro ⟨value, digits, rfl⟩
    exact .plus digits

theorem spells_minus_iff (small : base ≤ 10) :
    Spells base low ('-' :: chars) number ↔
      low < 0 ∧ ∃ value : Nat, SpellsDigits base chars value ∧ -value = number := by
  constructor
  · intro spelled
    cases spelled with
    | bare digits => exact absurd rfl (digits.isDigit_head small).2
    | minus signed digits => exact ⟨signed, _, digits, rfl⟩
  · rintro ⟨signed, value, digits, rfl⟩
    exact .minus signed digits

theorem spells_bare_iff (plus : char ≠ '+') (minus : char ≠ '-') :
    Spells base low (char :: chars) number ↔
      ∃ value : Nat, SpellsDigits base (char :: chars) value ∧ value = number := by
  constructor
  · intro spelled
    cases spelled with
    | bare digits => exact ⟨_, digits, rfl⟩
    | plus digits => exact absurd rfl plus
    | minus signed digits => exact absurd rfl minus
  · rintro ⟨value, digits, rfl⟩
    exact .bare digits

/-! ### Integers of a range -/

theorem integer_plus (chars : List Char) : integer base low high ('+' :: chars) =
    if chars = [] then .error .notADigit
    else (digits base high.toNat .tooLarge 0 chars).map Int.ofNat := by
  cases chars <;> rfl

theorem integer_minus (chars : List Char) : integer base low high ('-' :: chars) =
    if chars = [] then .error .notADigit
    else if low < 0 then
      (digits base (-low).toNat .tooSmall 0 chars).map fun value => -Int.ofNat value
    else .error .notADigit := by
  cases chars <;> rfl

theorem integer_bare (plus : char ≠ '+') (minus : char ≠ '-') :
    integer base low high (char :: chars) =
      (digits base high.toNat .tooLarge 0 (char :: chars)).map Int.ofNat := by
  rw [integer]
  all_goals simp_all

theorem map_digits_eq_ok_iff {change : Nat → Int} (small : base ≤ 10) :
    (if chars = [] then .error .notADigit
      else (digits base limit above 0 chars).map change) = .ok number ↔
      ∃ value, (SpellsDigits base chars value ∧ value ≤ limit) ∧ change value = number := by
  by_cases none : chars = []
  · rw [if_pos none]
    exact iff_of_false nofun fun ⟨_, ⟨spelled, _⟩, _⟩ => spelled.ne_nil none
  · rw [if_neg none, map_eq_ok_iff]
    simp only [digits_zero_eq_ok_iff small none]

/-- Values up to a limit are those that lie within the range when they are changed. -/
theorem exists_fits_iff {spelled : Nat → Prop} {change : Nat → Int}
    (inside : ∀ value, value ≤ limit ↔ low ≤ change value ∧ change value ≤ high) :
    (∃ value, (spelled value ∧ value ≤ limit) ∧ change value = number) ↔
      (∃ value, spelled value ∧ change value = number) ∧ low ≤ number ∧ number ≤ high := by
  constructor
  · rintro ⟨value, ⟨holds, fits⟩, rfl⟩
    exact ⟨⟨value, holds, rfl⟩, (inside value).mp fits⟩
  · rintro ⟨⟨value, holds, rfl⟩, range⟩
    exact ⟨value, ⟨holds, (inside value).mpr range⟩, rfl⟩

/-- **What is read as an integer of a range** that holds zero: the texts that spell one of them. -/
theorem integer_eq_ok_iff (small : base ≤ 10) (zero : low ≤ 0 ∧ 0 ≤ high) :
    integer base low high chars = .ok number ↔
      Spells base low chars number ∧ low ≤ number ∧ number ≤ high := by
  have above (value : Nat) : value ≤ high.toNat ↔ low ≤ (value : Int) ∧ (value : Int) ≤ high := by
    omega
  have below (value : Nat) :
      value ≤ (-low).toNat ↔ low ≤ -(value : Int) ∧ -(value : Int) ≤ high := by
    omega
  rcases chars with _ | ⟨char, chars⟩
  · refine iff_of_false nofun fun ⟨spelled, _⟩ => ?_
    cases spelled with
    | bare digits => exact digits.ne_nil rfl
  by_cases plus : char = '+'
  · subst plus
    rw [integer_plus, map_digits_eq_ok_iff small, spells_plus_iff small]
    exact exists_fits_iff above
  by_cases minus : char = '-'
  · subst minus
    rw [integer_minus, spells_minus_iff small]
    by_cases signed : low < 0
    · rw [if_pos signed, map_digits_eq_ok_iff small, and_iff_right signed]
      exact exists_fits_iff below
    · rw [if_neg signed, ite_self]
      exact iff_of_false nofun fun given => signed given.1.1
  · have some : char :: chars ≠ [] := List.cons_ne_nil char chars
    rw [integer_bare plus minus, map_eq_ok_iff, spells_bare_iff plus minus]
    simp only [digits_zero_eq_ok_iff small some]
    exact exists_fits_iff above

/-! ### Written numbers -/

/-- **The digits that a number is written in** spell it. By induction on the number: its last digit
stands behind the digits of the rest. -/
theorem spellsDigits_toDigits (big : 1 < base) (value : Nat) :
    SpellsDigits base (Nat.toDigits base value) value := by
  induction value using Nat.strongRecOn with
  | ind value hypothesis =>
    by_cases small : value < base
    · rw [Nat.toDigits_of_lt_base small]
      refine ⟨[value], List.cons_ne_nil _ _, List.forall_mem_singleton.mpr small, rfl, ?_⟩
      rw [List.reverse_singleton, Nat.ofDigits_singleton]
    · have rest : value / base < value := Nat.div_lt_self (by omega) big
      obtain ⟨digits, _, proper, shape, equal⟩ := hypothesis (value / base) rest
      have last : value % base < base := Nat.mod_lt value (by omega)
      rw [Nat.toDigits_of_base_le big (by omega), shape]
      refine ⟨digits ++ [value % base], List.append_ne_nil_of_right_ne_nil _ (List.cons_ne_nil _ _),
        ?_, ?_, ?_⟩
      · exact List.forall_mem_append.mpr ⟨proper, List.forall_mem_singleton.mpr last⟩
      · rw [List.map_append, List.map_singleton]
      · rw [List.reverse_append, List.reverse_singleton, List.singleton_append, Nat.ofDigits_cons,
          ← equal]
        exact (Nat.mod_add_div value base).symm

/-- A text spells no separator. -/
theorem Spells.not_mem (small : base ≤ 10) (spelled : Spells base low chars number)
    (other : char.isDigit = false ∧ char ≠ '+' ∧ char ≠ '-') : char ∉ chars := by
  obtain ⟨noDigit, noPlus, noMinus⟩ := other
  have free {chars : List Char} {value : Nat} (digits : SpellsDigits base chars value) :
      char ∉ chars := by
    intro member
    exact Bool.false_ne_true (noDigit.symm.trans (digits.isDigit small char member))
  cases spelled with
  | bare digits => exact free digits
  | plus digits => exact List.not_mem_cons_of_ne_of_not_mem noPlus (free digits)
  | minus _ digits => exact List.not_mem_cons_of_ne_of_not_mem noMinus (free digits)

end Numeral

/-! ### Words -/

namespace Word

variable {α : Type} [Word α]

/-- Whether a text spells a word in a base. -/
def Spells (base : Nat) (text : String) (word : α) : Prop :=
  Numeral.Spells base (low α) text.toList (toInt word)

variable {text : String} {word : α}

theorem ofInt?_eq_some_iff {value : Int} : ofInt? value = some word ↔ toInt word = value := by
  constructor
  · intro found
    rw [ofInt?] at found
    split at found
    next range =>
      rw [← Option.some.inj found]
      exact toInt_ofInt value range.1 range.2
    next => cases found
  · rintro rfl
    exact ofInt?_toInt word

theorem map_integer_eq_ok_iff {base : Nat} (small : base ≤ 10) (zero : low α ≤ 0 ∧ 0 ≤ high α) :
    (Numeral.integer base (low α) (high α) text.toList).map ofInt = .ok word ↔
      Spells base text word := by
  rw [map_eq_ok_iff]
  simp only [Numeral.integer_eq_ok_iff small zero]
  constructor
  · rintro ⟨value, ⟨spelled, above, below⟩, rfl⟩
    rw [Spells, toInt_ofInt value above below]
    exact spelled
  · intro spelled
    exact ⟨toInt word, ⟨spelled, low_le_toInt word, toInt_le_high word⟩, ofInt_toInt word⟩

/-- **What is read as a word**: the texts that spell it. -/
theorem read_eq_ok_iff (zero : low α ≤ 0 ∧ 0 ≤ high α) :
    read text = .ok word ↔ Spells 10 text word :=
  map_integer_eq_ok_iff (by decide) zero

theorem readOctal_eq_ok_iff (zero : low α ≤ 0 ∧ 0 ≤ high α) :
    readOctal text = .ok word ↔ Spells 8 text word :=
  map_integer_eq_ok_iff (by decide) zero

/-- A text that spells a word stays within its field. -/
theorem Spells.not_mem_colon {base : Nat} (small : base ≤ 10) (spelled : Spells base text word) :
    ':' ∉ text.toList :=
  Numeral.Spells.not_mem small spelled (by decide)

/-- **The decimal text of a word** spells it. -/
theorem spells_text (word : α) : Spells 10 (Word.text word) word := by
  have digits (value : Nat) : Numeral.SpellsDigits 10 (Nat.repr value).toList value := by
    rw [Nat.toList_repr]
    exact Numeral.spellsDigits_toDigits (by decide) value
  rw [Spells, Word.text]
  cases shape : toInt word with
  | ofNat value => exact .bare (digits value)
  | negSucc value =>
    have signed : low α < 0 :=
      Int.lt_of_le_of_lt (low_le_toInt word) (shape ▸ Int.negSucc_lt_zero value)
    have text : (toString (Int.negSucc value)).toList = '-' :: (Nat.repr (value + 1)).toList := by
      show ("-" ++ Nat.repr (value + 1)).toList = _
      rw [String.toList_append]
      rfl
    rw [text]
    exact .minus signed (digits (value + 1))

end Word

end OciBundle
