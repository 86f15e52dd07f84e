/-
**The texts of rules.**

A text of rules is the word of an action, names between commas and any number of conditions, with
a colon in front of each part but the first. The numbers of a condition may have a plus sign and
leading zeros. Nothing else is read, and what is read are the rules that the text is of: names and
conditions in their order, without the empty names.

* `Comparison`, `Comparison.Written`: a condition with a known operator, and its texts.
* `NameRule.Written`: the texts of rules.
* `NameRule.writeAll`: the plain text of an action, names and conditions.
* `NameRule.readFields_eq_ok_iff`, `NameRule.readConditions_eq_ok_iff`: what is read as conditions.
* `NameRule.readAll_iff_written`: what is read as rules.
-/

import OciBundle.Proofs.Text.Numeral
import OciBundle.Proofs.Text.Separated
import OciBundle.Seccomp.Notation

namespace OciBundle

open Text (behind)

/-- A condition whose operator is one of the vocabulary. -/
structure Comparison where
  index : UInt32
  value : UInt64
  valueTwo : UInt64
  operator : SeccompOperator

/-! ### Conditions -/

namespace Comparison

variable {comparison : Comparison} {comparisons : List Comparison}

/-- The condition as it is listed. -/
def condition (comparison : Comparison) : ArgCondition :=
  ⟨comparison.index, comparison.value, comparison.valueTwo, comparison.operator.text⟩

/-- **The texts of a condition**: three numbers and the word of the operator, behind a colon each. -/
def Written (comparison : Comparison) (text : String) : Prop :=
  ∃ index value valueTwo, Word.Spells 10 index comparison.index ∧
    Word.Spells 10 value comparison.value ∧ Word.Spells 10 valueTwo comparison.valueTwo ∧
      text = ":" ++ index ++ ":" ++ value ++ ":" ++ valueTwo ++ ":" ++ comparison.operator.word

/-- The plain text of a condition. -/
def write (comparison : Comparison) : String :=
  ":" ++ Word.text comparison.index ++ ":" ++ Word.text comparison.value ++ ":" ++
    Word.text comparison.valueTwo ++ ":" ++ comparison.operator.word

theorem written_write (comparison : Comparison) : comparison.Written comparison.write :=
  ⟨_, _, _, Word.spells_text _, Word.spells_text _, Word.spells_text _, rfl⟩

/-- The fields of a text of a condition. -/
def Spelled (comparison : Comparison) (fields : List String) : Prop :=
  ∃ index value valueTwo, Word.Spells 10 index comparison.index ∧
    Word.Spells 10 value comparison.value ∧ Word.Spells 10 valueTwo comparison.valueTwo ∧
      fields = [index, value, valueTwo, comparison.operator.word]

theorem behind_fields (index value valueTwo operator : String) :
    behind ':' [index, value, valueTwo, operator] =
      ":" ++ index ++ ":" ++ value ++ ":" ++ valueTwo ++ ":" ++ operator := by
  simp only [behind, List.map_cons, List.map_nil, String.join_cons, String.join_nil,
    String.append_empty, String.append_assoc]
  rfl

theorem written_iff {text : String} :
    comparison.Written text ↔ ∃ fields, comparison.Spelled fields ∧ text = behind ':' fields := by
  constructor
  · rintro ⟨index, value, valueTwo, spelled, spelled', spelled'', rfl⟩
    exact ⟨_, ⟨index, value, valueTwo, spelled, spelled', spelled'', rfl⟩,
      (behind_fields _ _ _ _).symm⟩
  · rintro ⟨_, ⟨index, value, valueTwo, spelled, spelled', spelled'', rfl⟩, rfl⟩
    exact ⟨index, value, valueTwo, spelled, spelled', spelled'', behind_fields _ _ _ _⟩

/-- The texts of conditions are put together of their fields. -/
theorem forall₂_written_iff {texts : List String} :
    List.Forall₂ Written comparisons texts ↔
      ∃ groups, List.Forall₂ Spelled comparisons groups ∧ texts = groups.map (behind ':') := by
  constructor
  · intro each
    induction each with
    | nil => exact ⟨[], .nil, rfl⟩
    | cons first _ hypothesis =>
      obtain ⟨fields, spelled, rfl⟩ := written_iff.mp first
      obtain ⟨groups, others, rfl⟩ := hypothesis
      exact ⟨fields :: groups, .cons spelled others, rfl⟩
  · rintro ⟨groups, each, rfl⟩
    rw [List.forall₂_map_right_iff]
    exact each.imp fun _ fields spelled => written_iff.mpr ⟨fields, spelled, rfl⟩

theorem Spelled.length {fields : List String} (spelled : comparison.Spelled fields) :
    fields.length = 4 := by
  obtain ⟨_, _, _, _, _, _, rfl⟩ := spelled
  rfl

/-- No field has a colon. -/
theorem Spelled.not_mem {fields : List String} (spelled : comparison.Spelled fields) :
    ∀ field ∈ fields, ':' ∉ field.toList := by
  obtain ⟨index, value, valueTwo, spelled, spelled', spelled'', rfl⟩ := spelled
  have word : ':' ∉ comparison.operator.word.toList := by
    cases comparison.operator <;> decide
  simp only [List.forall_mem_cons]
  exact ⟨spelled.not_mem_colon (by decide), spelled'.not_mem_colon (by decide),
    spelled''.not_mem_colon (by decide), word, List.forall_mem_nil _⟩

theorem length_flatten_mod {groups : List (List String)}
    (each : List.Forall₂ Spelled comparisons groups) : groups.flatten.length % 4 = 0 := by
  induction each with
  | nil => rfl
  | cons first _ hypothesis =>
    rw [List.flatten_cons, List.length_append, first.length]
    omega

theorem not_mem_flatten {groups : List (List String)}
    (each : List.Forall₂ Spelled comparisons groups) :
    ∀ field ∈ groups.flatten, ':' ∉ field.toList := by
  induction each with
  | nil => exact List.forall_mem_nil _
  | cons first _ hypothesis => exact List.forall_mem_append.mpr ⟨first.not_mem, hypothesis⟩

end Comparison

/-! ### What is read -/

namespace NameRule

open Comparison (condition)

variable {input : String} {args : List ArgCondition} {rules : List NameRule}

/-- A short word is read as the one that it is the word of. -/
theorem readWord_eq_ok_iff {α : Type} [Vocabulary α] {word : α → String} {subject token : String}
    {found : α} (injective : ∀ first second, word first = word second → first = second) :
    readWord word subject token = .ok found ↔ word found = token := by
  rw [readWord]
  constructor
  · intro done
    split at done
    next other here =>
      cases done
      simpa using List.find?_some here
    next => cases done
  · rintro rfl
    have some : ((Vocabulary.all (α := α)).find? (word · = word found)).isSome = true :=
      List.find?_isSome.mpr ⟨found, Vocabulary.mem_all found, by simp⟩
    obtain ⟨other, here⟩ := Option.isSome_iff_exists.mp some
    have same : word other = word found := by simpa using List.find?_some here
    rw [here, injective other found same]

theorem readAction_eq_ok_iff {token : String} {action : SeccompAction} :
    readAction token = .ok action ↔ action.word = token := by
  refine readWord_eq_ok_iff fun first second same => ?_
  cases first <;> cases second <;> simp_all [SeccompAction.word]

theorem readOperator_eq_ok_iff {token : String} {operator : SeccompOperator} :
    readOperator token = .ok operator ↔ operator.word = token := by
  refine readWord_eq_ok_iff fun first second same => ?_
  cases first <;> cases second <;> simp_all [SeccompOperator.word]

theorem readNumber_eq_ok_iff {field name : String} {value : UInt64} :
    readNumber input field name = .ok value ↔ Word.Spells 10 field value := by
  rw [readNumber, mapError_eq_ok_iff, Word.read_eq_ok_iff (by decide)]

/-- An index is a number of the larger range first. -/
theorem readIndex_eq_ok_iff {field : String} {index : UInt32} :
    (∃ number : UInt64, Word.Spells 10 field number ∧
      Word.ofInt? (Word.toInt number) = some index) ↔ Word.Spells 10 field index := by
  constructor
  · rintro ⟨number, spelled, fits⟩
    rw [Word.Spells, Word.ofInt?_eq_some_iff.mp fits]
    exact spelled
  · intro spelled
    have same : Word.toInt (Word.ofInt (Word.toInt index) : UInt64) = Word.toInt index := by
      have above : 0 ≤ Word.toInt index := Word.low_le_toInt index
      have below : Word.toInt index ≤ 0xffffffff := Word.toInt_le_high index
      exact Word.toInt_ofInt _ above (Int.le_trans below (by decide))
    refine ⟨Word.ofInt (Word.toInt index), ?_, Word.ofInt?_eq_some_iff.mpr same.symm⟩
    rw [Word.Spells, same]
    exact spelled

/-- **What is read as a condition.** -/
theorem readFields_eq_ok_iff {first second third fourth : String} {read : ArgCondition} :
    readFields input first second third fourth = .ok read ↔
      ∃ comparison : Comparison, comparison.Spelled [first, second, third, fourth] ∧
        comparison.condition = read := by
  constructor
  · intro done
    obtain ⟨number, spelled, done⟩ := exists_of_bind_eq_ok done
    dsimp only at done
    split at done
    next index inside =>
      obtain ⟨_, equal, done⟩ := exists_of_bind_eq_ok done
      cases equal
      obtain ⟨value, spelled', done⟩ := exists_of_bind_eq_ok done
      obtain ⟨valueTwo, spelled'', done⟩ := exists_of_bind_eq_ok done
      obtain ⟨operator, word, done⟩ := exists_of_bind_eq_ok done
      cases done
      refine ⟨⟨index, value, valueTwo, operator⟩, ⟨first, second, third, ?_, ?_, ?_, ?_⟩, rfl⟩
      · exact readIndex_eq_ok_iff.mp ⟨number, readNumber_eq_ok_iff.mp spelled, inside⟩
      · exact readNumber_eq_ok_iff.mp spelled'
      · exact readNumber_eq_ok_iff.mp spelled''
      · rw [readOperator_eq_ok_iff.mp word]
    next => cases done
  · rintro ⟨comparison, ⟨_, _, _, spelled, spelled', spelled'', shape⟩, rfl⟩
    cases shape
    obtain ⟨number, here, inside⟩ := readIndex_eq_ok_iff.mpr spelled
    simp only [readFields, readNumber_eq_ok_iff.mpr here, inside, readNumber_eq_ok_iff.mpr spelled',
      readNumber_eq_ok_iff.mpr spelled'', readOperator_eq_ok_iff.mpr rfl, bind, Except.bind]
    rfl

/-- **What is read as conditions**, if their fields can be grouped. By induction on the fields, four
at a time. -/
theorem readConditions_eq_ok_iff {fields : List String} (whole : fields.length % 4 = 0) :
    readConditions input fields = .ok args ↔
      ∃ comparisons groups, List.Forall₂ Comparison.Spelled comparisons groups ∧
        groups.flatten = fields ∧ comparisons.map condition = args := by
  induction fields using readConditions.induct generalizing args with
  | case1 index value valueTwo operator rest hypothesis =>
    have later : rest.length % 4 = 0 := by
      simp only [List.length_cons] at whole
      omega
    rw [readConditions]
    constructor
    · intro done
      obtain ⟨first, read, done⟩ := exists_of_bind_eq_ok done
      obtain ⟨others, read', done⟩ := exists_of_bind_eq_ok done
      cases done
      obtain ⟨comparison, spelled, rfl⟩ := readFields_eq_ok_iff.mp read
      obtain ⟨comparisons, groups, each, rfl, rfl⟩ := (hypothesis later).mp read'
      exact ⟨comparison :: comparisons, _ :: groups, .cons spelled each, rfl, rfl⟩
    · rintro ⟨comparisons, groups, each, shape, rfl⟩
      cases each with
      | nil => cases shape
      | @cons comparison fields comparisons groups spelled each =>
        obtain ⟨index', value', valueTwo', _, _, _, rfl⟩ := id spelled
        have shape : index' :: value' :: valueTwo' :: comparison.operator.word :: groups.flatten =
            index :: value :: valueTwo :: operator :: rest := shape
        cases shape
        rw [readFields_eq_ok_iff.mpr ⟨comparison, spelled, rfl⟩,
          (hypothesis later).mpr ⟨comparisons, groups, each, rfl, rfl⟩]
        rfl
  | case2 fields few =>
    obtain rfl : fields = [] := by
      rcases fields with _ | ⟨index, _ | ⟨value, _ | ⟨valueTwo, _ | ⟨operator, rest⟩⟩⟩⟩
      · rfl
      · cases whole
      · cases whole
      · cases whole
      · exact absurd rfl (few index value valueTwo operator rest)
    constructor
    · intro done
      cases done
      exact ⟨[], [], .nil, rfl, rfl⟩
    · rintro ⟨comparisons, groups, each, shape, rfl⟩
      cases each with
      | nil => rfl
      | cons spelled _ =>
        obtain ⟨_, _, _, _, _, _, rfl⟩ := spelled
        cases shape

/-- What is read as rules, by the fields of the text. -/
theorem readAll_eq_ok_iff : readAll input = .ok rules ↔
    ∃ (action : SeccompAction) (names : String) (comparisons : List Comparison)
      (groups : List (List String)),
        Text.fields ':' input = action.word :: names :: groups.flatten ∧
        List.Forall₂ Comparison.Spelled comparisons groups ∧ Text.items names ≠ [] ∧
        rules = (Text.items names).map fun name => ⟨name, action, comparisons.map condition⟩ := by
  constructor
  · intro done
    unfold readAll at done
    dsimp only at done
    split at done
    next word names fields cut =>
      obtain ⟨whole, done⟩ := of_check_eq_ok done
      obtain ⟨action, known, done⟩ := exists_of_bind_eq_ok done
      obtain ⟨args, read, done⟩ := exists_of_bind_eq_ok done
      obtain ⟨some, done⟩ := of_check_eq_ok done
      cases done
      obtain ⟨comparisons, groups, each, rfl, rfl⟩ :=
        (readConditions_eq_ok_iff (not_not.mp whole)).mp read
      refine ⟨action, names, comparisons, groups, ?_, each, ?_, rfl⟩
      · rw [cut, readAction_eq_ok_iff.mp known]
      · exact fun none => some (List.isEmpty_iff.mpr none)
    next => cases done
  · rintro ⟨action, names, comparisons, groups, cut, each, some, rfl⟩
    have whole := Comparison.length_flatten_mod each
    have read : readConditions input groups.flatten = .ok (comparisons.map condition) :=
      (readConditions_eq_ok_iff whole).mpr ⟨comparisons, groups, each, rfl, rfl⟩
    have given : ¬ (Text.items names).isEmpty = true := fun none => some (List.isEmpty_iff.mp none)
    unfold readAll
    simp only [cut, if_neg (not_not.mpr whole), readAction_eq_ok_iff.mpr rfl, read, if_neg given]
    rfl

end NameRule

/-! ### Texts of rules -/

namespace NameRule

open Comparison (condition)

variable {input : String} {rules : List NameRule}

/-- **The texts of rules**: the word of an action, a colon, names between commas of which one at
least is not empty and none has a colon, and texts of conditions. There is a rule for every name
that is not empty, in their order, with the action and all conditions. -/
def Written (rules : List NameRule) (input : String) : Prop :=
  ∃ (action : SeccompAction) (names : List String) (comparisons : List Comparison)
    (texts : List String),
    (∀ name ∈ names, ',' ∉ name.toList) ∧ ':' ∉ (",".intercalate names).toList ∧
      (∃ name ∈ names, name ≠ "") ∧ List.Forall₂ Comparison.Written comparisons texts ∧
      input = action.word ++ ":" ++ ",".intercalate names ++ String.join texts ∧
      rules = (names.filter (· ≠ "")).map fun name => ⟨name, action, comparisons.map condition⟩

/-- The plain text of an action, names and conditions. -/
def writeAll (action : SeccompAction) (names : List String) (comparisons : List Comparison) :
    String :=
  action.word ++ ":" ++ ",".intercalate names ++ String.join (comparisons.map Comparison.write)

theorem not_mem_word (action : SeccompAction) : ':' ∉ action.word.toList := by
  cases action <;> decide

/-- A text is put together of its fields. -/
theorem fields_eq_iff_written {word names : String} {groups : List (List String)} :
    Text.fields ':' input = word :: names :: groups.flatten ↔
      input = word ++ ":" ++ names ++ String.join (groups.map (behind ':')) ∧
        ∀ field ∈ word :: names :: groups.flatten, ':' ∉ field.toList := by
  have text : word ++ behind ':' (names :: groups.flatten) =
      word ++ ":" ++ names ++ String.join (groups.map (behind ':')) := by
    rw [Text.behind_cons, Text.behind_flatten, String.append_assoc, String.append_assoc]
    rfl
  rw [Text.fields_eq_cons_iff, text]

theorem items_eq (names : String) :
    Text.items names = (Text.fields ',' names).filter (· ≠ "") := rfl

/-- **What is read are the texts of rules.** -/
theorem readAll_eq_ok_iff_written : readAll input = .ok rules ↔ Written rules input := by
  rw [readAll_eq_ok_iff]
  constructor
  · rintro ⟨action, names, comparisons, groups, cut, each, some, rfl⟩
    obtain ⟨rfl, free⟩ := fields_eq_iff_written.mp cut
    have joined : ",".intercalate (Text.fields ',' names) = names :=
      Text.intercalate_fields ',' names
    obtain ⟨name, member⟩ := List.exists_mem_of_ne_nil _ some
    obtain ⟨inside, given⟩ := List.mem_filter.mp member
    refine ⟨action, Text.fields ',' names, comparisons, _, fun _ => Text.not_mem_of_mem_fields, ?_,
      ⟨name, inside, of_decide_eq_true given⟩,
      Comparison.forall₂_written_iff.mpr ⟨groups, each, rfl⟩, ?_, rfl⟩
    · rw [joined]
      exact free names (List.mem_cons_of_mem _ List.mem_cons_self)
    · rw [joined]
  · rintro ⟨action, names, comparisons, texts, noComma, noColon, ⟨name, inside, given⟩, written,
      rfl, rfl⟩
    obtain ⟨groups, each, rfl⟩ := Comparison.forall₂_written_iff.mp written
    have cut : Text.fields ',' (",".intercalate names) = names :=
      Text.fields_eq_iff.mpr ⟨List.ne_nil_of_mem inside, rfl, noComma⟩
    have items : Text.items (",".intercalate names) = names.filter (· ≠ "") := by
      rw [items_eq, cut]
    refine ⟨action, ",".intercalate names, comparisons, groups, ?_, each, ?_, ?_⟩
    · refine fields_eq_iff_written.mpr ⟨rfl, List.forall_mem_cons.mpr ⟨not_mem_word action, ?_⟩⟩
      exact List.forall_mem_cons.mpr ⟨noColon, Comparison.not_mem_flatten each⟩
    · rw [items]
      exact List.ne_nil_of_mem (List.mem_filter.mpr ⟨inside, decide_eq_true given⟩)
    · rw [items]

/-- **What is read as rules.** A text is read exactly if it is one of rules, and these are read; and
the plain text of an action, names and conditions is read as the rules for them. -/
theorem readAll_iff_written :
    (∀ input rules, readAll input = .ok rules ↔ Written rules input) ∧
    ∀ (action : SeccompAction) (names : List String) (comparisons : List Comparison), names ≠ [] →
      (∀ name ∈ names, name ≠ "" ∧ ':' ∉ name.toList ∧ ',' ∉ name.toList) →
      readAll (writeAll action names comparisons) =
        .ok (names.map fun name => ⟨name, action, comparisons.map condition⟩) := by
  refine ⟨fun _ _ => readAll_eq_ok_iff_written, fun action names comparisons some proper => ?_⟩
  obtain ⟨name, inside⟩ := List.exists_mem_of_ne_nil names some
  have all : names.filter (· ≠ "") = names :=
    List.filter_eq_self.mpr fun name member => decide_eq_true (proper name member).1
  have noColon : ':' ∉ ((String.singleton ',').intercalate names).toList :=
    Text.not_mem_intercalate (by decide) fun name member => (proper name member).2.1
  have each : List.Forall₂ Comparison.Written comparisons (comparisons.map Comparison.write) := by
    rw [List.forall₂_map_right_iff]
    exact List.forall₂_same.mpr fun comparison _ => comparison.written_write
  refine readAll_eq_ok_iff_written.mpr ⟨action, names, comparisons, _,
    fun name member => (proper name member).2.2, noColon, ⟨name, inside, (proper name inside).1⟩,
    each, rfl, ?_⟩
  rw [all]

/-- Two names under a condition on the largest numbers. -/
theorem readAll_iff_written_clone :
    let comparison : Comparison := ⟨4294967295, 0, 18446744073709551615, .maskedEqual⟩
    let input := "trap:clone,clone3:4294967295:0:18446744073709551615:ME"
    writeAll .trap ["clone", "clone3"] [comparison] = input ∧
      readAll input = .ok [⟨"clone", .trap, [condition comparison]⟩,
        ⟨"clone3", .trap, [condition comparison]⟩] := by
  intro comparison input
  have plain : writeAll .trap ["clone", "clone3"] [comparison] = input := by decide
  refine ⟨plain, ?_⟩
  rw [← plain]
  exact readAll_iff_written.2 .trap ["clone", "clone3"] [comparison] (by decide) (by decide)

example : readAll "errno:,read,:+007:00:1:NE" =
    .ok [⟨"read", .errno, [⟨7, 0, 1, "SCMP_CMP_NE"⟩]⟩] := by decide

end NameRule

end OciBundle
