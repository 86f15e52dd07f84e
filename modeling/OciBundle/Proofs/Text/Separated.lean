/-
**Texts that are put together of fields.**

A separator stands between fields, and no field holds it. So the fields can be told from the text:
they are its pieces.

* `behind`: fields, each behind a separator.
* `fields_append`: the fields on both sides of a separator.
* `fields_eq_cons_iff`: the fields of a text are those that it is put together of.
* `fields_eq_iff`: the same for fields that are joined.
* `cut_eq_some_iff`, `cut_eq_none_iff`: a text is cut at its first separator, if it has one.
* `cutTwice_eq_none_iff`, `cutTwice_eq_some_iff`: a text is cut at its first two separators.
* `items_intercalate`: the items of a list between commas.
-/

import Mathlib.Data.List.Flatten
import OciBundle.Text.Separated

namespace OciBundle.Text

variable {separator char : Char}

/-- Fields, each behind a separator. -/
def behind (separator : Char) (fields : List String) : String :=
  String.join (fields.map (String.singleton separator ++ ·))

/-! ### Pieces -/

theorem pieces_of_not_mem {chars : List Char} (free : separator ∉ chars) :
    pieces separator chars = [chars] := by
  induction chars with
  | nil => rfl
  | cons first rest hypothesis =>
    have other : first ≠ separator := (List.ne_of_not_mem_cons free).symm
    rw [pieces, if_neg other, hypothesis (List.not_mem_of_not_mem_cons free)]

/-- A separator parts the pieces before it from the pieces behind it. -/
theorem pieces_append_cons (separator : Char) (front back : List Char) :
    pieces separator (front ++ separator :: back) =
      pieces separator front ++ pieces separator back := by
  induction front with
  | nil => simp [pieces]
  | cons first front hypothesis =>
    rw [List.cons_append, pieces, pieces]
    split
    · rw [hypothesis, List.cons_append]
    · rw [hypothesis]
      obtain ⟨head, others, shape⟩ := List.exists_cons_of_ne_nil (pieces_ne_nil separator front)
      rw [shape]
      rfl

/-! ### Fields -/

theorem fields_ne_nil (separator : Char) (text : String) : fields separator text ≠ [] := by
  simp [fields, pieces_ne_nil]

theorem fields_of_not_mem {text : String} (free : separator ∉ text.toList) :
    fields separator text = [text] := by
  rw [fields, pieces_of_not_mem free, List.map_singleton, String.ofList_toList]

/-- The fields on both sides of a separator, such as the components of a path below another one. -/
theorem fields_append (separator : Char) (front back : String) :
    fields separator (front ++ String.singleton separator ++ back) =
      fields separator front ++ fields separator back := by
  simp [fields, pieces_append_cons]

/-- A separator at the end stands before an empty field. -/
theorem fields_append_separator (separator : Char) (front : String) :
    fields separator (front ++ String.singleton separator) = fields separator front ++ [""] := by
  simpa [fields, pieces] using fields_append separator front ""

/-- No field holds the separator. -/
theorem not_mem_of_mem_fields {text field : String} (member : field ∈ fields separator text) :
    separator ∉ field.toList := by
  obtain ⟨piece, inside, rfl⟩ := List.mem_map.mp member
  rw [String.toList_ofList]
  exact separator_notMem_of_mem_pieces inside

theorem behind_cons (separator : Char) (first : String) (others : List String) :
    behind separator (first :: others) =
      String.singleton separator ++ (first ++ behind separator others) := by
  rw [behind, List.map_cons, String.join_cons, String.append_assoc, behind]

theorem behind_append (separator : Char) (fields others : List String) :
    behind separator (fields ++ others) = behind separator fields ++ behind separator others := by
  rw [behind, List.map_append, String.join_append]
  rfl

/-- Groups of fields, put together group by group. -/
theorem behind_flatten (separator : Char) (groups : List (List String)) :
    behind separator groups.flatten = String.join (groups.map (behind separator)) := by
  induction groups with
  | nil => rfl
  | cons group groups hypothesis =>
    rw [List.flatten_cons, behind_append, hypothesis, List.map_cons, String.join_cons]

/-- A text is put together of its first field and the other ones behind separators. By induction on
the other fields. -/
theorem fields_append_behind {first : String} {others : List String}
    (free : ∀ field ∈ first :: others, separator ∉ field.toList) :
    fields separator (first ++ behind separator others) = first :: others := by
  obtain ⟨here, later⟩ := List.forall_mem_cons.mp free
  induction others generalizing first with
  | nil =>
    rw [show behind separator [] = "" from rfl, String.append_empty, fields_of_not_mem here]
  | cons next others hypothesis =>
    obtain ⟨here', later'⟩ := List.forall_mem_cons.mp later
    rw [behind_cons, ← String.append_assoc, fields_append, fields_of_not_mem here,
      hypothesis later here' later']
    rfl

theorem intercalate_cons (separator : Char) (first : String) (others : List String) :
    (String.singleton separator).intercalate (first :: others) =
      first ++ behind separator others := by
  induction others generalizing first with
  | nil => simp [behind]
  | cons next others hypothesis =>
    rw [String.intercalate_cons_cons, hypothesis, String.append_assoc, behind_cons]

/-- Joining the fields with the separator gives the text back. -/
theorem intercalate_fields (separator : Char) (text : String) :
    (String.singleton separator).intercalate (fields separator text) = text := by
  have same : (String.toList ∘ String.ofList) = (id : List Char → List Char) :=
    funext fun _ => String.toList_ofList
  rw [← String.toList_inj, String.toList_intercalate, String.toList_singleton, fields, List.map_map,
    same, List.map_id, intercalate_pieces]

/-- **The fields of a text are those that it is put together of.** -/
theorem fields_eq_cons_iff {text first : String} {others : List String} :
    fields separator text = first :: others ↔
      text = first ++ behind separator others ∧
        ∀ field ∈ first :: others, separator ∉ field.toList := by
  constructor
  · intro cut
    refine ⟨?_, fun field member => not_mem_of_mem_fields (cut ▸ member)⟩
    rw [← intercalate_cons, ← cut, intercalate_fields]
  · rintro ⟨rfl, free⟩
    exact fields_append_behind free

/-- **The fields of a text are those that it is joined of**, of which there is one at least. -/
theorem fields_eq_iff {text : String} {parts : List String} :
    fields separator text = parts ↔
      parts ≠ [] ∧ text = (String.singleton separator).intercalate parts ∧
        ∀ part ∈ parts, separator ∉ part.toList := by
  cases parts with
  | nil => exact iff_of_false (fields_ne_nil separator text) fun joined => joined.1 rfl
  | cons first others =>
    rw [fields_eq_cons_iff, intercalate_cons, and_iff_right (List.cons_ne_nil first others)]

/-- Joined texts hold what each of them holds, and the separator. -/
theorem not_mem_intercalate {parts : List String} (other : char ≠ separator)
    (free : ∀ part ∈ parts, char ∉ part.toList) :
    char ∉ ((String.singleton separator).intercalate parts).toList := by
  cases parts with
  | nil => exact List.not_mem_nil
  | cons first others =>
    rw [intercalate_cons, String.toList_append, List.mem_append, not_or]
    obtain ⟨here, later⟩ := List.forall_mem_cons.mp free
    refine ⟨here, ?_⟩
    intro inside
    rw [behind, String.toList_join, List.flatMap_map, List.mem_flatMap] at inside
    obtain ⟨part, member, inside⟩ := inside
    rw [String.toList_append, String.toList_singleton, List.singleton_append] at inside
    rcases List.mem_cons.mp inside with same | inside
    · exact other same
    · exact later part member inside

/-! ### Cuts -/

theorem cutChars_append {before : List Char} (free : separator ∉ before) (after : List Char) :
    cutChars separator (before ++ separator :: after) = some (before, after) := by
  induction before with
  | nil => rw [List.nil_append, cutChars, if_pos rfl]
  | cons first before hypothesis =>
    have other : first ≠ separator := (List.ne_of_not_mem_cons free).symm
    rw [List.cons_append, cutChars, if_neg other,
      hypothesis (List.not_mem_of_not_mem_cons free)]
    rfl

theorem cutChars_eq_some_iff {chars before after : List Char} :
    cutChars separator chars = some (before, after) ↔
      chars = before ++ separator :: after ∧ separator ∉ before := by
  refine ⟨fun found => ?_, fun ⟨split, free⟩ => split ▸ cutChars_append free after⟩
  induction chars generalizing before with
  | nil => cases found
  | cons first rest hypothesis =>
    rw [cutChars] at found
    by_cases here : first = separator
    · rw [if_pos here] at found
      cases found
      exact ⟨congrArg (· :: after) here, List.not_mem_nil⟩
    · rw [if_neg here] at found
      obtain ⟨⟨front, back⟩, later, equal⟩ := Option.map_eq_some_iff.mp found
      cases equal
      obtain ⟨split, free⟩ := hypothesis later
      refine ⟨congrArg (first :: ·) split, fun member => ?_⟩
      rcases List.mem_cons.mp member with same | inside
      · exact here same.symm
      · exact free inside

/-- **A text is cut at its first separator.** -/
theorem cut_eq_some_iff {text before after : String} :
    cut separator text = some (before, after) ↔
      text = before ++ String.singleton separator ++ after ∧ separator ∉ before.toList := by
  have chars : (before ++ String.singleton separator ++ after).toList =
      before.toList ++ separator :: after.toList := by
    rw [String.toList_append, String.toList_append, String.toList_singleton, List.append_assoc]
    rfl
  rw [← String.toList_inj, chars, ← cutChars_eq_some_iff, cut]
  constructor
  · intro found
    obtain ⟨⟨front, back⟩, split, equal⟩ := Option.map_eq_some_iff.mp found
    cases equal
    rw [split, String.toList_ofList, String.toList_ofList]
  · intro found
    rw [found]
    show some (String.ofList before.toList, String.ofList after.toList) = some (before, after)
    rw [String.ofList_toList, String.ofList_toList]

theorem cutChars_eq_none_iff {chars : List Char} :
    cutChars separator chars = none ↔ separator ∉ chars := by
  constructor
  · intro none inside
    obtain ⟨before, after, rfl, free⟩ := List.eq_append_cons_of_mem inside
    rw [cutChars_append free] at none
    cases none
  · intro free
    cases found : cutChars separator chars with
    | none => rfl
    | some parts =>
      obtain ⟨rfl, _⟩ := cutChars_eq_some_iff.mp found
      exact absurd (List.mem_append_right _ List.mem_cons_self) free

theorem cut_eq_none_iff {text : String} : cut separator text = none ↔ separator ∉ text.toList := by
  rw [cut, Option.map_eq_none_iff, cutChars_eq_none_iff]

/-- A text with one separator is cut there. -/
theorem cutTwice_eq_none_iff {text first second : String} :
    cutTwice separator text = (first, some second, none) ↔
      text = first ++ String.singleton separator ++ second ∧ separator ∉ first.toList ∧
        separator ∉ second.toList := by
  constructor
  · intro found
    unfold cutTwice at found
    split at found
    next => cases found
    next here =>
      split at found
      next whole =>
        cases found
        obtain ⟨split, free⟩ := cut_eq_some_iff.mp here
        exact ⟨split, free, cut_eq_none_iff.mp whole⟩
      next => cases found
  · rintro ⟨split, free, whole⟩
    rw [cutTwice, cut_eq_some_iff.mpr ⟨split, free⟩]
    dsimp only
    rw [cut_eq_none_iff.mpr whole]

/-- **A text with more separators is cut at the first two.** -/
theorem cutTwice_eq_some_iff {text first second third : String} :
    cutTwice separator text = (first, some second, some third) ↔
      text = first ++ String.singleton separator ++ second ++ String.singleton separator ++ third ∧
        separator ∉ first.toList ∧ separator ∉ second.toList := by
  constructor
  · intro found
    unfold cutTwice at found
    split at found
    next => cases found
    next here =>
      split at found
      next => cases found
      next there =>
        cases found
        obtain ⟨split, free⟩ := cut_eq_some_iff.mp here
        obtain ⟨split', free'⟩ := cut_eq_some_iff.mp there
        refine ⟨?_, free, free'⟩
        rw [split, split']
        simp only [String.append_assoc]
  · rintro ⟨split, free, free'⟩
    have front : text = first ++ String.singleton separator ++
        (second ++ String.singleton separator ++ third) := by
      rw [split]
      simp only [String.append_assoc]
    rw [cutTwice, cut_eq_some_iff.mpr ⟨front, free⟩]
    dsimp only
    rw [cut_eq_some_iff.mpr ⟨rfl, free'⟩]

/-! ### Items -/

theorem mem_items {text item : String} (member : item ∈ items text) :
    item ≠ "" ∧ ',' ∉ item.toList := by
  obtain ⟨inside, given⟩ := List.mem_filter.mp member
  exact ⟨of_decide_eq_true given, not_mem_of_mem_fields inside⟩

/-- Items that are joined are found again, also where there are none. -/
theorem items_intercalate {list : List String} (proper : ∀ item ∈ list, item ≠ "" ∧ ',' ∉ item.toList) :
    items (",".intercalate list) = list := by
  by_cases empty : list = []
  · rw [empty]
    rfl
  · have cut : fields ',' (",".intercalate list) = list :=
      fields_eq_iff.mpr ⟨empty, rfl, fun item member => (proper item member).2⟩
    rw [items, cut]
    exact List.filter_eq_self.mpr fun item member => decide_eq_true (proper item member).1

end OciBundle.Text
