/-
**Texts cut at a separator character.**

* `fields`: all pieces between separators; a text has one more piece than separators.
* `cut`, `cutLast`: the text before and after the first, the last separator.
* `cutTwice`: up to three pieces; the last one keeps its separators.
* `startsWith`, `isAbsolute`: tests of a text's beginning.
-/

namespace OciBundle.Text

/-- The pieces of a list between separators; never empty. -/
def pieces (separator : Char) : List Char → List (List Char)
  | [] => [[]]
  | first :: rest =>
    if first = separator then [] :: pieces separator rest
    else match pieces separator rest with
      | [] => [[first]]
      | piece :: others => (first :: piece) :: others

/-- The characters before and after the first separator. -/
def cutChars (separator : Char) : List Char → Option (List Char × List Char)
  | [] => none
  | first :: rest =>
    if first = separator then some ([], rest)
    else (cutChars separator rest).map fun (before, after) => (first :: before, after)

/-- The fields of a text between separators; the empty text has one empty field. -/
def fields (separator : Char) (text : String) : List String :=
  (pieces separator text.toList).map String.ofList

/-- The text before and after the first separator. -/
def cut (separator : Char) (text : String) : Option (String × String) :=
  (cutChars separator text.toList).map fun (before, after) =>
    (String.ofList before, String.ofList after)

/-- The text before and after the last separator. -/
def cutLast (separator : Char) (text : String) : Option (String × String) :=
  (cutChars separator text.toList.reverse).map fun (after, before) =>
    (String.ofList before.reverse, String.ofList after.reverse)

/-- The text cut at its first two separators. -/
def cutTwice (separator : Char) (text : String) : String × Option String × Option String :=
  match cut separator text with
  | none => (text, none, none)
  | some (first, rest) =>
    match cut separator rest with
    | none => (first, some rest, none)
    | some (second, third) => (first, some second, some third)

/-- Whether a text begins with another one. -/
def startsWith (lead text : String) : Bool :=
  lead.toList.isPrefixOf text.toList

/-- Whether a path is absolute: it begins with a slash. -/
def isAbsolute (path : String) : Bool :=
  path.toList.head? == some '/'

/-- The non-empty items of a comma-separated list. -/
def items (text : String) : List String :=
  (fields ',' text).filter (· ≠ "")

/-! ### Laws of the pieces -/

theorem pieces_ne_nil (separator : Char) (chars : List Char) : pieces separator chars ≠ [] := by
  cases chars with
  | nil => simp [pieces]
  | cons first rest =>
    simp only [pieces]
    split
    · simp
    · split <;> simp

/-- No piece holds the separator. -/
theorem separator_notMem_of_mem_pieces {separator : Char} {chars piece : List Char}
    (member : piece ∈ pieces separator chars) : separator ∉ piece := by
  induction chars generalizing piece with
  | nil => simp_all [pieces]
  | cons first rest hypothesis =>
    simp only [pieces] at member
    split at member
    · rcases List.mem_cons.mp member with rfl | later
      · simp
      · exact hypothesis later
    · rename_i different
      split at member
      · rename_i empty
        exact absurd empty (pieces_ne_nil separator rest)
      · rename_i head others split_rest
        rcases List.mem_cons.mp member with rfl | later
        · intro inside
          rcases List.mem_cons.mp inside with same | later
          · exact different same.symm
          · exact hypothesis (by simp [split_rest]) later
        · exact hypothesis (by simp [split_rest, later])

/-- The pieces of a joined list, one step at a time. -/
theorem intercalate_cons_cons (separator piece next : List Char) (others : List (List Char)) :
    separator.intercalate (piece :: next :: others) =
      piece ++ (separator ++ separator.intercalate (next :: others)) := by
  rfl

/-- Joining the pieces with the separator gives the text back. -/
theorem intercalate_pieces (separator : Char) (chars : List Char) :
    [separator].intercalate (pieces separator chars) = chars := by
  induction chars with
  | nil => rfl
  | cons first rest hypothesis =>
    rw [pieces]
    split
    · rename_i same
      subst same
      obtain ⟨head, others, shape⟩ := List.exists_cons_of_ne_nil (pieces_ne_nil first rest)
      rw [shape] at hypothesis ⊢
      rw [intercalate_cons_cons, hypothesis]
      rfl
    · split
      · rename_i empty
        exact absurd empty (pieces_ne_nil separator rest)
      · rename_i head others shape
        rw [shape] at hypothesis
        cases others with
        | nil =>
          rw [← hypothesis]
          rfl
        | cons next more =>
          rw [intercalate_cons_cons] at hypothesis ⊢
          rw [← hypothesis]
          rfl

end OciBundle.Text
