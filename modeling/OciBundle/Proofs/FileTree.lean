/-
**Paths that lead below other paths.**

A path is walked component by component, so a path that leads to a node leads through the nodes
before it. A directory whose files can be found can be found itself.

* `FileTree.walk_append`: a walk goes on where an earlier one has ended.
* `FileTree.exists_locate_of_locate_join`: what is found below a path tells that the path is found.
-/

import OciBundle.FileTree
import OciBundle.Path
import OciBundle.Proofs.Result
import OciBundle.Proofs.Text.Separated

namespace OciBundle

namespace Text

/-- What stands behind a path does not make it absolute. -/
theorem isAbsolute_append {front : String} (named : front ≠ "") (back : String) :
    isAbsolute (front ++ back) = isAbsolute front := by
  obtain ⟨first, others, shape⟩ := List.exists_cons_of_ne_nil (mt String.toList_eq_nil_iff.mp named)
  rw [isAbsolute, isAbsolute, String.toList_append, shape]
  rfl

end Text

/-- A path below another one is that one, without a slash at its end, a slash and what is below. -/
theorem Path.exists_join_eq {base path : String} (named : base ≠ "")
    (relative : Text.isAbsolute path = false) :
    ∃ front, join base path = front ++ "/" ++ path ∧ (base = front ∨ base = front ++ "/") := by
  have filled : base.toList ≠ [] := mt String.toList_eq_nil_iff.mp named
  simp only [join, relative, filled, Bool.false_eq_true, if_false, false_or]
  split
  next slash =>
    obtain ⟨front, ends⟩ := List.getLast?_eq_some_iff.mp slash
    have shape : base = String.ofList front ++ "/" := by
      rw [← String.ofList_toList (s := base), ends, String.ofList_append]
    exact ⟨String.ofList front, by rw [← shape], .inr shape⟩
  next => exact ⟨base, rfl, .inl rfl⟩

namespace FileTree

variable {tree : FileTree} {place found : List String} {names rest : List String}

/-- A walk goes on where an earlier one has ended. -/
theorem walk_append (tree : FileTree) (place names rest : List String) :
    tree.walk place (names ++ rest) =
      tree.walk place names >>= fun middle => tree.walk middle rest := by
  induction names generalizing place with
  | nil => rfl
  | cons name names hypothesis =>
    rw [List.cons_append, walk, walk]
    cases tree.node? place with
    | none => rfl
    | some node =>
      dsimp only
      split
      · rfl
      split
      · exact hypothesis place
      split
      · exact hypothesis place.dropLast
      split
      · rfl
      cases tree.node? (place ++ [name]) with
      | none => rfl
      | some _ => exact hypothesis (place ++ [name])

/-- A walk only goes on from a directory. -/
theorem exists_directory_of_walk_eq_ok (further : names ≠ [])
    (done : tree.walk place names = .ok found) :
    ∃ node, tree.node? place = some node ∧ node.isDirectory = true := by
  obtain ⟨name, names, rfl⟩ := List.exists_cons_of_ne_nil further
  rw [walk] at done
  cases here : tree.node? place with
  | none =>
    rw [here] at done
    cases done
  | some node =>
    rw [here] at done
    cases directory : node.isDirectory with
    | true => exact ⟨node, rfl, directory⟩
    | false => simp [directory] at done

/-- An empty component stays at a directory. -/
theorem walk_empty {node : Node} (here : tree.node? place = some node)
    (directory : node.isDirectory = true) : tree.walk place [""] = .ok place := by
  simp [walk, here, directory]

/-- A path that can be walked can be walked up to any place. -/
theorem pathFault?_eq_none_of_append {front back : String} (named : front ≠ "")
    (fine : pathFault? (front ++ back) = none) : pathFault? front = none := by
  simp only [pathFault?, String.toList_append, String.utf8ByteSize_append] at fine ⊢
  split at fine
  · cases fine
  next pure =>
    split at fine
    · cases fine
    · split at fine
      · cases fine
      next short =>
        have clean : ¬ (front.toList.contains '\x00') = true := by
          intro inside
          exact pure (by simp_all)
        rw [if_neg clean, if_neg named, if_neg (by omega)]

/-- A path below another one starts where that one starts. -/
theorem start_append {front : String} (tree : FileTree) (named : front ≠ "") (back : String) :
    tree.start (front ++ back) = tree.start front := by
  rw [start, start, Text.isAbsolute_append named]

/-- **What is found below a path tells that the path is found.** -/
theorem exists_locate_of_locate_join {base path : String} (named : base ≠ "")
    (relative : Text.isAbsolute path = false)
    (located : tree.locate (Path.join base path) = .ok found) :
    ∃ place, tree.locate base = .ok place := by
  obtain ⟨front, joined, ends⟩ := Path.exists_join_eq named relative
  have longer : ∃ back, Path.join base path = base ++ back := by
    rcases ends with rfl | rfl
    · exact ⟨"/" ++ path, by rw [joined, String.append_assoc]⟩
    · exact ⟨path, joined⟩
  obtain ⟨back, extended⟩ := longer
  rw [locate] at located
  split at located
  · cases located
  next fine =>
    have clear : pathFault? base = none := pathFault?_eq_none_of_append named (extended ▸ fine)
    rw [extended, start_append tree named, ← extended, joined] at located
    rw [locate, clear]
    have split : Text.fields '/' (front ++ "/" ++ path) =
        Text.fields '/' front ++ Text.fields '/' path := Text.fields_append '/' front path
    rw [split, walk_append] at located
    obtain ⟨place, walked, further⟩ := exists_of_bind_eq_ok located
    rcases ends with rfl | rfl
    · exact ⟨place, walked⟩
    -- The slash at the end is an empty component, which only a directory takes.
    · obtain ⟨node, here, directory⟩ :=
        exists_directory_of_walk_eq_ok (Text.fields_ne_nil '/' path) further
      have shape : Text.fields '/' (front ++ "/") = Text.fields '/' front ++ [""] :=
        Text.fields_append_separator '/' front
      refine ⟨place, ?_⟩
      dsimp only
      rw [shape, walk_append, walked]
      exact walk_empty here directory

/-- What is read lies at a place. -/
theorem exists_locate_of_read {path : String} {source : Source}
    (done : tree.read path = .ok source) : ∃ place, tree.locate path = .ok place := by
  obtain ⟨node, seen, _⟩ := exists_of_bind_eq_ok done
  obtain ⟨place, located, _⟩ := exists_of_bind_eq_ok seen
  exact ⟨place, located⟩

end FileTree

end OciBundle
