/-
**What is found below a path.**

A path below another one is walked from where that one leads to. As long as it never climbs above that
place, the walk comes by no node elsewhere, so two trees that agree there give it the same node.

* `Path.Stays`: the components of a path never lead above where it starts.
* `FileTree.AgreeBelow`: two trees have the same nodes at a path and below it.
* `FileTree.ground_join`: a path below another one is walked from where that one leads to.
* `FileTree.walk_below`: a walk that stays below a place depends on the nodes there only.
* `FileTree.toOption_find_join`: trees that agree below a path agree on the paths that stay below it.
-/

import OciBundle.Proofs.FileTree

namespace OciBundle

/-! ### Paths that stay below where they start -/

namespace Path

/-- Whether components, from some directories below a place on, never lead above it. -/
def staysBelow : Nat → List String → Bool
  | _, [] => true
  | depth, name :: rest =>
    if name = "" ∨ name = "." then staysBelow depth rest
    else if name = ".." then 0 < depth && staysBelow (depth - 1) rest
    else staysBelow (depth + 1) rest

/-- A path that never leads above where it starts. -/
def Stays (path : String) : Prop :=
  staysBelow 0 (Text.fields '/' path) = true

instance (path : String) : Decidable (Stays path) :=
  inferInstanceAs (Decidable (_ = true))

/-- Slashes in front of a path do not lead anywhere. -/
theorem stays_dropWhile_iff {path : String} :
    Stays (String.ofList (path.toList.dropWhile (· = '/'))) ↔ Stays path := by
  rw [Stays, Stays, Text.fields, Text.fields, String.toList_ofList]
  generalize path.toList = chars
  induction chars with
  | nil => rfl
  | cons first rest hypothesis =>
    by_cases slash : first = '/'
    · have skipped : (first :: rest).dropWhile (· = '/') = rest.dropWhile (· = '/') :=
        List.dropWhile_cons_of_pos (by simpa using slash)
      rw [skipped, hypothesis, slash]
      simp [Text.pieces, staysBelow]
    · have kept : (first :: rest).dropWhile (· = '/') = first :: rest :=
        List.dropWhile_cons_of_neg (by simpa using slash)
      rw [kept]

end Path

namespace FileTree

variable {tree tree' : FileTree} {base path : String} {place place' names : List String}

/-! ### Walks below a path -/

/-- The place that the components of a path lead to. -/
def ground (tree : FileTree) (path : String) : Except LookupFault (List String) :=
  tree.walk (tree.start path) (Text.fields '/' path)

/-- An empty component in front of others changes nothing. -/
theorem walk_empty_cons (tree : FileTree) (place : List String) (further : names ≠ []) :
    tree.walk place ("" :: names) = tree.walk place names := by
  obtain ⟨name, names, rfl⟩ := List.exists_cons_of_ne_nil further
  rw [walk]
  cases here : tree.node? place with
  | none => rw [walk, here]
  | some node =>
    cases directory : node.isDirectory with
    | true => simp [directory]
    | false => simp [walk, here, directory]

/-- **A path below another one is walked from where that one leads to.** -/
theorem ground_join (relative : Text.isAbsolute path = false) :
    tree.ground (Path.join base path) =
      tree.ground base >>= fun place => tree.walk place (Text.fields '/' path) := by
  have further : Text.fields '/' path ≠ [] := Text.fields_ne_nil '/' path
  by_cases named : base = ""
  · subst named
    have joined : Path.join "" path = path := by simp [Path.join, relative]
    rw [joined, ground, ground, ← walk_append, start, relative]
    exact (tree.walk_empty_cons tree.here further).symm
  · obtain ⟨front, joined, ends⟩ := Path.exists_join_eq named relative
    have split : Text.fields '/' (front ++ "/" ++ path) =
        Text.fields '/' front ++ Text.fields '/' path := Text.fields_append '/' front path
    rcases ends with rfl | rfl
    · rw [ground, ground, joined, split, String.append_assoc, start_append tree named, walk_append]
    -- The slash at the end of the base is an empty component of it.
    · have shape : Text.fields '/' (front ++ "/") = Text.fields '/' front ++ [""] :=
        Text.fields_append_separator '/' front
      rw [ground, ground, joined, start_append tree named, split, shape, ← walk_append,
        List.append_assoc, List.singleton_append, walk_append, walk_append]
      exact congrArg _ (funext fun middle => (tree.walk_empty_cons middle further).symm)

/-- **A walk that stays below a place depends on the nodes there only**: wherever they lie, it ends
there alike. -/
theorem walk_below (same : ∀ names, tree.node? (place ++ names) = tree'.node? (place' ++ names))
    (inner : List String) (stays : Path.staysBelow inner.length names = true) :
    ∃ result : Except LookupFault (List String),
      tree.walk (place ++ inner) names = result.map (place ++ ·) ∧
        tree'.walk (place' ++ inner) names = result.map (place' ++ ·) := by
  induction names generalizing inner with
  | nil => exact ⟨.ok inner, rfl, rfl⟩
  | cons name names hypothesis =>
    rw [walk, walk, ← same inner]
    rw [Path.staysBelow] at stays
    cases tree.node? (place ++ inner) with
    | none => exact ⟨.error .notFound, rfl, rfl⟩
    | some node =>
      dsimp only
      by_cases file : ¬ node.isDirectory
      · exact ⟨.error .notADirectory, if_pos file, if_pos file⟩
      rw [if_neg file, if_neg file]
      by_cases stay : name = "" ∨ name = "."
      · rw [if_pos stay] at stays
        rw [if_pos stay, if_pos stay]
        exact hypothesis inner stays
      rw [if_neg stay] at stays
      rw [if_neg stay, if_neg stay]
      by_cases up : name = ".."
      -- There is a directory below the place that `..` leaves.
      · rw [if_pos up, Bool.and_eq_true, decide_eq_true_iff, ← List.length_dropLast] at stays
        have deep : inner ≠ [] := List.ne_nil_of_length_pos stays.1
        rw [if_pos up, if_pos up, List.dropLast_append_of_ne_nil deep,
          List.dropLast_append_of_ne_nil deep]
        exact hypothesis inner.dropLast stays.2
      rw [if_neg up] at stays
      rw [if_neg up, if_neg up]
      by_cases long : name.utf8ByteSize > 255
      · exact ⟨.error .nameTooLong, if_pos long, if_pos long⟩
      rw [if_neg long, if_neg long, List.append_assoc, List.append_assoc, ← same (inner ++ [name])]
      cases tree.node? (place ++ (inner ++ [name])) with
      | none => exact ⟨.error .notFound, rfl, rfl⟩
      | some _ => exact hypothesis (inner ++ [name]) (by rwa [List.length_append, List.length_singleton])

/-! ### Trees that agree below a path -/

/-- **Two trees agree below a path**: it leads to no place in either of them, or to places with the
same nodes there and below. -/
inductive AgreeBelow (base : String) (tree tree' : FileTree) : Prop where
  | missing {fault fault' : LookupFault} : tree.ground base = .error fault →
      tree'.ground base = .error fault' → AgreeBelow base tree tree'
  | there {place place' : List String} : tree.ground base = .ok place →
      tree'.ground base = .ok place' →
      (∀ names, tree.node? (place ++ names) = tree'.node? (place' ++ names)) →
      AgreeBelow base tree tree'

/-- A node elsewhere is none of those below a place. -/
theorem node?_cons {nodes : List (List String × Node)} {here other : List String} (node : Node)
    (apart : ¬ place <+: other) (names : List String) :
    (FileTree.mk nodes here).node? (place ++ names) =
      (FileTree.mk ((other, node) :: nodes) here).node? (place ++ names) := by
  have different : (place ++ names == other) = false :=
    beq_eq_false_iff_ne.mpr fun same => apart ⟨names, same⟩
  rw [node?, node?, List.lookup_cons, different]

/-- The node at a path, without the reason why there is none. -/
theorem toOption_find (tree : FileTree) (path : String) :
    (tree.find path).toOption =
      if (pathFault? path).isSome then none else (tree.ground path).toOption.bind tree.node? := by
  rw [find, locate]
  cases pathFault? path with
  | some fault => rfl
  | none =>
    show (tree.ground path >>= _ : Except LookupFault Node).toOption = _
    cases tree.ground path with
    | error fault => rfl
    | ok place =>
      show (Except.toOption _ : Option Node) = tree.node? place
      simp only [bind, Except.bind]
      cases tree.node? place with
      | none => rfl
      | some node => rfl

/-- **Trees that agree below a path agree on the paths that stay below it.** -/
theorem toOption_find_join (agree : AgreeBelow base tree tree')
    (relative : Text.isAbsolute path = false) (stays : Path.Stays path) :
    (tree.find (Path.join base path)).toOption = (tree'.find (Path.join base path)).toOption := by
  rw [toOption_find, toOption_find, ground_join relative, ground_join relative]
  cases agree with
  | missing nowhere nowhere' =>
    rw [nowhere, nowhere']
    rfl
  | @there place place' here here' same =>
    obtain ⟨result, walked, walked'⟩ := walk_below same [] stays
    rw [List.append_nil] at walked walked'
    rw [here, here']
    show (if _ then none else (tree.walk place _).toOption.bind tree.node?) =
      if _ then none else (tree'.walk place' _).toOption.bind tree'.node?
    rw [walked, walked']
    cases result with
    | error fault => rfl
    | ok found => exact congrArg (ite _ none) (same found)

theorem contains_eq_of_toOption (same : (tree.find path).toOption = (tree'.find path).toOption) :
    tree.contains path = tree'.contains path := by
  have known (tree : FileTree) : tree.contains path = (tree.find path).toOption.isSome := by
    rw [contains]
    cases tree.find path <;> rfl
  rw [known, known, same]

theorem isDirectory_eq_of_toOption
    (same : (tree.find path).toOption = (tree'.find path).toOption) :
    tree.isDirectory path = tree'.isDirectory path := by
  have known (tree : FileTree) :
      tree.isDirectory path = (tree.find path).toOption.any Node.isDirectory := by
    rw [isDirectory]
    cases tree.find path <;> rfl
  rw [known, known, same]

end FileTree

end OciBundle
