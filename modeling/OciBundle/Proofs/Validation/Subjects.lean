/-
**What is reported about which member.**

A violation names the member that breaks a rule, its subject. Checks of a list's items name the
items, and the texts for two places are different.

* `Violation.ReportsAt`: a rule is reported about a subject.
* `Violation.Below`: subjects that begin with a path; `Violation.below_unique` finds the index.
* `Violation.Unlike`: paths that no subject can both begin with.
* `Violation.reportsAt_each`: what is reported about a list's items.
* `Violation.Within`: violations of known rules, with what a choice of rules keeps of them.
* `Violation.Neat`: violations of known rules about members below a path, each only once.
* `Violation.Neat.append`, `Violation.Neat.each`: how checks that are neat are put together.
-/

import OciBundle.Proofs.Outline.Paths
import OciBundle.Proofs.Validation.Reports

namespace OciBundle.Violation

open Outline (itemPath)

variable {α : Type} {code : Code} {codes codes' : List Code} {subject path base : String}
  {violation : Violation} {violations first second : List Violation}

/-! ### Reports about a subject -/

/-- Whether a rule is reported about a subject. -/
def ReportsAt (violations : List Violation) (code : Code) (subject : String) : Prop :=
  ∃ violation ∈ violations, violation.code = code ∧ violation.subject = subject

@[simp] theorem not_reportsAt_nil : ¬ ReportsAt [] code subject :=
  fun ⟨_, inside, _⟩ => List.not_mem_nil inside

@[simp] theorem reportsAt_singleton :
    ReportsAt [violation] code subject ↔ violation.code = code ∧ violation.subject = subject := by
  simp only [ReportsAt, List.mem_singleton, exists_eq_left]

@[simp] theorem reportsAt_append :
    ReportsAt (first ++ second) code subject ↔
      ReportsAt first code subject ∨ ReportsAt second code subject := by
  simp only [ReportsAt, List.mem_append, or_and_right, exists_or]

@[simp] theorem reportsAt_require {holds : Bool} :
    ReportsAt (require holds violation) code subject ↔
      holds = false ∧ violation.code = code ∧ violation.subject = subject := by
  rw [require]
  cases holds
  · simp
  · simp

/-! ### Subjects below a path -/

/-- A subject that begins with a path. -/
def Below (path subject : String) : Prop :=
  ∃ rest, subject = path ++ rest

theorem below_self (path : String) : Below path path :=
  ⟨"", by rw [String.append_empty]⟩

theorem below_empty (subject : String) : Below "" subject :=
  ⟨subject, by rw [String.empty_append]⟩

theorem below_append (path rest : String) : Below path (path ++ rest) :=
  ⟨rest, rfl⟩

theorem Below.trans {middle : String} (upper : Below path middle) (lower : Below middle subject) :
    Below path subject := by
  obtain ⟨rest, rfl⟩ := upper
  obtain ⟨rest', rfl⟩ := lower
  exact ⟨rest ++ rest', by rw [String.append_assoc]⟩

theorem below_itemPath (base : String) (index : Nat) : Below base (itemPath base index) :=
  ⟨"[" ++ toString index ++ "]", by rw [itemPath, String.append_assoc, String.append_assoc,
    String.append_assoc]⟩

/-- **The index of an item is told by every subject below it.** -/
theorem below_unique {index index' : Nat} (here : Below (itemPath base index) subject)
    (there : Below (itemPath base index') subject) : index = index' := by
  obtain ⟨rest, rfl⟩ := here
  obtain ⟨rest', same⟩ := there
  have chars := congrArg String.toList same
  rw [String.toList_append, String.toList_append, Outline.toList_itemPath,
    Outline.toList_itemPath, List.append_assoc, List.append_assoc] at chars
  exact (Outline.item_eq_of_append_eq (List.append_cancel_left chars)).1

theorem itemPath_injective {index index' : Nat} (same : itemPath base index = itemPath base index') :
    index = index' := by
  refine below_unique (below_self (itemPath base index)) ?_
  rw [same]
  exact below_self _

/-- Whether neither of two paths begins with the other one. -/
def Unlike (path path' : String) : Prop :=
  (path.toList.isPrefixOf path'.toList || path'.toList.isPrefixOf path.toList) = false

instance (path path' : String) : Decidable (Unlike path path') :=
  inferInstanceAs (Decidable (_ = false))

/-- No subject is below two paths that are unlike. -/
theorem Unlike.not_below {path' : String} (unlike : Unlike path path') (here : Below path subject) :
    ¬ Below path' subject := by
  rintro ⟨rest', there⟩
  obtain ⟨rest, here⟩ := here
  have lead : path.toList <+: subject.toList := ⟨rest.toList, by rw [here, String.toList_append]⟩
  have lead' : path'.toList <+: subject.toList :=
    ⟨rest'.toList, by rw [there, String.toList_append]⟩
  obtain ⟨no, no'⟩ := Bool.or_eq_false_iff.mp unlike
  rcases List.prefix_or_prefix_of_prefix lead lead' with short | short
  · rw [List.isPrefixOf_iff_prefix.mpr short] at no
    cases no
  · rw [List.isPrefixOf_iff_prefix.mpr short] at no'
    cases no'

theorem Unlike.symm {path' : String} (unlike : Unlike path path') : Unlike path' path := by
  rw [Unlike, Bool.or_comm]
  exact unlike

/-- What is reported about a subject, the check of some item reports. -/
theorem reportsAt_each {items : List α} {check : Nat → α → List Violation} :
    ReportsAt (each items check) code subject ↔
      ∃ index item, items[index]? = some item ∧ ReportsAt (check index item) code subject := by
  constructor
  · rintro ⟨violation, member, same⟩
    obtain ⟨⟨item, index⟩, placed, found⟩ := List.mem_flatMap.mp member
    exact ⟨index, item, List.mem_zipIdx_iff_getElem?.mp placed, violation, found, same⟩
  · rintro ⟨index, item, placed, violation, found, same⟩
    exact ⟨violation, List.mem_flatMap.mpr
      ⟨(item, index), List.mem_zipIdx_iff_getElem?.mpr placed, found⟩, same⟩

/-! ### Neat violations -/

/-- Two violations differ in their rules or subjects, unless they are about the variables of a
hook, which all have the same subject. -/
def Apart (first second : Violation) : Prop :=
  first.code = second.code → first.subject = second.subject → first.code = .hookEnvInvalid

/-- Violations of some rules only. -/
def Within (codes : List Code) (violations : List Violation) : Prop :=
  ∀ violation ∈ violations, violation.code ∈ codes

theorem Within.not_reportsAt (within : Within codes violations) (other : code ∉ codes) :
    ¬ ReportsAt violations code subject := by
  rintro ⟨violation, inside, rfl, _⟩
  exact other (within violation inside)

/-- A choice of rules keeps the violations of those it is for, and drops those of the other ones. -/
theorem Within.filter_eq_self (keep : Code → Bool) (within : Within codes violations)
    (all : ∀ code ∈ codes, keep code = true) :
    (violations.filter fun violation => keep violation.code) = violations :=
  List.filter_eq_self.mpr fun violation inside => all violation.code (within violation inside)

theorem Within.filter_eq_nil (keep : Code → Bool) (within : Within codes violations)
    (none : ∀ code ∈ codes, keep code = false) :
    (violations.filter fun violation => keep violation.code) = [] :=
  List.filter_eq_nil_iff.mpr fun violation inside =>
    Bool.eq_false_iff.mp (none violation.code (within violation inside))

theorem within_of_not_reports (none : ∀ other, other ≠ code → ¬ Reports violations other) :
    Within [code] violations := by
  intro violation inside
  refine List.mem_singleton.mpr (Classical.byContradiction fun different => ?_)
  exact none violation.code different ⟨violation, inside, rfl⟩

/-- **Violations of some rules about members below a path**, no two alike. -/
structure Neat (codes : List Code) (path : String) (violations : List Violation) : Prop where
  within : Within codes violations
  below : ∀ violation ∈ violations, Below path violation.subject
  once : violations.Pairwise Apart

theorem neat_nil : Neat codes path [] :=
  ⟨fun _ inside => absurd inside List.not_mem_nil, fun _ inside => absurd inside List.not_mem_nil,
    .nil⟩

theorem neat_singleton {message : String} (inside : code ∈ codes) (below : Below path subject) :
    Neat codes path [⟨code, subject, message⟩] where
  within _ member := List.mem_singleton.mp member ▸ inside
  below _ member := List.mem_singleton.mp member ▸ below
  once := List.pairwise_singleton _ _

theorem neat_require {holds : Bool} {message : String} (inside : code ∈ codes)
    (below : Below path subject) :
    Neat codes path (require holds ⟨code, subject, message⟩) := by
  cases holds
  · exact neat_singleton inside below
  · exact neat_nil

/-- Violations of one rule about different subjects. -/
theorem neat_map {items : List α} {about text : α → String}
    (below : ∀ item, Below path (about item)) (different : (items.map about).Nodup) :
    Neat [code] path (items.map fun item => ⟨code, about item, text item⟩) where
  within violation inside := by
    obtain ⟨item, _, rfl⟩ := List.mem_map.mp inside
    exact List.mem_cons_self
  below violation inside := by
    obtain ⟨item, _, rfl⟩ := List.mem_map.mp inside
    exact below item
  once := by
    refine List.pairwise_map.mpr ((List.pairwise_map.mp different).imp ?_)
    exact fun apart _ same => absurd same apart

theorem Neat.above (neat : Neat codes path violations) (upper : Below base path) :
    Neat codes base violations :=
  ⟨neat.within, fun violation inside => upper.trans (neat.below violation inside), neat.once⟩

/-- Violations of different rules, one list behind the other. -/
theorem Neat.append (left : Neat codes path first) (right : Neat codes' path second)
    (disjoint : ∀ code ∈ codes, code ∉ codes') : Neat (codes ++ codes') path (first ++ second) where
  within := List.forall_mem_append.mpr
    ⟨fun violation inside => List.mem_append_left _ (left.within violation inside),
      fun violation inside => List.mem_append_right _ (right.within violation inside)⟩
  below := List.forall_mem_append.mpr ⟨left.below, right.below⟩
  once := by
    refine List.pairwise_append.mpr ⟨left.once, right.once, ?_⟩
    intro violation inside other inside' same _
    refine absurd (right.within other inside') ?_
    rw [← same]
    exact disjoint _ (left.within violation inside)

/-- Violations below different paths, one list behind the other. -/
theorem Neat.beside {path' : String} (left : Neat codes path first)
    (right : Neat codes path' second) (upper : Below base path) (upper' : Below base path')
    (unlike : Unlike path path') :
    Neat codes base (first ++ second) where
  within := List.forall_mem_append.mpr ⟨left.within, right.within⟩
  below := List.forall_mem_append.mpr ⟨(left.above upper).below, (right.above upper').below⟩
  once := by
    refine List.pairwise_append.mpr ⟨left.once, right.once, ?_⟩
    intro violation inside other inside' _ same
    refine absurd (right.below other inside') (unlike.not_below ?_)
    rw [← same]
    exact left.below violation inside

/-- Violations about the items of a list, each below the path of the item. -/
theorem Neat.each {items : List α} {check : Nat → α → List Violation}
    (neat : ∀ index item, Neat codes (itemPath base index) (check index item)) :
    Neat codes base (each items check) where
  within violation inside := by
    obtain ⟨⟨item, index⟩, _, found⟩ := List.mem_flatMap.mp inside
    exact (neat index item).within violation found
  below violation inside := by
    obtain ⟨⟨item, index⟩, _, found⟩ := List.mem_flatMap.mp inside
    exact (below_itemPath base index).trans ((neat index item).below violation found)
  once := by
    have indices : items.zipIdx.Pairwise fun first second => first.2 ≠ second.2 := by
      rw [← List.pairwise_map, List.zipIdx_map_snd]
      exact List.nodup_range'
    refine List.pairwise_flatMap.mpr ⟨fun placed _ => (neat placed.2 placed.1).once, ?_⟩
    refine indices.imp fun {placed placed'} different violation found other found' _ same => ?_
    refine absurd (below_unique ((neat _ _).below violation found) ?_) different
    rw [same]
    exact (neat _ _).below other found'

end OciBundle.Violation
