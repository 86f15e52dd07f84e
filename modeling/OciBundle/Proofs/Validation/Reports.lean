/-
**Which rules a list of violations reports.**

* `Code.guarded`: the rules about what an edit enters; the other ones ask for something elsewhere,
  in the file tree or on the host.
* `Code.independent`: those of them that do not depend on the host.
* `Code.surrounding`: the rules that a configuration alone does not decide.
* `Violation.Reports`: a rule is among those of the violations.
* `reports_require`, `reports_each`: what the two ways of finding violations report.
* `reports_each_keyed`: what a check of keyed items reports, which also finds repeated keys.
* `Violation.NoWorse`: a rule is reported afterwards only if it was before.
* `noWorse_of_refits`: a list that refits the one before is no worse.
-/

import OciBundle.Proofs.Keyed
import OciBundle.Validation.Basic

namespace OciBundle

/-! ### Guarded rules -/

namespace Code

/-- The rules about what an edit enters. -/
def guarded : List Code :=
  [.specVersionInSemVer, .platformOsInvalid, .procCwdAbs, .procEnvInvalid, .procCapInvalid,
    .procCapDuplicate, .procRlimitTypeInvalid, .procRlimitDuplicate, .procRlimitSoftExceedsHard,
    .hookPathAbs, .hookEnvInvalid, .hookTimeoutInvalid, .mountDestinationAbs, .nsTypeInvalid,
    .nsTypeDuplicate, .idMappingsTooMany, .rootfsPropagationInvalid, .deviceTypeInvalid,
    .deviceNumbersInvalid, .devicePathAbs, .devicePathDuplicate, .deviceCgroupTypeInvalid,
    .deviceCgroupAccessInvalid, .maskedPathAbs, .readonlyPathAbs, .seccompDefaultActionInvalid,
    .seccompArchInvalid, .seccompArchDuplicate, .seccompActionInvalid, .seccompOperatorInvalid,
    .annotationKeyEmpty]

/-- The guarded rules that do not depend on the host: the operating system may be that of the host. -/
def independent : List Code := guarded.erase .platformOsInvalid

/-- The rules about the file tree around a configuration and about this host. -/
def surrounding : List Code :=
  [.platformHostMismatch, .rootPathNotExist, .rootPathNotDirectory, .procCapNotSupported,
    .procApparmorProfileNotExist, .mountDestinationNotExist, .devicesFileNotMatch]

theorem mem_guarded_of_mem_independent {code : Code} (member : code ∈ independent) : code ∈ guarded :=
  List.mem_of_mem_erase member

theorem not_mem_surrounding : ∀ code ∈ guarded, code ∉ surrounding := by decide

theorem ne_of_mem_guarded {code other : Code} (member : code ∈ guarded) (missing : other ∉ guarded) :
    code ≠ other :=
  fun same => missing (same ▸ member)

end Code

namespace Violation

open Keyed (Distinct Refits)

variable {α : Type} {code : Code}

/-! ### Reported rules -/

/-- Whether a rule is among those of violations. -/
def Reports (violations : List Violation) (code : Code) : Prop :=
  ∃ violation ∈ violations, violation.code = code

instance (violations : List Violation) (code : Code) : Decidable (Reports violations code) :=
  inferInstanceAs (Decidable (∃ violation ∈ violations, violation.code = code))

@[simp] theorem not_reports_nil : ¬ Reports [] code :=
  fun ⟨_, member, _⟩ => List.not_mem_nil member

@[simp] theorem reports_cons {violation : Violation} {rest : List Violation} :
    Reports (violation :: rest) code ↔ violation.code = code ∨ Reports rest code := by
  simp only [Reports, List.mem_cons, exists_eq_or_imp]

@[simp] theorem reports_append {first second : List Violation} :
    Reports (first ++ second) code ↔ Reports first code ∨ Reports second code := by
  constructor
  · rintro ⟨violation, member, same⟩
    exact (List.mem_append.mp member).imp (⟨violation, ·, same⟩) (⟨violation, ·, same⟩)
  · rintro (⟨violation, member, same⟩ | ⟨violation, member, same⟩)
    · exact ⟨violation, List.mem_append_left _ member, same⟩
    · exact ⟨violation, List.mem_append_right _ member, same⟩

@[simp] theorem reports_map {build : α → Violation} {items : List α} :
    Reports (items.map build) code ↔ ∃ item ∈ items, (build item).code = code := by
  constructor
  · rintro ⟨violation, member, same⟩
    obtain ⟨item, inside, rfl⟩ := List.mem_map.mp member
    exact ⟨item, inside, same⟩
  · rintro ⟨item, inside, same⟩
    exact ⟨build item, List.mem_map_of_mem inside, same⟩

/-- A rule is reported where it does not hold. -/
@[simp] theorem reports_require {holds : Bool} {violation : Violation} :
    Reports (require holds violation) code ↔ holds = false ∧ violation.code = code := by
  rw [require]
  cases holds
  · simp
  · simp

/-- A value is unknown, or else it may be repeated. -/
theorem reports_unknown_or_repeated {known : Prop} [Decidable known] {early : Bool}
    {unknown repeated : Violation} :
    Reports (if ¬ known then [unknown] else require (!early) repeated) code ↔
      ¬ known ∧ unknown.code = code ∨ known ∧ early = true ∧ repeated.code = code := by
  by_cases holds : known
  · rw [if_neg (not_not_intro holds), reports_require]
    simp [holds]
  · rw [if_pos holds]
    simp [holds]

/-- What is reported about a list is reported about an item of it. -/
theorem reports_each {items : List α} {check : Nat → α → List Violation} :
    Reports (each items check) code ↔
      ∃ index item, items[index]? = some item ∧ Reports (check index item) code := by
  constructor
  · rintro ⟨violation, member, same⟩
    obtain ⟨⟨item, index⟩, placed, found⟩ := List.mem_flatMap.mp member
    exact ⟨index, item, List.mem_zipIdx_iff_getElem?.mp placed, violation, found, same⟩
  · rintro ⟨index, item, placed, violation, found, same⟩
    exact ⟨violation, List.mem_flatMap.mpr
      ⟨(item, index), List.mem_zipIdx_iff_getElem?.mpr placed, found⟩, same⟩

/-- Where a check does not depend on the place, its reports are about some item. -/
theorem reports_each_of_iff {items : List α} {check : Nat → α → List Violation}
    {fails : α → Prop} (meaning : ∀ index item, Reports (check index item) code ↔ fails item) :
    Reports (each items check) code ↔ ∃ item ∈ items, fails item := by
  rw [reports_each]
  constructor
  · rintro ⟨index, item, placed, found⟩
    exact ⟨item, List.mem_of_getElem? placed, (meaning index item).mp found⟩
  · rintro ⟨item, member, fault⟩
    obtain ⟨index, placed⟩ := List.getElem?_of_mem member
    exact ⟨index, item, placed, (meaning index item).mpr fault⟩

/-- **The reports about keyed items**: some item fails by itself, or a key that counts is repeated,
which `twice` reports. -/
theorem reports_each_keyed {items : List α} {check : Nat → α → List Violation} {fails : α → Prop}
    {twice : Prop} {counts : String → Prop} {key : α → String}
    (meaning : ∀ index item, Reports (check index item) code ↔ fails item ∨
      twice ∧ counts (key item) ∧ key item ∈ (items.take index).map key) :
    Reports (each items check) code ↔
      (∃ item ∈ items, fails item) ∨ twice ∧ ¬ Distinct counts (items.map key) := by
  rw [reports_each, Keyed.distinct_iff]
  constructor
  · rintro ⟨index, item, placed, found⟩
    rcases (meaning index item).mp found with fault | ⟨named, counted, early⟩
    · exact .inl ⟨item, List.mem_of_getElem? placed, fault⟩
    · exact .inr ⟨named, fun distinct => distinct index item placed counted early⟩
  · rintro (⟨item, member, fault⟩ | ⟨named, repeated⟩)
    · obtain ⟨index, placed⟩ := List.getElem?_of_mem member
      exact ⟨index, item, placed, (meaning index item).mpr (.inl fault)⟩
    · refine Classical.byContradiction fun none => repeated ?_
      intro index item placed counted early
      refine none ?_
      exact ⟨index, item, placed, (meaning index item).mpr (.inr ⟨named, counted, early⟩)⟩

/-! ### Comparison of reports -/

/-- A rule is reported afterwards only if it was before. -/
def NoWorse (code : Code) (before after : List Violation) : Prop :=
  Reports after code → Reports before code

theorem NoWorse.refl (violations : List Violation) : NoWorse code violations violations := id

theorem NoWorse.trans {first second third : List Violation} (left : NoWorse code first second)
    (right : NoWorse code second third) : NoWorse code first third :=
  fun found => left (right found)

theorem noWorse_of_not_reports {before after : List Violation} (clean : ¬ Reports after code) :
    NoWorse code before after :=
  fun found => absurd found clean

theorem noWorse_append {first second first' second' : List Violation}
    (left : NoWorse code first first') (right : NoWorse code second second') :
    NoWorse code (first ++ second) (first' ++ second') := by
  intro found
  rcases reports_append.mp found with found | found
  · exact reports_append.mpr (.inl (left found))
  · exact reports_append.mpr (.inr (right found))

section Optional

variable {part : Option α} {check check' : α → List Violation}

/-- An optional part that is given afterwards is compared with the one before or a fresh one, about
which the rule is not reported. -/
theorem noWorse_getD_some {fresh value : α} (clean : ¬ Reports (check fresh) code)
    (kept : NoWorse code (check (part.getD fresh)) (check' value)) :
    NoWorse code ((part.map check).getD []) (((some value).map check').getD []) := by
  intro found
  have before : Reports (check (part.getD fresh)) code := kept found
  cases part with
  | none => exact absurd before clean
  | some value => exact before

/-- An optional part that is changed where it is given. -/
theorem noWorse_getD_map {change : α → α}
    (kept : ∀ value ∈ part, NoWorse code (check value) (check' (change value))) :
    NoWorse code ((part.map check).getD []) (((part.map change).map check').getD []) := by
  intro found
  cases part with
  | none => exact absurd found not_reports_nil
  | some value => exact kept value rfl found

end Optional

/-- **A list is no worse** when each item that fails stands for one that failed before. -/
theorem noWorse_of_items {before after : List Violation} {items items' : List α} {fails : α → Prop}
    (meaning : Reports before code ↔ ∃ item ∈ items, fails item)
    (meaning' : Reports after code ↔ ∃ item ∈ items', fails item)
    (kept : ∀ item ∈ items', fails item → ∃ old ∈ items, fails old) :
    NoWorse code before after := by
  intro found
  obtain ⟨item, member, fault⟩ := meaning'.mp found
  exact meaning.mpr (kept item member fault)

/-- **A keyed list is no worse** when it refits the one before and good items do not fail. -/
theorem noWorse_of_refits {before after : List Violation} {items items' : List α}
    {fails good : α → Prop} {twice : Prop} {counts : String → Prop} {key : α → String}
    (meaning : Reports before code ↔
      (∃ item ∈ items, fails item) ∨ twice ∧ ¬ Distinct counts (items.map key))
    (meaning' : Reports after code ↔
      (∃ item ∈ items', fails item) ∨ twice ∧ ¬ Distinct counts (items'.map key))
    (harmless : ∀ item, good item → ¬ fails item) (refits : Refits key good items items') :
    NoWorse code before after := by
  intro found
  refine meaning.mpr ?_
  rcases meaning'.mp found with ⟨item, member, fault⟩ | ⟨named, repeated⟩
  · rcases refits.items item member with old | fits
    · exact .inl ⟨item, old, fault⟩
    · exact absurd fault (harmless item fits)
  · exact .inr ⟨named, fun distinct => repeated (Keyed.distinct_of_keysKept refits.keys distinct)⟩

end Violation

end OciBundle
