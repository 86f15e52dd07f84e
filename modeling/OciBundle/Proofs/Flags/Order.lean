/-
**The order of the families of flags.**

The flags come in families, whose steps are taken one family after the other. Each family is about
parts of the configuration of its own, so the order of two of them does not matter. The exception is
the process and the filter on system calls: a privileged process clears the filter.

* `Draft.Confined`: an action on the configuration of a draft that is confined to some parts.
* `Edit.confined`, `Step.confined_runAll`: the parts that edits and steps are about.
* `FlagFamily`, `GenerateFlags.steps_eq_flatMap`: the families, in their fixed order.
* `FlagFamily.commute_iff`: the families that commute.
-/

import OciBundle.Generate
import OciBundle.Proofs.Edit.Parts

namespace OciBundle

variable {draft after : Draft}

section Confined

variable {ε ε' α : Type} {parts parts' : List Config.Part}

/-! ### Actions on drafts -/

/-- Whether an action on drafts is one on their configurations that is confined to some parts. It
may look at the host and at whether a draft is made for it alone, and does not change that. -/
def Draft.Confined (parts : List Config.Part) (act : Draft → Except ε Draft) : Prop :=
  ∀ draft : Draft, ∃ change : Config → Except ε Config, Config.Confined parts change ∧
    ∀ config, act { draft with config } = (change config).map ({ draft with config := · })

namespace Draft

variable {act act' : Draft → Except ε Draft}

theorem confined_pure : Confined parts fun draft => (.ok draft : Except ε Draft) :=
  fun _ => ⟨.ok, Config.confined_pure, fun _ => rfl⟩

theorem confined_error {fault : Draft → ε} : Confined parts fun draft => .error (fault draft) :=
  fun draft =>
    ⟨fun config => .error (fault { draft with config }), Config.confined_error, fun _ => rfl⟩

theorem Confined.mapError (confined : Confined parts act) (rename : ε → ε') :
    Confined parts fun draft => (act draft).mapError rename := by
  intro draft
  obtain ⟨change, changes, equal⟩ := confined draft
  refine ⟨_, changes.mapError rename, fun config => ?_⟩
  simp only [equal config]
  cases change config <;> rfl

/-- The configurations that two actions make one after the other. -/
theorem bind_eq {change change' : Config → Except ε Config}
    (equal : ∀ config, act { draft with config } = (change config).map ({ draft with config := · }))
    (equal' : ∀ config,
      act' { draft with config } = (change' config).map ({ draft with config := · }))
    (config : Config) :
    act { draft with config } >>= act' =
      (change config >>= change').map ({ draft with config := · }) := by
  rw [equal config]
  cases change config with
  | error fault => rfl
  | ok between => exact equal' between

theorem Confined.andThen (confined : Confined parts act) (confined' : Confined parts act') :
    Confined parts fun draft => act draft >>= act' := by
  intro draft
  obtain ⟨change, changes, equal⟩ := confined draft
  obtain ⟨change', changes', equal'⟩ := confined' draft
  exact ⟨_, changes.andThen changes', bind_eq equal equal'⟩

/-- **Actions on different parts of a draft give the same in both orders.** -/
theorem Confined.commute (confined : Confined parts act) (confined' : Confined parts' act')
    (apart : parts.Disjoint parts') :
    act draft >>= act' = .ok after ↔ act' draft >>= act = .ok after := by
  obtain ⟨change, changes, equal⟩ := confined draft
  obtain ⟨change', changes', equal'⟩ := confined' draft
  have made {step : Except ε Config} :
      step.map ({ draft with config := · }) = .ok after ↔
        step = .ok after.config ∧ { draft with config := after.config } = after := by
    rw [map_eq_ok_iff]
    constructor
    · rintro ⟨config, rfl, rfl⟩
      exact ⟨rfl, rfl⟩
    · rintro ⟨done, same⟩
      exact ⟨after.config, done, same⟩
  rw [bind_eq equal equal' draft.config, bind_eq equal' equal draft.config, made, made,
    changes.commute changes' apart]

end Draft

open Draft (Confined)

/-! ### Edits and steps -/

/-- Whether an edit is about some parts alone. -/
def Edit.Within (parts : List Config.Part) : Edit → Prop
  | .general _ => .general ∈ parts
  | .process edit => edit.parts ⊆ parts
  | .mount _ => .mounts ∈ parts
  | .hook _ => .hooks ∈ parts
  | .linux edit => .linux edit.part ∈ parts
  | .resources _ => .linux .resources ∈ parts
  | .seccomp _ => .linux .seccomp ∈ parts
  | .sanitize | .setHostSpecific _ => False

theorem Edit.confined {edit : Edit} (within : edit.Within parts) :
    Confined parts fun draft => (draft.apply edit).map Prod.fst := by
  have single {part : Config.Part} (inside : part ∈ parts) : [part] ⊆ parts :=
    List.cons_subset.mpr ⟨inside, List.nil_subset parts⟩
  intro draft
  have lift {own : List Config.Part} {act : Config → Except Rejection Config}
      (confined : Config.Confined own act) (sub : own ⊆ parts) :
      ∃ change : Config → Except Rejection Config, Config.Confined parts change ∧ ∀ config,
        (act config >>= fun after =>
          pure ({ draft with config := after }, ([] : List Decision))).map Prod.fst =
            (change config).map ({ draft with config := · }) :=
    ⟨act, confined.mono sub, fun config => by cases act config <;> rfl⟩
  cases edit with
  | general edit => exact lift edit.confined (single within)
  | process edit => exact lift (edit.confined draft.target) within
  | mount edit => exact lift edit.confined (single within)
  | hook edit => exact lift edit.confined (single within)
  | linux edit => exact lift edit.confined (single within)
  | resources edit => exact lift edit.confined (single within)
  | seccomp edit =>
    refine ⟨_, edit.confined.mono (single within), fun config => ?_⟩
    show (edit.apply config >>= fun made => _).map Prod.fst = _
    cases edit.apply config <;> rfl
  | sanitize | setHostSpecific _ => exact within.elim

namespace Step

/-- Whether a step is about some parts alone. -/
def Within (parts : List Config.Part) : Step → Prop
  | .edit _ change => change.Within parts
  | .refuse _ => True
  | .needDefaultAction => .linux .seccomp ∈ parts

@[simp] theorem within_edit {label : String} {change : Edit} :
    (Step.edit label change).Within parts ↔ change.Within parts :=
  Iff.rfl

@[simp] theorem within_needDefaultAction :
    Step.needDefaultAction.Within parts ↔ .linux .seccomp ∈ parts :=
  Iff.rfl

@[simp] theorem within_ofRead {read : Except Failure α} {step : α → Step}
    (within : ∀ value, (step value).Within parts) : (ofRead read step).Within parts := by
  cases read with
  | error failure => trivial
  | ok value => exact within value

/-- Whether all steps are about some parts alone. -/
def AllWithin (parts : List Config.Part) (steps : List Step) : Prop :=
  ∀ step ∈ steps, step.Within parts

@[simp] theorem allWithin_nil : AllWithin parts [] :=
  fun _ member => absurd member List.not_mem_nil

@[simp] theorem allWithin_singleton {step : Step} : AllWithin parts [step] ↔ step.Within parts :=
  List.forall_mem_singleton

@[simp] theorem allWithin_append {first second : List Step} :
    AllWithin parts (first ++ second) ↔ AllWithin parts first ∧ AllWithin parts second :=
  List.forall_mem_append

@[simp] theorem allWithin_ite {condition : Prop} [Decidable condition] {first second : List Step}
    (within : AllWithin parts first) (within' : AllWithin parts second) :
    AllWithin parts (if condition then first else second) := by
  split
  next => exact within
  next => exact within'

@[simp] theorem allWithin_flatMap {values : List α} {steps : α → List Step} :
    AllWithin parts (values.flatMap steps) ↔ ∀ value ∈ values, AllWithin parts (steps value) :=
  List.forall_mem_flatMap

@[simp] theorem allWithin_map {values : List α} {step : α → Step} :
    AllWithin parts (values.map step) ↔ ∀ value ∈ values, (step value).Within parts :=
  List.forall_mem_map

theorem confined_needDefaultAction (inside : .linux .seccomp ∈ parts) :
    Confined parts (run · .needDefaultAction) := by
  intro draft
  have looks (first second : Config) (same : Config.AgreeOn parts first second) :
      defaultAction first = "" ↔ defaultAction second = "" := by
    have listed (config : Config) :
        defaultAction config = defaultAction (config.only (.linux .seccomp)) := by
      obtain ⟨_, _, _, _, _, _, _, _, linux⟩ := config
      cases linux <;> rfl
    rw [listed first, listed second, same _ inside]
  refine ⟨_, Config.confined_pure.guard_not looks fun _ => .because defaultActionMessage,
    fun config => ?_⟩
  simp only [run]
  split <;> rfl

theorem confined {step : Step} (within : step.Within parts) : Confined parts (run · step) := by
  cases step with
  | edit label change =>
    have equal : (run · (.edit label change)) = fun draft =>
        ((draft.apply change).map Prod.fst).mapError fun rejection =>
          (Failure.because rejection.message).within label := by
      funext draft
      simp only [run]
      cases draft.apply change <;> rfl
    rw [equal]
    exact (Edit.confined within).mapError _
  | refuse failure => exact Draft.confined_error
  | needDefaultAction => exact confined_needDefaultAction within

/-- **Steps about some parts** are confined to them. -/
theorem confined_runAll {steps : List Step} (within : AllWithin parts steps) :
    Confined parts (runAll · steps) := by
  induction steps with
  | nil => exact Draft.confined_pure
  | cons step steps hypothesis =>
    obtain ⟨first, others⟩ := List.forall_mem_cons.mp within
    exact (confined first).andThen (hypothesis others)

end Step

end Confined

/-! ### Families -/

/-- The families of flags. -/
inductive FlagFamily where
  | general | process | namespaces | mounts | hooks | linux | resources | seccomp
  deriving DecidableEq

namespace FlagFamily

/-- The families in the order in which they are applied. -/
def all : List FlagFamily :=
  [.general, .process, .namespaces, .mounts, .hooks, .linux, .resources, .seccomp]

/-- What the flags of a family ask for. -/
def steps (flags : GenerateFlags) : FlagFamily → List Step
  | .general => flags.general.steps
  | .process => flags.process.steps
  | .namespaces => flags.namespaces.steps
  | .mounts => flags.mounts.steps
  | .hooks => flags.hooks.steps
  | .linux => flags.linux.steps
  | .resources => flags.resources.steps
  | .seccomp => flags.seccomp.steps

/-- The draft that the flags of a family make. -/
def apply (family : FlagFamily) (flags : GenerateFlags) (draft : Draft) : Except Failure Draft :=
  Step.runAll draft (family.steps flags)

/-- The parts that a family is about. -/
def parts : FlagFamily → List Config.Part
  | .general => [.general]
  | .process => [.process, .linux .seccomp]
  | .namespaces => [.linux .namespaces]
  | .mounts => [.mounts]
  | .hooks => [.hooks]
  | .linux => [.linux .settings]
  | .resources => [.linux .resources]
  | .seccomp => [.linux .seccomp]

end FlagFamily

/-- The steps of all families, in their order, are all steps. -/
theorem GenerateFlags.steps_eq_flatMap (flags : GenerateFlags) :
    flags.steps = FlagFamily.all.flatMap (·.steps flags) := by
  simp [steps, FlagFamily.all, FlagFamily.steps]

namespace FlagFamily

open Step (AllWithin ofOption ofTexts within_ofRead)

variable (flags : GenerateFlags)

theorem within_steps (family : FlagFamily) : AllWithin family.parts (family.steps flags) := by
  cases family with
  | general => simp [steps, GeneralFlags.steps, ofOption, ofTexts, parts, Edit.Within]
  | process =>
    delta steps ProcessFlags.steps
    simp [ofOption, ofTexts, parts, Edit.Within, ProcessEdit.parts]
  | namespaces =>
    have about (kind path : String) : (NamespaceFlags.edit kind path).part = .namespaces := by
      rw [NamespaceFlags.edit]
      split <;> rfl
    have mapped (kind : IdKind) (input : String) :
        (LinuxEdit.addIdMappingText kind input).part = .namespaces := rfl
    simp [steps, NamespaceFlags.steps, ofOption, ofTexts, parts, Edit.Within, about, mapped]
  | mounts => simp [steps, MountFlags.steps, ofOption, ofTexts, parts, Edit.Within]
  | hooks => simp [steps, HookFlags.steps, ofTexts, parts, Edit.Within]
  | linux =>
    simp [steps, LinuxFlags.steps, ofOption, ofTexts, parts, Edit.Within, LinuxEdit.part]
  | resources =>
    simp [steps, ResourcesFlags.steps, ResourcesFlags.cpuMemorySteps, ResourcesFlags.blockIoSteps,
      ResourcesFlags.throttleSteps, ofOption, parts, Edit.Within]
  | seccomp => simp [steps, SeccompFlags.steps, ofOption, ofTexts, parts, Edit.Within]

/-- Whether two families both change the filter on system calls, which a privileged process
clears. -/
def ShareFilter (first second : FlagFamily) : Prop :=
  first = .process ∧ second = .seccomp ∨ first = .seccomp ∧ second = .process

theorem disjoint_parts {first second : FlagFamily} (different : first ≠ second)
    (apart : ¬ ShareFilter first second) : first.parts.Disjoint second.parts := by
  cases first <;> cases second <;> simp_all [ShareFilter, parts]

/-- A privileged process, and a default action for system calls. -/
def privilegedAndFiltered : GenerateFlags :=
  { (default : GenerateFlags) with
    process := { (default : ProcessFlags) with privileged := true }
    seccomp := { (default : SeccompFlags) with defaultAction := some "allow" } }

/-- A privileged process loses the filter that is made before it, and not the one that is made
after it. -/
theorem exists_not_commute_process_seccomp :
    ∃ flags draft after,
      process.apply flags draft >>= seccomp.apply flags = .ok after ∧
        seccomp.apply flags draft >>= process.apply flags ≠ .ok after := by
  let flags := privilegedAndFiltered
  have made : ((process.apply flags (.ofConfig default (.template default)) >>= seccomp.apply flags).toOption.map
      (·.config.seccomp.isSome)) = some true := by
    decide +kernel
  have lost : ((seccomp.apply flags (.ofConfig default (.template default)) >>= process.apply flags).toOption.map
      (·.config.seccomp.isSome)) = some false := by
    decide +kernel
  cases done : process.apply flags (.ofConfig default (.template default)) >>= seccomp.apply flags with
  | error failure =>
    rw [done] at made
    cases made
  | ok after =>
    refine ⟨_, _, after, done, fun done' => ?_⟩
    rw [done] at made
    rw [done'] at lost
    cases made.symm.trans lost

/-- **The order of two families does not matter**, unless they are those of the process and of the
filter on system calls: a draft that they make in one order they also make in the other one. -/
theorem commute_iff (first second : FlagFamily) :
    (∀ (flags : GenerateFlags) (draft after : Draft),
      first.apply flags draft >>= second.apply flags = .ok after ↔
        second.apply flags draft >>= first.apply flags = .ok after) ↔
      ¬ ShareFilter first second := by
  constructor
  · obtain ⟨flags, draft, after, done, differs⟩ := exists_not_commute_process_seccomp
    rintro same (⟨rfl, rfl⟩ | ⟨rfl, rfl⟩)
    · exact differs ((same flags draft after).mp done)
    · exact differs ((same flags draft after).mpr done)
  · intro apart flags draft after
    by_cases same : first = second
    · rw [same]
    · exact (Step.confined_runAll (first.within_steps flags)).commute
        (Step.confined_runAll (second.within_steps flags)) (disjoint_parts same apart)

end FlagFamily

end OciBundle
