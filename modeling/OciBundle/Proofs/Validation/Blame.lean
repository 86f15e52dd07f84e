/-
**Which check blames a member.**

The violations of a check lie below paths of its own. What is reported about a member, or inside of
it, is therefore reported by a single check, or because something mandatory is missing there.

* `Violation.Blames`: something is reported about the member at a path or inside of it.
* `Config.blames_checkMandatory`: something mandatory is missing there.
* `Config.checks`, `Config.violations_eq`: the other checks with the paths that they speak about.
* `Config.blames_violations`: the check that speaks about a path.
-/

import Mathlib.Data.List.Pairwise
import OciBundle.Proofs.Outline.Missing
import OciBundle.Proofs.Validation.Mandatory
import OciBundle.Proofs.Validation.Once

namespace OciBundle

open Json (Address)
open Outline (Inside PlainAddress addressPath inside_self itemPath)

/-! ### Blame -/

namespace Violation

variable {α : Type} {path base : String} {violation : Violation} {bases bases' : List String}
  {violations first second : List Violation}

/-- Whether something is reported about the member at a path or inside of it. -/
def Blames (violations : List Violation) (path : String) : Prop :=
  ∃ violation ∈ violations, Inside path violation.subject

@[simp] theorem not_blames_nil : ¬ Blames [] path :=
  fun ⟨_, inside, _⟩ => List.not_mem_nil inside

@[simp] theorem blames_singleton : Blames [violation] path ↔ Inside path violation.subject := by
  simp only [Blames, List.mem_singleton, exists_eq_left]

@[simp] theorem blames_append :
    Blames (first ++ second) path ↔ Blames first path ∨ Blames second path := by
  simp only [Blames, List.mem_append, or_and_right, exists_or]

@[simp] theorem blames_require {holds : Bool} :
    Blames (require holds violation) path ↔ holds = false ∧ Inside path violation.subject := by
  rw [require]
  cases holds
  · simp
  · simp

/-- A value is unknown, or else it may be repeated. -/
theorem blames_unknown_or_repeated {known : Prop} [Decidable known] {early : Bool}
    {unknown repeated : Violation} :
    Blames (if ¬ known then [unknown] else require (!early) repeated) path ↔
      ¬ known ∧ Inside path unknown.subject ∨
        known ∧ early = true ∧ Inside path repeated.subject := by
  by_cases holds : known
  · rw [if_neg (not_not_intro holds), blames_require]
    simp [holds]
  · rw [if_pos holds]
    simp [holds]

theorem blames_flatMap {items : List α} {check : α → List Violation} :
    Blames (items.flatMap check) path ↔ ∃ item ∈ items, Blames (check item) path := by
  simp only [Blames, List.mem_flatMap]
  exact ⟨fun ⟨violation, ⟨item, member, found⟩, about⟩ => ⟨item, member, violation, found, about⟩,
    fun ⟨item, member, violation, found, about⟩ => ⟨violation, ⟨item, member, found⟩, about⟩⟩

theorem each_singleton {item : α} {check : Nat → α → List Violation} :
    each [item] check = check 0 item := by
  simp [each]

theorem below_of_inside {subject : String} (inside : Inside path subject) : Below path subject := by
  obtain ⟨behind, same, _⟩ := inside
  exact ⟨behind, same⟩

/-! ### Violations below some paths -/

/-- Violations about members below one of some paths. -/
def Under (bases : List String) (violations : List Violation) : Prop :=
  ∀ violation ∈ violations, ∃ base ∈ bases, Below base violation.subject

theorem under_nil : Under bases [] :=
  fun _ inside => absurd inside List.not_mem_nil

theorem under_singleton {code : Code} {subject message : String} (below : Below base subject) :
    Under [base] [⟨code, subject, message⟩] := by
  intro violation inside
  rw [List.mem_singleton.mp inside]
  exact ⟨base, List.mem_cons_self, below⟩

theorem under_require {holds : Bool} {code : Code} {subject message : String}
    (below : Below base subject) : Under [base] (require holds ⟨code, subject, message⟩) := by
  cases holds
  · exact under_singleton below
  · exact under_nil

theorem Neat.under {codes : List Code} (neat : Neat codes path violations)
    (upper : Below base path) : Under [base] violations :=
  fun violation inside => ⟨base, List.mem_cons_self, upper.trans (neat.below violation inside)⟩

theorem Under.mono (under : Under bases violations) (among : bases ⊆ bases') :
    Under bases' violations := by
  intro violation inside
  obtain ⟨base, known, below⟩ := under violation inside
  exact ⟨base, among known, below⟩

theorem Under.append (left : Under bases first) (right : Under bases second) :
    Under bases (first ++ second) :=
  List.forall_mem_append.mpr ⟨left, right⟩

/-- Paths each of which is unlike all of the others. -/
def AllUnlike (bases bases' : List String) : Prop :=
  ∀ base ∈ bases, ∀ base' ∈ bases', Unlike base base'

instance (bases bases' : List String) : Decidable (AllUnlike bases bases') :=
  inferInstanceAs (Decidable (∀ base ∈ bases, ∀ base' ∈ bases', Unlike base base'))

theorem AllUnlike.symm (unlike : AllUnlike bases bases') : AllUnlike bases' bases :=
  fun base known base' known' => (unlike base' known' base known).symm

instance : Std.Symm fun first second : List String × List Violation => AllUnlike first.1 second.1 :=
  ⟨fun _ _ => AllUnlike.symm⟩

end Violation

open Violation (AllUnlike Below Blames Under below_append below_self below_of_inside blames_append
  blames_flatMap each neat_require under_nil under_require under_singleton)

/-! ### What is missing -/

namespace Outline

/-- Something in an outline is missing, unless all that is mandatory is given. -/
theorem exists_missesAt_iff {outline : Outline} :
    (∃ address, outline.MissesAt address) ↔ ¬ outline.Full := by
  constructor
  · rintro ⟨_, member, known, _, required, empty⟩ full
    rw [full member known required] at empty
    cases empty
  · intro lacking
    refine Classical.byContradiction fun none => lacking fun member known required => ?_
    refine Bool.eq_false_iff.mpr fun empty => none ?_
    exact ⟨member.address, member, known, rfl, required, empty⟩

end Outline

namespace Config

variable {config : Config} {path : String}

/-- What is missing at the address of a path or behind it is reported about the path. -/
theorem blames_checkMandatory {name : String} {address : Address}
    (plain : PlainAddress (.member name :: address))
    (same : addressPath "" (.member name :: address) = path) :
    Blames config.checkMandatory path ↔
      ∃ below, config.outline.MissesAt (.member name :: (address ++ below)) := by
  refine Iff.trans ?_ (Outline.exists_inside_mem_missing_iff config.distinct_outline plain)
  rw [same]
  constructor
  · rintro ⟨violation, member, inside⟩
    obtain ⟨found, missing, rfl⟩ := List.mem_map.mp member
    exact ⟨found, missing, inside⟩
  · rintro ⟨found, missing, inside⟩
    exact ⟨_, List.mem_map_of_mem missing, inside⟩

/-! ### The checks of a configuration -/

/-- What a check finds in what is configured for Linux, nothing where nothing is. -/
def checkIfLinux (config : Config) (check : Linux → List Violation) : List Violation :=
  (config.linux.map check).getD []

/-- **The checks of a configuration** beside the one for mandatory members, each with the paths that
all of its violations lie below. -/
def checks (config : Config) : List (List String × List Violation) :=
  [(["ociVersion"], config.checkVersion),
    (["platform."], config.checkPlatform),
    (["process.cwd"], config.process.checkCwd),
    (["process.env"], config.process.checkEnv),
    (["process.capabilities"], config.process.checkCapabilities none),
    (["process.rlimits"], config.process.checkRlimits),
    (["hooks."], config.checkHooks),
    (["mounts"], each config.mounts fun index mount => mount.check index),
    (["annotations"], config.checkAnnotations),
    (["linux.namespaces"], config.checkIfLinux Linux.checkNamespaces),
    (["hostname"], config.checkIfLinux (·.checkHostname config.hostname)),
    (["linux.uidMappings", "linux.gidMappings"], config.checkIfLinux Linux.checkMappings),
    (["linux.sysctl."], config.checkIfLinux Linux.checkSysctl),
    (["linux.rootfsPropagation"], config.checkIfLinux Linux.checkPropagation),
    (["linux.devices"], config.checkIfLinux Linux.checkDevices),
    (["linux.resources.devices"], config.checkIfLinux fun linux =>
      Linux.checkDeviceRules ((linux.resources.map Resources.devices).getD [])),
    (["linux.maskedPaths"], config.checkIfLinux fun linux =>
      Linux.checkPaths .maskedPathAbs "linux.maskedPaths" linux.maskedPaths),
    (["linux.readonlyPaths"], config.checkIfLinux fun linux =>
      Linux.checkPaths .readonlyPathAbs "linux.readonlyPaths" linux.readonlyPaths),
    (["linux.seccomp"], config.checkIfLinux fun linux =>
      (linux.seccomp.map Seccomp.check).getD [])]

theorem violations_eq (config : Config) :
    config.violations = config.checkMandatory ++ config.checks.flatMap Prod.snd := by
  unfold violations checks checkLinux Process.check checkIfLinux
  cases config.linux with
  | none => simp
  | some linux => simp [Linux.check]

/-- No path of a check begins with a path of another one. -/
theorem pairwise_checks (config : Config) :
    config.checks.Pairwise fun first second => AllUnlike first.1 second.1 := by
  have paths : (config.checks.map Prod.fst).Pairwise AllUnlike := by
    simp only [checks, List.map_cons, List.map_nil]
    decide +kernel
  exact List.pairwise_map.mp paths

theorem under_checkIfLinux {bases : List String} {check : Linux → List Violation}
    (under : ∀ linux, Under bases (check linux)) : Under bases (config.checkIfLinux check) := by
  unfold checkIfLinux
  cases config.linux with
  | none => exact under_nil
  | some linux => exact under linux

theorem under_checkPlatform (config : Config) : Under ["platform."] config.checkPlatform := by
  unfold checkPlatform
  dsimp only
  split
  next => exact under_nil
  next =>
    split
    next => exact under_singleton (below_append _ "os")
    next => exact under_require (below_append _ "arch")

theorem under_checkHooks (config : Config) : Under ["hooks."] config.checkHooks := by
  unfold checkHooks
  cases config.hooks with
  | none => exact under_nil
  | some hooks => exact hooks.neat_check.under (below_self _)

theorem under_checkMounts (mounts : List Mount) :
    Under ["mounts"] (each mounts fun index mount => mount.check index) := by
  have neat : Violation.Neat [.mountDestinationAbs] "mounts"
      (each mounts fun index mount => mount.check index) :=
    .each fun index mount => neat_require List.mem_cons_self (below_append _ _)
  exact neat.under (below_self _)

end Config

theorem Linux.under_checkMappings (linux : Linux) :
    Under ["linux.uidMappings", "linux.gidMappings"] linux.checkMappings := by
  have uid : Under ["linux.uidMappings"] (checkMappingCount "uidMappings" linux.uidMappings) :=
    under_require (below_self _)
  have gid : Under ["linux.gidMappings"] (checkMappingCount "gidMappings" linux.gidMappings) :=
    under_require (below_self _)
  refine ((uid.mono (by simp)).append (gid.mono (by simp))).append ?_
  exact (under_require (below_self "linux.uidMappings")).mono (by simp)

theorem Seccomp.under_check (seccomp : Seccomp) : Under ["linux.seccomp"] seccomp.check := by
  have rules : Violation.Neat [.seccompActionInvalid, .seccompOperatorInvalid]
      "linux.seccomp.syscalls" (each seccomp.syscalls checkRule) := .each neat_checkRule
  refine .append (.append ?_ ?_) ?_
  · exact under_require (below_append "linux.seccomp" ".defaultAction")
  · exact seccomp.neat_checkArchitectures.under (below_append "linux.seccomp" ".architectures")
  · exact rules.under (below_append "linux.seccomp" ".syscalls")

namespace Config

variable {config : Config}

/-- A check of what is configured for Linux is one of the checks where something is. -/
theorem mem_checks_of_linux {linux : Linux} {bases : List String} {check : Linux → List Violation}
    (present : config.linux = some linux)
    (listed : (bases, config.checkIfLinux check) ∈ config.checks) :
    (bases, check linux) ∈ config.checks := by
  rw [checkIfLinux, present] at listed
  exact listed

/-- The violations of each check lie below its paths. -/
theorem under_of_mem_checks {bases : List String} {part : List Violation}
    (inside : (bases, part) ∈ config.checks) : Under bases part := by
  have all : ∀ check ∈ config.checks, Under check.1 check.2 := by
    simp only [checks, List.forall_mem_cons]
    refine ⟨under_require (below_self _), config.under_checkPlatform, under_require (below_self _),
      config.process.neat_checkEnv.under (below_self _),
      (config.process.neat_checkCapabilities none).under (below_self _),
      config.process.neat_checkRlimits.under (below_self _), config.under_checkHooks,
      under_checkMounts _, under_require (below_self _),
      under_checkIfLinux fun linux => linux.neat_checkNamespaces.under (below_self _),
      under_checkIfLinux fun linux => under_require (below_self _),
      under_checkIfLinux Linux.under_checkMappings,
      under_checkIfLinux fun linux => linux.neat_checkSysctl.under (below_self _),
      under_checkIfLinux fun linux => under_require (below_self _),
      under_checkIfLinux fun linux => linux.neat_checkDevices.under (below_self _),
      under_checkIfLinux fun linux => (Linux.neat_checkDeviceRules _).under (below_self _),
      under_checkIfLinux fun linux => (Linux.neat_checkPaths _ _ _).under (below_self _),
      under_checkIfLinux fun linux => (Linux.neat_checkPaths _ _ _).under (below_self _),
      under_checkIfLinux fun linux => ?_, nofun⟩
    cases linux.seccomp with
    | none => exact under_nil
    | some seccomp => exact seccomp.under_check
  exact all _ inside

/-- **What is reported about a path** is reported by the check that speaks about it, or since
something mandatory is missing at its address or behind it. -/
theorem blames_violations (path : String) {bases : List String} {part : List Violation}
    {base name : String} {address : Address} (inside : (bases, part) ∈ config.checks)
    (known : base ∈ bases) (upper : Below base path)
    (plain : PlainAddress (.member name :: address))
    (same : addressPath "" (.member name :: address) = path) :
    Blames config.violations path ↔
      (∃ below, config.outline.MissesAt (.member name :: (address ++ below))) ∨
        Blames part path := by
  rw [violations_eq, blames_append, blames_flatMap, blames_checkMandatory plain same]
  refine or_congr_right ⟨?_, fun blames => ⟨_, inside, blames⟩⟩
  rintro ⟨other, inside', violation, found, about⟩
  by_cases equal : other = (bases, part)
  · rw [equal] at found
    exact ⟨violation, found, about⟩
  · -- A subject inside of the path is below the base, so not below a path of another check.
    obtain ⟨base', known', below'⟩ := under_of_mem_checks inside' violation found
    have unlike := config.pairwise_checks.forall inside' inside equal
    refine absurd (upper.trans (below_of_inside about)) ?_
    exact (unlike base' known' base known).not_below below'

end Config

end OciBundle
