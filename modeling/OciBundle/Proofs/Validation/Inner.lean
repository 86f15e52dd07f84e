/-
**What a configuration alone decides.**

A validation comes by the rules of a configuration in their order, among rules about the file tree
and about this host. When the reports of these are left out, what remains are the violations of the
configuration, whatever surrounds it.

* `Violation.inner`: the violations of the rules that a configuration alone decides.
* `Process.inner_check`, `Bundle.inner_checkMounts`: the checks that also report other rules.
* `Bundle.inner_validate`: the same of a whole validation.
-/

import OciBundle.Proofs.Validation.Once

namespace OciBundle

open Violation (Within each require)

namespace Violation

variable {α : Type} {code : Code} {subject message : String} {codes : List Code}
  {violations : List Violation}

/-- The violations of the rules that a configuration alone decides. -/
def inner (violations : List Violation) : List Violation :=
  violations.filter fun violation => violation.code ∉ Code.surrounding

@[simp] theorem inner_append (first second : List Violation) :
    inner (first ++ second) = inner first ++ inner second :=
  List.filter_append first second

theorem Within.inner_eq_self (within : Within codes violations)
    (apart : ∀ code ∈ codes, code ∉ Code.surrounding) : inner violations = violations :=
  within.filter_eq_self (· ∉ Code.surrounding) fun code inside => decide_eq_true (apart code inside)

theorem Within.inner_eq_nil (within : Within codes violations)
    (outer : ∀ code ∈ codes, code ∈ Code.surrounding) : inner violations = [] :=
  within.filter_eq_nil (· ∉ Code.surrounding) fun code inside =>
    decide_eq_false (not_not_intro (outer code inside))

theorem inner_require_of_mem {holds : Bool} (outer : code ∈ Code.surrounding) :
    inner (require holds ⟨code, subject, message⟩) = [] := by
  cases holds with
  | true => rfl
  | false => exact List.filter_eq_nil_iff.mpr (by simp [require, outer])

theorem inner_require_of_not_mem {holds : Bool} (apart : code ∉ Code.surrounding) :
    inner (require holds ⟨code, subject, message⟩) =
      require holds ⟨code, subject, message⟩ := by
  cases holds with
  | true => rfl
  | false => exact List.filter_eq_self.mpr (by simp [require, apart])

/-- The items of a list are looked at one by one. -/
theorem inner_each {items : List α} {check check' : Nat → α → List Violation}
    (same : ∀ index item, inner (check index item) = check' index item) :
    inner (each items check) = each items check' := by
  rw [inner, each, each, List.filter_flatMap]
  exact congrArg (List.flatMap · items.zipIdx) (funext fun (item, index) => same index item)

end Violation

open Violation (inner inner_append inner_each inner_require_of_mem inner_require_of_not_mem)

/-! ### Checks that also report other rules -/

/-- Without the comparison with the host, a capability is checked as if there were none. -/
theorem Process.inner_checkCapabilities (process : Process) (host : Option Host) :
    inner (process.checkCapabilities host) = process.checkCapabilities none := by
  refine inner_each fun index capability => ?_
  dsimp only
  split
  next => rfl
  next =>
    split
    next => rfl
    next => exact inner_require_of_mem (by decide)

theorem Process.inner_check (process : Process) (host : Option Host) :
    inner (process.check host) = process.check none := by
  have cwd : inner process.checkCwd = process.checkCwd :=
    process.neat_checkCwd.within.inner_eq_self (by decide)
  have env : inner process.checkEnv = process.checkEnv :=
    process.neat_checkEnv.within.inner_eq_self (by decide)
  have limits : inner process.checkRlimits = process.checkRlimits :=
    process.neat_checkRlimits.within.inner_eq_self (by decide)
  rw [check, check, inner_append, inner_append, inner_append, cwd, env, limits,
    process.inner_checkCapabilities]

namespace Bundle

variable {bundle : Bundle} {tree : FileTree} {found : List Violation}

theorem inner_checkMounts (bundle : Bundle) (tree : FileTree) :
    inner (bundle.checkMounts tree) =
      each bundle.config.mounts fun index mount => mount.check index := by
  refine inner_each fun index mount => ?_
  rw [inner_append, Mount.check, checkDestination, inner_require_of_not_mem (by decide),
    inner_require_of_mem (by decide), List.append_nil]

/-- **A validation reports the violations of the configuration in their order**, between those of the
rules about what surrounds it. -/
theorem inner_validate (done : bundle.validate tree = .ok found) :
    inner found = bundle.config.violations := by
  obtain ⟨platform, root, devices, parts⟩ := parts_of_validate done
  have process : inner (bundle.config.process.check bundle.host) = _ :=
    bundle.config.process.inner_check bundle.host
  simp only [parts.parts, inner_append, process, bundle.inner_checkMounts,
    bundle.config.neat_checkMandatory.within.inner_eq_self (by decide),
    bundle.config.neat_checkVersion.within.inner_eq_self (by decide),
    bundle.config.neat_checkPlatform.within.inner_eq_self (by decide),
    parts.platform.inner_eq_nil (by decide), parts.root.within.inner_eq_nil (by decide),
    (bundle.neat_checkProfile tree).within.inner_eq_nil (by decide),
    bundle.config.neat_checkHooks.within.inner_eq_self (by decide),
    bundle.config.neat_checkAnnotations.within.inner_eq_self (by decide),
    bundle.config.neat_checkLinux.within.inner_eq_self (by decide),
    parts.devices.inner_eq_nil (by decide), List.append_nil]
  rfl

end Bundle

end OciBundle
