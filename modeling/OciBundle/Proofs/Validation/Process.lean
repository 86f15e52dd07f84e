/-
**What the rules about a process report.**

* `reports_checkCwd`, `reports_checkEnv`, `reports_checkCapabilities`, `reports_checkRlimits`: when
  a rule is reported.
* `Process.NoWorse`: a process of which no rule is reported that was not before, part by part.
* `Process.NoWorse.check`: the same of all rules about the process.
-/

import OciBundle.Proofs.Validation.Reports
import OciBundle.Validation.Process

namespace OciBundle

open Keyed (Distinct Refits any_eq_iff_mem_map)
open Violation (Reports reports_require reports_append reports_each_of_iff reports_each_keyed
  reports_unknown_or_repeated noWorse_of_items noWorse_of_refits noWorse_of_not_reports noWorse_append)

variable {code : Code}

/-- Whether a text is a stored capability. -/
def Capability.Known (name : String) : Prop :=
  check name none = .ok ()

/-- Whether a limit breaks a rule by itself. -/
def Rlimit.Fails (code : Code) (limit : Rlimit) : Prop :=
  limit.kind ≠ "" ∧ (rlimitKinds.contains limit.kind = false ∧ .procRlimitTypeInvalid = code ∨
    limit.hard < limit.soft ∧ .procRlimitSoftExceedsHard = code)

namespace Process

/-! ### Reported rules -/

theorem reports_checkCwd {process : Process} :
    Reports process.checkCwd code ↔
      (process.cwd ≠ "" ∧ Text.isAbsolute process.cwd = false) ∧ .procCwdAbs = code := by
  rw [checkCwd, reports_require, Bool.or_eq_false_iff, decide_eq_false_iff_not]

theorem reports_checkEnv {process : Process} :
    Reports process.checkEnv code ↔
      ∃ entry ∈ process.env, isEnvPair entry = false ∧ .procEnvInvalid = code :=
  reports_each_of_iff fun _ _ => reports_require

/-- The support of this host left aside, unknown and repeated capabilities are reported. -/
theorem reports_checkCapabilities {process : Process} {host : Option Host}
    (other : code ≠ .procCapNotSupported) :
    Reports (process.checkCapabilities host) code ↔
      (∃ name ∈ process.capabilities, ¬ Capability.Known name ∧ .procCapInvalid = code) ∨
        .procCapDuplicate = code ∧ ¬ Distinct Capability.Known (process.capabilities.map id) := by
  refine reports_each_keyed fun index name => ?_
  rw [List.map_id]
  split
  next refused => simp [Capability.Known, refused]
  next accepted =>
    split
    next early => simp [Capability.Known, accepted, List.contains_iff_mem.mp early]
    next fresh =>
      have absent : name ∉ process.capabilities.take index :=
        fun member => fresh (List.contains_iff_mem.mpr member)
      simp [Capability.Known, accepted, absent, other.symm]

theorem reports_checkRlimits {process : Process} :
    Reports process.checkRlimits code ↔
      (∃ limit ∈ process.rlimits, limit.Fails code) ∨ .procRlimitDuplicate = code ∧
        ¬ Distinct (fun kind => kind ≠ "" ∧ rlimitKinds.contains kind = true)
          (process.rlimits.map (·.kind)) := by
  refine reports_each_keyed fun index limit => ?_
  unfold Rlimit.Fails
  by_cases empty : limit.kind = ""
  · simp [empty]
  · rw [if_neg empty, reports_append, checkRlimitBounds, reports_require, checkRlimitKind,
      reports_unknown_or_repeated, any_eq_iff_mem_map, decide_eq_false_iff_not, UInt64.not_le]
    grind

/-! ### Comparison -/

theorem noWorse_checkCwd {before after : Process} (absolute : Text.isAbsolute after.cwd = true) :
    Violation.NoWorse code before.checkCwd after.checkCwd := by
  refine noWorse_of_not_reports fun found => ?_
  obtain ⟨⟨_, relative⟩, _⟩ := reports_checkCwd.mp found
  exact Bool.false_ne_true (relative.symm.trans absolute)

theorem noWorse_checkEnv {before after : Process}
    (kept : ∀ entry ∈ after.env, entry ∈ before.env ∨ isEnvPair entry = true) :
    Violation.NoWorse code before.checkEnv after.checkEnv := by
  refine noWorse_of_items reports_checkEnv reports_checkEnv fun entry member fault => ?_
  rcases kept entry member with old | pair
  · exact ⟨entry, old, fault⟩
  · exact absurd (fault.1.symm.trans pair) Bool.false_ne_true

theorem noWorse_checkCapabilities {before after : Process} (other : code ≠ .procCapNotSupported)
    (refits : Refits id Capability.Known before.capabilities after.capabilities) :
    Violation.NoWorse code (before.checkCapabilities none) (after.checkCapabilities none) :=
  noWorse_of_refits (reports_checkCapabilities other) (reports_checkCapabilities other)
    (fun _ known fault => fault.1 known) refits

theorem noWorse_checkRlimits {before after : Process}
    (refits : Refits (·.kind)
      (fun limit => rlimitKinds.contains limit.kind = true ∧ limit.soft ≤ limit.hard)
      before.rlimits after.rlimits) :
    Violation.NoWorse code before.checkRlimits after.checkRlimits := by
  refine noWorse_of_refits reports_checkRlimits reports_checkRlimits (fun limit good fault => ?_)
    refits
  rcases fault.2 with ⟨unknown, _⟩ | ⟨above, _⟩
  · exact Bool.false_ne_true (unknown.symm.trans good.1)
  · exact UInt64.not_le.mpr above good.2

/-- **No part of a process is worse** than before. -/
structure NoWorse (code : Code) (before after : Process) : Prop where
  cwd : Violation.NoWorse code before.checkCwd after.checkCwd
  env : Violation.NoWorse code before.checkEnv after.checkEnv
  capabilities : Violation.NoWorse code (before.checkCapabilities none)
    (after.checkCapabilities none)
  rlimits : Violation.NoWorse code before.checkRlimits after.checkRlimits

theorem NoWorse.refl (code : Code) (process : Process) : NoWorse code process process :=
  ⟨.refl _, .refl _, .refl _, .refl _⟩

theorem NoWorse.check {before after : Process} (kept : NoWorse code before after) :
    Violation.NoWorse code (before.check none) (after.check none) :=
  noWorse_append (noWorse_append (noWorse_append kept.cwd kept.env) kept.capabilities) kept.rlimits

/-- Of the rules about a process, the host decides only on the support of capabilities. -/
theorem reports_check {process : Process} {host : Option Host}
    (other : code ≠ .procCapNotSupported) :
    Reports (process.check host) code ↔ Reports (process.check none) code := by
  simp only [check, reports_append, reports_checkCapabilities other]

end Process

end OciBundle
