/-
**Orderly configurations.**

What edits keep of a configuration beyond what the validation checks. An edit of one part changes
only what is said of this part, so it has to be shown part by part.

* `Config.Orderly`: numbers in their ranges, lists without duplicates, absolute destinations, and a
  tidy filter on system calls.
* `Config.OrderlyIn`, `Config.orderly_iff`: the same of one part, of all parts.
* `Config.Orderly.of_confined`: an action that is confined to parts keeps the others orderly.
* `Config.orderly_default`, `Config.orderly_template`: the configurations that drafts start with.
-/

import OciBundle.Config.Template
import OciBundle.Proofs.Config.Parts
import OciBundle.Proofs.Seccomp.Contradiction
import OciBundle.Text.Separated

namespace OciBundle

/-! ### Parts -/

/-- An orderly process: its score is one that the kernel knows, and no group is listed twice. -/
structure Process.Orderly (process : Process) : Prop where
  oomScoreAdj : ∀ score ∈ process.oomScoreAdj, -1000 ≤ score ∧ score ≤ 1000
  additionalGids : process.user.additionalGids.Nodup

/-- A hook whose time limit, if it has one, is positive. -/
def Hook.Orderly (hook : Hook) : Prop :=
  ∀ timeout ∈ hook.timeout, 0 < timeout

/-- Hooks with positive time limits. -/
structure Hooks.Orderly (hooks : Hooks) : Prop where
  prestart : ∀ hook ∈ hooks.prestart, hook.Orderly
  poststart : ∀ hook ∈ hooks.poststart, hook.Orderly
  poststop : ∀ hook ∈ hooks.poststop, hook.Orderly

/-- Whether a weight, if there is one, is one that the kernel takes. -/
def InWeightRange (weight : Option UInt16) : Prop :=
  ∀ value ∈ weight, 10 ≤ value ∧ value ≤ 1000

/-- Weights of block devices that the kernel takes. -/
structure BlockIo.Orderly (limits : BlockIo) : Prop where
  weight : InWeightRange limits.weight
  leafWeight : InWeightRange limits.leafWeight
  devices : ∀ device ∈ limits.weightDevices,
    InWeightRange device.weight ∧ InWeightRange device.leafWeight

/-- Limits in their ranges, and rules on devices that say what is allowed. -/
structure Resources.Orderly (limits : Resources) : Prop where
  swappiness : ∀ memory ∈ limits.memory, ∀ swappiness ∈ memory.swappiness, swappiness ≤ 100
  blockIo : ∀ blockIo ∈ limits.blockIo, blockIo.Orderly
  devices : ∀ rule ∈ limits.devices, rule.access ≠ ""

/-- A tidy filter, so one with a single name in each rule and no rule twice, with known actions. -/
structure Seccomp.Orderly (seccomp : Seccomp) : Prop where
  tidy : Tidy seccomp.syscalls
  actions : ∀ listed ∈ seccomp.syscalls, ∃ action : SeccompAction, listed.action = action.text

/-- Settings for Linux whose parts are orderly, with no path twice. -/
structure Linux.Orderly (linux : Linux) : Prop where
  maskedPaths : linux.maskedPaths.Nodup
  readonlyPaths : linux.readonlyPaths.Nodup
  resources : ∀ limits ∈ linux.resources, limits.Orderly
  seccomp : ∀ seccomp ∈ linux.seccomp, seccomp.Orderly

/-- What makes a part of the settings for Linux orderly. -/
def Linux.OrderlyIn (linux : Linux) : Linux.Part → Prop
  | .namespaces => True
  | .settings => linux.maskedPaths.Nodup ∧ linux.readonlyPaths.Nodup
  | .resources => ∀ limits ∈ linux.resources, limits.Orderly
  | .seccomp => ∀ seccomp ∈ linux.seccomp, seccomp.Orderly

theorem Linux.orderly_default : (default : Linux).Orderly where
  maskedPaths := List.nodup_nil
  readonlyPaths := List.nodup_nil
  resources _ given := nomatch given
  seccomp _ given := nomatch given

theorem Linux.orderly_iff {linux : Linux} : linux.Orderly ↔ ∀ part, linux.OrderlyIn part := by
  constructor
  · rintro orderly (_ | _ | _ | _)
    · exact trivial
    · exact ⟨orderly.maskedPaths, orderly.readonlyPaths⟩
    · exact orderly.resources
    · exact orderly.seccomp
  · intro each
    exact
      { maskedPaths := (each .settings).1
        readonlyPaths := (each .settings).2
        resources := each .resources
        seccomp := each .seccomp }

namespace Config

/-- An orderly configuration. -/
structure Orderly (config : Config) : Prop where
  process : config.process.Orderly
  mounts : ∀ mount ∈ config.mounts, Text.isAbsolute mount.destination = true
  hooks : ∀ hooks ∈ config.hooks, hooks.Orderly
  linux : ∀ linux ∈ config.linux, linux.Orderly

/-- What makes a part orderly. -/
def OrderlyIn (config : Config) : Part → Prop
  | .general => True
  | .process => config.process.Orderly
  | .mounts => ∀ mount ∈ config.mounts, Text.isAbsolute mount.destination = true
  | .hooks => ∀ hooks ∈ config.hooks, hooks.Orderly
  | .linux part => config.linuxOrEmpty.OrderlyIn part

variable {config after : Config}

theorem orderly_linuxOrEmpty_iff :
    config.linuxOrEmpty.Orderly ↔ ∀ linux ∈ config.linux, linux.Orderly := by
  rw [linuxOrEmpty]
  cases config.linux with
  | none => simp [Linux.orderly_default]
  | some linux => simp

/-- **A configuration is orderly when all its parts are.** -/
theorem orderly_iff : config.Orderly ↔ ∀ part, config.OrderlyIn part := by
  constructor
  · rintro orderly (_ | _ | _ | _ | part)
    · exact trivial
    · exact orderly.process
    · exact orderly.mounts
    · exact orderly.hooks
    · exact Linux.orderly_iff.mp (orderly_linuxOrEmpty_iff.mpr orderly.linux) part
  · intro each
    exact
      { process := each .process
        mounts := each .mounts
        hooks := each .hooks
        linux := orderly_linuxOrEmpty_iff.mp
          (Linux.orderly_iff.mpr fun part => each (.linux part)) }

/-- What makes a part orderly depends on this part alone. -/
theorem orderlyIn_only {part : Part} :
    (config.only part).OrderlyIn part ↔ config.OrderlyIn part := by
  rcases part with _ | _ | _ | _ | (_ | _ | _ | _) <;> exact Iff.rfl

/-- **An action that is confined to orderly parts** keeps a configuration orderly. -/
theorem Orderly.of_confined {ε : Type} {parts : List Part} {act : Config → Except ε Config}
    (orderly : config.Orderly) (confined : Confined parts act) (done : act config = .ok after)
    (own : ∀ part ∈ parts, after.OrderlyIn part) : after.Orderly := by
  refine orderly_iff.mpr fun part => ?_
  by_cases inside : part ∈ parts
  · exact own part inside
  · rw [← orderlyIn_only, confined.frame config after done part inside, orderlyIn_only]
    exact orderly_iff.mp orderly part

/-! ### Configurations to start with -/

theorem orderly_default : (default : Config).Orderly where
  process := ⟨nofun, List.nodup_nil⟩
  mounts _ member := absurd member List.not_mem_nil
  hooks _ given := nomatch given
  linux _ given := nomatch given

theorem orderly_template (host : Host) : (template host).Orderly where
  process := ⟨nofun, List.nodup_nil⟩
  mounts := (by decide : ∀ mount ∈ Template.mounts, Text.isAbsolute mount.destination = true)
  hooks _ given := nomatch given
  linux := by
    rintro _ ⟨⟩
    exact
      { maskedPaths := by decide
        readonlyPaths := by decide
        resources := by
          rintro _ ⟨⟩
          exact ⟨nofun, nofun, by decide⟩
        seccomp := nofun }

end Config

end OciBundle
