/-
**Edits of the process break no guarded rule.**

* `isEnvPair_of_key`: a variable with a proper key has the form `KEY=VALUE`.
* `Capability.known_of_check`, `Capability.available_sublist`: accepted capabilities are known, and
  so are those that can be had for a host.
* `ProcessEdit.noWorse`: what an edit of the process leaves.
-/

import OciBundle.Edit.Process
import OciBundle.Proofs.Text.Separated
import OciBundle.Proofs.Validation.Bundle

namespace OciBundle

open Code (guarded ne_of_mem_guarded)
open Keyed (Distinct refits_put refits_addNew refits_of_sublist)
open Violation (noWorse_of_not_reports not_reports_nil)

variable {code : Code} {config after : Config}

/-! ### Variables -/

theorem toList_pair (key value : String) :
    (key ++ "=" ++ value).toList = key.toList ++ '=' :: value.toList := by
  rw [String.toList_append, String.toList_append, List.append_assoc]
  rfl

/-- A variable is cut after its key. -/
theorem cut_pair {key : String} (value : String) (none : '=' ∉ key.toList) :
    Text.cut '=' (key ++ "=" ++ value) = some (key, value) :=
  Text.cut_eq_some_iff.mpr ⟨rfl, none⟩

theorem isEnvPair_of_key {key : String} (value : String) (given : key ≠ "")
    (none : '=' ∉ key.toList) : isEnvPair (key ++ "=" ++ value) = true := by
  rw [isEnvPair, cut_pair value none]
  exact decide_eq_true given

theorem ProcessEdit.noWorse_putEnv {key value : String}
    (done : putEnv config key value = .ok after) : Config.NoWorse code config after := by
  rw [putEnv] at done
  split at done
  next => cases done
  next proper =>
    cases done
    have given : key ≠ "" := fun empty => proper (.inl empty)
    have none : '=' ∉ key.toList := fun member => proper (.inr (List.contains_iff_mem.mpr member))
    refine Config.noWorse_mapProcess
      { Process.NoWorse.refl code _ with
        env := Process.noWorse_checkEnv fun entry member => ?_ }
    rcases Keyed.mem_put member with old | rfl
    · exact .inl old
    · exact .inr (isEnvPair_of_key value given none)

/-! ### Capabilities -/

namespace Capability

/-- What is accepted for any host is known. -/
theorem known_of_check {name : String} {host : Option Host}
    (accepted : check name host = .ok ()) : Known name := by
  unfold Known
  unfold check at accepted ⊢
  split at accepted
  next => cases accepted
  next lead =>
    split at accepted
    next => cases accepted
    next known => simp [lead, known]

theorem known_of_mem_all {name : String} (member : name ∈ all) : Known name := by
  have leads : ∀ name ∈ all, Text.startsWith "CAP_" name = true := by decide +kernel
  have known : isKnown name = true := List.contains_iff_mem.mpr member
  simp [Known, check, leads name member, known]

/-- No known capability is listed twice. -/
theorem distinct_of_sublist {names : List String} (known : names.Sublist all) :
    Distinct Known (names.map id) := by
  have nodup : all.Nodup := by decide +kernel
  rw [List.map_id]
  refine (nodup.sublist known).imp ?_
  intro first second different _
  exact different

/-- Whatever the host supports, only known capabilities can be had, in their usual order. -/
theorem available_sublist (host : Option Host) : (available host).Sublist all := by
  cases host with
  | none => exact List.Sublist.refl all
  | some host => exact List.filter_sublist

end Capability

/-- A process with some of the known capabilities, in their usual order. -/
theorem Process.not_reports_checkCapabilities {process : Process}
    (other : code ≠ .procCapNotSupported) (known : process.capabilities.Sublist Capability.all) :
    ¬ Violation.Reports (process.checkCapabilities none) code := by
  rw [reports_checkCapabilities other]
  rintro (⟨name, member, unknown, _⟩ | ⟨_, repeated⟩)
  · exact unknown (Capability.known_of_mem_all (known.subset member))
  · exact repeated (Capability.distinct_of_sublist known)

/-! ### All edits -/

/-- **An edit of the process** leaves no part worse. -/
theorem ProcessEdit.noWorse {edit : ProcessEdit} {host : Option Host} (member : code ∈ guarded)
    (done : edit.apply host config = .ok after) : Config.NoWorse code config after := by
  have other : code ≠ .procCapNotSupported := ne_of_mem_guarded member (by decide)
  cases edit with
  | setUid _ | setGid _ | setUsername _ | addAdditionalGid _ | clearAdditionalGids | setArgs _
  | setTerminal _ | setConsoleSize _ _ | setNoNewPrivileges _ | setSelinuxLabel _
  | setApparmorProfile _ =>
    cases done
    exact Config.noWorse_mapProcess { Process.NoWorse.refl code _ with }
  | setCwd cwd =>
    rw [apply] at done
    split at done
    next absolute =>
      cases done
      exact Config.noWorse_mapProcess
        { Process.NoWorse.refl code _ with
          cwd := Process.noWorse_checkCwd absolute }
    next => cases done
  | setOomScoreAdj score =>
    rw [apply] at done
    split at done
    next =>
      cases done
      exact Config.noWorse_mapProcess { Process.NoWorse.refl code _ with }
    next => cases done
  | addEnv key value => exact noWorse_putEnv done
  | addEnvPair pair =>
    rw [apply] at done
    split at done
    next => exact noWorse_putEnv done
    next => cases done
  | removeEnv key =>
    cases done
    refine Config.noWorse_mapProcess
      { Process.NoWorse.refl code _ with
        env := Process.noWorse_checkEnv fun entry inside => ?_ }
    exact .inl (List.mem_filter.mp inside).1
  | clearEnv =>
    cases done
    exact Config.noWorse_mapProcess
      { Process.NoWorse.refl code _ with
        env := noWorse_of_not_reports not_reports_nil }
  | addCapability name =>
    obtain ⟨_, accepted, equal⟩ := exists_of_bind_eq_ok done
    cases equal
    exact Config.noWorse_mapProcess
      { Process.NoWorse.refl code _ with
        capabilities := Process.noWorse_checkCapabilities other
          (refits_addNew (Capability.known_of_check accepted) _) }
  | dropCapability name =>
    obtain ⟨_, _, equal⟩ := exists_of_bind_eq_ok done
    cases equal
    exact Config.noWorse_mapProcess
      { Process.NoWorse.refl code _ with
        capabilities := Process.noWorse_checkCapabilities other
          (refits_of_sublist List.filter_sublist) }
  | clearCapabilities =>
    cases done
    exact Config.noWorse_mapProcess
      { Process.NoWorse.refl code _ with
        capabilities := noWorse_of_not_reports not_reports_nil }
  | addRlimit kind hard soft =>
    rw [apply] at done
    split at done
    next => cases done
    next known =>
      split at done
      next => cases done
      next ordered =>
        cases done
        have fits : rlimitKinds.contains kind = true ∧ soft ≤ hard :=
          ⟨Decidable.not_not.mp known, UInt64.not_lt.mp ordered⟩
        exact Config.noWorse_mapProcess
          { Process.NoWorse.refl code _ with
            rlimits := Process.noWorse_checkRlimits
              (refits_put (⟨kind, hard, soft⟩ : Rlimit) (fun _ => decide_eq_true_iff) fits _) }
  | removeRlimit kind =>
    cases done
    exact Config.noWorse_mapProcess
      { Process.NoWorse.refl code _ with
        rlimits := Process.noWorse_checkRlimits (refits_of_sublist List.filter_sublist) }
  | clearRlimits =>
    cases done
    exact Config.noWorse_mapProcess
      { Process.NoWorse.refl code _ with
        rlimits := noWorse_of_not_reports not_reports_nil }
  | setPrivileged =>
    cases done
    have linux : Config.NoWorse code config (config.mapLinux fun linux =>
        { linux with seccomp := none }) :=
      Config.noWorse_mapLinux member fun linux =>
        { Linux.NoWorse.refl code _ with seccomp := noWorse_of_not_reports not_reports_nil }
    have clean : ¬ Violation.Reports
        ((config.privileged host).process.checkCapabilities none) code :=
      Process.not_reports_checkCapabilities other (Capability.available_sublist host)
    exact
      { Config.NoWorse.refl code _ with
        process :=
          { Process.NoWorse.refl code _ with capabilities := noWorse_of_not_reports clean }
        linux := linux.linux }

end OciBundle
