/-
**Edits of the limits of control groups break no guarded rule.**

Only the rules on devices are checked, so a limit that leaves them alone is harmless.

* `Config.noWorse_withResources`, `Config.noWorse_mapResources`: changes of the rules on devices.
* `ResourcesEdit.noWorse`: what such an edit leaves.
-/

import OciBundle.Edit.Resources
import OciBundle.Proofs.Validation.Bundle

namespace OciBundle

open Code (guarded)

variable {code : Code} {config after : Config} {change : Resources → Resources}

namespace Config

theorem noWorse_withResources (member : code ∈ guarded)
    (kept : ∀ limits : Resources, ∀ rule ∈ (change limits).devices,
      rule ∈ limits.devices ∨ ¬ rule.Fails code) :
    NoWorse code config (config.withResources change) := by
  refine noWorse_withLinux member
    { Linux.NoWorse.refl code _ with
      resources := Linux.noWorse_checkDeviceRules fun rule inside => ?_ }
  have before : ((config.linux.getD default).resources.getD default).devices =
      ((config.linux.getD default).resources.map Resources.devices).getD [] := by
    cases (config.linux.getD default).resources <;> rfl
  rw [← before]
  exact kept _ rule inside

theorem noWorse_mapResources (member : code ∈ guarded)
    (kept : ∀ limits : Resources, ∀ rule ∈ (change limits).devices,
      rule ∈ limits.devices ∨ ¬ rule.Fails code) :
    NoWorse code config (config.mapResources change) := by
  refine noWorse_mapLinux member fun linux =>
    { Linux.NoWorse.refl code _ with
      resources := Linux.noWorse_checkDeviceRules fun rule inside => ?_ }
  revert inside
  show rule ∈ ((linux.resources.map change).map Resources.devices).getD [] → _
  cases linux.resources with
  | none => exact fun inside => absurd inside List.not_mem_nil
  | some limits => exact kept limits rule

end Config

namespace ResourcesEdit

/-- A rule that is accepted has a known kind and letters of device access. -/
theorem not_fails_of_accepted {rule : DeviceRule} (kind : isRuleKind rule.kind = true)
    (access : isAccess rule.access = true) : ¬ rule.Fails code := by
  rintro (⟨⟨_, unknown⟩, _⟩ | ⟨⟨letter, member, other⟩, _⟩)
  · refine unknown ?_
    simpa [isRuleKind, or_assoc] using kind
  · refine other ?_
    have fits := List.all_eq_true.mp access letter member
    simpa [or_assoc] using fits

/-- **An edit of the limits** leaves no part worse. -/
theorem noWorse {edit : ResourcesEdit} (member : code ∈ guarded)
    (done : edit.apply config = .ok after) : Config.NoWorse code config after := by
  cases edit with
  | setCpuShares _ | setCpuQuota _ | setCpuPeriod _ | setCpuRealtimeRuntime _
  | setCpuRealtimePeriod _ | setCpuCpus _ | setCpuMems _ | setMemoryLimit _
  | setMemoryReservation _ | setMemorySwap _ | setMemoryKernel _ | setMemoryKernelTcp _
  | setMemoryDisableOomKiller _ | setPidsLimit _ | putThrottleDevice _ _ _ _
  | setNetworkClassId _ =>
    cases done
    exact Config.noWorse_withResources member fun _ _ => .inl
  | dropWeightDevice _ _ | dropThrottleDevice _ _ _ | dropHugepageLimit _
  | dropNetworkPriority _ =>
    cases done
    exact Config.noWorse_mapResources member fun _ _ => .inl
  | setMemorySwappiness swappiness =>
    rw [apply] at done
    split at done
    next =>
      cases done
      exact Config.noWorse_withResources member fun _ _ => .inl
    next => cases done
  | setBlockIoWeight weight | setBlockIoLeafWeight weight =>
    obtain ⟨_, _, equal⟩ := exists_of_bind_eq_ok done
    cases equal
    exact Config.noWorse_withResources member fun _ _ => .inl
  | putWeightDevice major minor weight leafWeight =>
    obtain ⟨_, _, rest⟩ := exists_of_bind_eq_ok done
    obtain ⟨_, _, equal⟩ := exists_of_bind_eq_ok rest
    cases equal
    exact Config.noWorse_withResources member fun _ _ => .inl
  | putHugepageLimit _ _ | putNetworkPriority _ _ =>
    rw [apply] at done
    split at done
    next => cases done
    next =>
      cases done
      exact Config.noWorse_withResources member fun _ _ => .inl
  | addDeviceRule allow kind major minor access =>
    rw [apply] at done
    split at done
    next => cases done
    next known =>
      split at done
      next => cases done
      next letters =>
        cases done
        refine Config.noWorse_withResources member fun limits rule inside => ?_
        rcases List.mem_append.mp inside with old | new
        · exact .inl old
        · rw [List.mem_singleton.mp new]
          exact .inr (not_fails_of_accepted (Decidable.not_not.mp known)
            (Decidable.not_not.mp fun other => letters (.inr other)))
  | clearDeviceRules =>
    cases done
    exact Config.noWorse_mapResources member fun _ _ inside => absurd inside List.not_mem_nil

end ResourcesEdit

end OciBundle
