/-
**Edits of what is configured for Linux break no guarded rule.**

* `LinuxEdit.noWorse_appendMapping`: mappings stay few enough.
* `Device.of_checkDevice`, `Device.not_fails_of_checkDevice`: an accepted device breaks no rule by
  itself.
* `LinuxEdit.noWorse`: what such an edit leaves.
-/

import OciBundle.Proofs.Edit.General

namespace OciBundle

open Code (guarded ne_of_mem_guarded)
open Keyed (refits_put refits_of_sublist)
open Violation (noWorse_of_not_reports not_reports_nil)

variable {code : Code} {config after : Config}

/-- A device that is accepted has a known kind with fitting numbers and an absolute path. -/
theorem Device.of_checkDevice {device : Device} (accepted : LinuxEdit.checkDevice device = .ok ()) :
    (∃ kind : DeviceKind, Vocabulary.ofText? device.kind = some kind ∧
      kind.numbersValid device.major device.minor = true) ∧
    Text.isAbsolute device.path = true := by
  obtain ⟨kind, read, accepted⟩ := exists_of_bind_eq_ok accepted
  have known : Vocabulary.ofText? device.kind = some kind :=
    Vocabulary.ofText?_of_read (eq_ok_of_mapError_eq_ok read)
  by_cases numbers : kind.numbersValid device.major device.minor = true
  · by_cases absolute : Text.isAbsolute device.path = true
    · exact ⟨⟨kind, known, numbers⟩, absolute⟩
    · simp only [numbers, absolute] at accepted
      cases accepted
  · simp only [numbers] at accepted
    cases accepted

theorem Device.not_fails_of_checkDevice {device : Device}
    (accepted : LinuxEdit.checkDevice device = .ok ()) : ¬ device.Fails code := by
  obtain ⟨⟨kind, known, numbers⟩, absolute⟩ := of_checkDevice accepted
  rintro (⟨_, fault⟩ | ⟨_, relative, _⟩)
  · rw [known] at fault
    exact Bool.false_ne_true (fault.1.symm.trans numbers)
  · exact Bool.false_ne_true (relative.symm.trans absolute)

namespace LinuxEdit

/-- A mapping is appended where the kernel takes one more. -/
theorem noWorse_appendMapping {kind : IdKind} {mapping : IdMapping} (member : code ∈ guarded)
    (done : appendMapping config kind mapping = .ok after) : Config.NoWorse code config after := by
  have count : ((config.linux.map fun linux => kind.mappings linux).getD []).length =
      (kind.mappings (config.linux.getD default)).length := by
    cases config.linux <;> cases kind <;> rfl
  unfold appendMapping at done
  simp only [count] at done
  split at done
  next => cases done
  next few =>
    cases done
    have fits : ¬ maxIdMappings <
        (kind.mappings (config.linux.getD default) ++ [mapping]).length := by
      rw [List.length_append, List.length_singleton]
      omega
    refine Config.noWorse_withLinux member ?_
    cases kind with
    | uid => exact { Linux.NoWorse.refl code _ with uidMappings := fun many => absurd many fits }
    | gid => exact { Linux.NoWorse.refl code _ with gidMappings := fun many => absurd many fits }

/-- **An edit of what is configured for Linux** leaves no part worse. -/
theorem noWorse {edit : LinuxEdit} (member : code ∈ guarded)
    (done : edit.apply config = .ok after) : Config.NoWorse code config after := by
  have noPath : code ≠ .nsPathAbs := ne_of_mem_guarded member (by decide)
  cases edit with
  | putNamespace name path =>
    obtain ⟨kind, _, equal⟩ := exists_of_bind_eq_ok done
    cases equal
    exact Config.noWorse_withLinux member
      { Linux.NoWorse.refl code _ with
        namespaces := Linux.noWorse_checkNamespaces noPath
          (refits_put (⟨kind.text, path⟩ : Namespace) (fun _ => decide_eq_true_iff)
            (Vocabulary.isKnown_text kind) _) }
  | removeNamespace name =>
    obtain ⟨kind, _, equal⟩ := exists_of_bind_eq_ok done
    cases equal
    exact Config.noWorse_mapLinux member fun linux =>
      { Linux.NoWorse.refl code _ with
        namespaces := Linux.noWorse_checkNamespaces noPath
          (refits_of_sublist List.filter_sublist) }
  | clearNamespaces =>
    cases done
    exact Config.noWorse_mapLinux member fun linux =>
      { Linux.NoWorse.refl code _ with namespaces := noWorse_of_not_reports not_reports_nil }
  | addIdMapping kind mapping => exact noWorse_appendMapping member done
  | addIdMappingText kind input =>
    obtain ⟨mapping, _, appended⟩ := exists_of_bind_eq_ok done
    exact noWorse_appendMapping member appended
  | clearIdMappings kind =>
    cases done
    refine Config.noWorse_mapLinux member fun linux => ?_
    cases kind with
    | uid => exact { Linux.NoWorse.refl code _ with uidMappings := fun many => nomatch many }
    | gid => exact { Linux.NoWorse.refl code _ with gidMappings := fun many => nomatch many }
  | addSysctl key value =>
    rw [apply] at done
    split at done
    next => cases done
    next =>
      cases done
      exact Config.noWorse_withLinux member { Linux.NoWorse.refl code _ with }
  | removeSysctl _ | clearSysctl =>
    cases done
    exact Config.noWorse_mapLinux member fun linux =>
      { Linux.NoWorse.refl code linux with }
  | putDevice device =>
    obtain ⟨_, accepted, equal⟩ := exists_of_bind_eq_ok done
    cases equal
    exact Config.noWorse_withLinux member
      { Linux.NoWorse.refl code _ with
        devices := Linux.noWorse_checkDevices (refits_put device (fun _ => decide_eq_true_iff)
          (Device.not_fails_of_checkDevice accepted) _) }
  | removeDevice path =>
    cases done
    exact Config.noWorse_mapLinux member fun linux =>
      { Linux.NoWorse.refl code _ with
        devices := Linux.noWorse_checkDevices (refits_of_sublist List.filter_sublist) }
  | clearDevices =>
    cases done
    exact Config.noWorse_mapLinux member fun linux =>
      { Linux.NoWorse.refl code _ with devices := noWorse_of_not_reports not_reports_nil }
  | setRootfsPropagation propagation =>
    rw [apply] at done
    split at done
    next word _ =>
      cases done
      exact Config.noWorse_withLinux member
        { Linux.NoWorse.refl code _ with
          propagation := Linux.noWorse_checkPropagation (Vocabulary.isKnown_text word) }
    next => cases done
  | setCgroupsPath _ | setMountLabel _ =>
    cases done
    exact Config.noWorse_withLinux member { Linux.NoWorse.refl code _ with }
  | addMaskedPath path =>
    obtain ⟨_, absolute, equal⟩ := exists_of_bind_eq_ok done
    cases equal
    refine Config.noWorse_withLinux member
      { Linux.NoWorse.refl code _ with
        maskedPaths := Linux.noWorse_checkPaths fun other inside => ?_ }
    rcases Keyed.mem_addNew inside with old | rfl
    · exact .inl old
    · exact .inr (isAbsolute_of_requireAbsolute absolute)
  | clearMaskedPaths =>
    cases done
    exact Config.noWorse_mapLinux member fun linux =>
      { Linux.NoWorse.refl code _ with maskedPaths := noWorse_of_not_reports not_reports_nil }
  | addReadonlyPath path =>
    obtain ⟨_, absolute, equal⟩ := exists_of_bind_eq_ok done
    cases equal
    refine Config.noWorse_withLinux member
      { Linux.NoWorse.refl code _ with
        readonlyPaths := Linux.noWorse_checkPaths fun other inside => ?_ }
    rcases Keyed.mem_addNew inside with old | rfl
    · exact .inl old
    · exact .inr (isAbsolute_of_requireAbsolute absolute)
  | clearReadonlyPaths =>
    cases done
    exact Config.noWorse_mapLinux member fun linux =>
      { Linux.NoWorse.refl code _ with readonlyPaths := noWorse_of_not_reports not_reports_nil }

end LinuxEdit

end OciBundle
