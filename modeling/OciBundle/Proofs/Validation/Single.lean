/-
**What is blamed about the only entry of its kind.**

A mandatory member is reported where it is empty, and the other checks pass over an empty one. Both
together blame an entry just when it is not valid, since an empty text never is.

* `empty_or_not_valid`: how the two reports fit together.
* `Process.blames_checkRlimits`, `Linux.blames_checkDevices`, …: what a check reports about the only
  item of its list.
* `Config.blames_version`, `Config.blames_rlimit`, …: what all checks report about it.
-/

import OciBundle.Proofs.Edit.Complete
import OciBundle.Proofs.Validation.Blame
import OciBundle.Proofs.Validation.Positions

namespace OciBundle

open Outline (Inside addressPath exists_missesAt_iff inside_self inside_append itemPath)
open Violation (Blames below_append below_itemPath below_self blames_append blames_require
  blames_singleton blames_unknown_or_repeated each_singleton not_blames_nil)

/-- A text that has to be given and valid, where an empty one is not valid. -/
theorem empty_or_not_valid {text : String} {valid : Prop} (given : valid → text ≠ "") :
    text = "" ∨ text ≠ "" ∧ ¬ valid ↔ ¬ valid := by
  by_cases empty : text = ""
  · exact iff_of_true (.inl empty) fun holds => given holds empty
  · rw [or_iff_right empty, and_iff_right empty]

theorem ne_empty_of_isVersion {text : String} (version : isVersion text = true) : text ≠ "" := by
  rintro rfl
  cases version

theorem ne_empty_of_mem_rlimitKinds {kind : String} (known : kind ∈ rlimitKinds) : kind ≠ "" := by
  rintro rfl
  exact absurd known (by decide)

/-- The kind of a device is known and fits its numbers. -/
def Device.KindFits (device : Device) : Prop :=
  ∃ kind : DeviceKind, kind.text = device.kind ∧
    kind.numbersValid device.major device.minor = true

theorem Device.KindFits.kind_ne_empty {device : Device} (fits : device.KindFits) :
    device.kind ≠ "" := by
  obtain ⟨kind, same, _⟩ := fits
  exact Vocabulary.ne_empty_of_isKnown (α := DeviceKind) (by decide)
    (Vocabulary.isKnown_iff.mpr ⟨kind, same⟩)

/-! ### What one check blames -/

namespace Process

variable {process : Process}

theorem blames_checkCapabilities {name : String} (held : process.capabilities = [name]) :
    Blames (process.checkCapabilities none) "process.capabilities[0]" ↔ name ∉ Capability.all := by
  rw [checkCapabilities, held, each_singleton, ← Capability.check_eq_ok_iff]
  dsimp only
  split
  next rejection refused =>
    rw [refused, blames_singleton]
    exact iff_of_true (inside_self _) nofun
  next accepted =>
    rw [accepted]
    exact iff_of_false not_blames_nil (not_not_intro rfl)

theorem blames_checkRlimits {limit : Rlimit} (held : process.rlimits = [limit]) :
    Blames process.checkRlimits "process.rlimits[0]" ↔
      limit.kind ≠ "" ∧ ¬ (limit.kind ∈ rlimitKinds ∧ limit.soft ≤ limit.hard) := by
  have here : Inside "process.rlimits[0]" (itemPath "process.rlimits" 0) := inside_self _
  rw [checkRlimits, held, each_singleton]
  by_cases empty : limit.kind = ""
  · simp [empty]
  · rw [if_neg empty, blames_append, checkRlimitKind, blames_unknown_or_repeated, checkRlimitBounds,
      blames_require, not_and_or]
    simp [empty, here]

end Process

theorem Mount.blames_check {mount : Mount} :
    Blames (mount.check 0) "mounts[0]" ↔
      mount.destination ≠ "" ∧ ¬ Text.isAbsolute mount.destination = true := by
  have here : Inside "mounts[0]" (itemPath "mounts" 0 ++ ".destination") :=
    inside_append (by rintro _ ⟨⟩; rfl)
  rw [check, blames_require]
  simp [here]

namespace Linux

variable {linux : Linux}

theorem blames_checkDeviceKind {device : Device} :
    Blames (checkDeviceKind 0 device) "linux.devices[0]" ↔
      device.kind ≠ "" ∧ ¬ device.KindFits := by
  have here : Inside "linux.devices[0]" (itemPath "linux.devices" 0) := inside_self _
  unfold checkDeviceKind
  by_cases empty : device.kind = ""
  · simp [empty]
  · rw [if_neg empty, and_iff_right empty]
    split
    next unknown =>
      refine iff_of_true (blames_singleton.mpr here) ?_
      rintro ⟨kind, same, _⟩
      rw [Vocabulary.ofText?_eq_some_iff.mpr same] at unknown
      cases unknown
    next kind known =>
      have same : kind.text = device.kind := Vocabulary.ofText?_eq_some_iff.mp known
      rw [blames_require, and_iff_left here, ← Bool.not_eq_true, not_congr]
      refine ⟨fun numbers => ⟨kind, same, numbers⟩, ?_⟩
      rintro ⟨other, same', numbers⟩
      rwa [Vocabulary.text_injective other kind (same'.trans same.symm)] at numbers

theorem blames_checkDevices {device : Device} (held : linux.devices = [device]) :
    Blames linux.checkDevices "linux.devices[0]" ↔
      (device.kind ≠ "" ∧ ¬ device.KindFits) ∨
        (device.path ≠ "" ∧ ¬ Text.isAbsolute device.path = true) := by
  have here : Inside "linux.devices[0]" (itemPath "linux.devices" 0) := inside_self _
  rw [checkDevices, held, each_singleton, blames_append, blames_checkDeviceKind, checkDevicePath]
  by_cases empty : device.path = ""
  · simp [empty]
  · rw [if_neg empty, blames_unknown_or_repeated]
    simp [empty, here]

theorem blames_checkPaths {code : Code} {base path : String} :
    Blames (checkPaths code base [path]) (itemPath base 0) ↔ ¬ Text.isAbsolute path = true := by
  rw [checkPaths, each_singleton, blames_require]
  simp [inside_self]

end Linux

/-! ### What all checks blame -/

namespace Config

variable {config : Config} {linux : Linux}

theorem blames_version :
    Blames config.violations "ociVersion" ↔ ¬ isVersion config.version = true := by
  rw [blames_violations "ociVersion" (.head _) (.head _) (below_self _) (by simp +decide)
    (rfl : addressPath "" [.member "ociVersion"] = _)]
  refine Iff.trans ?_ (empty_or_not_valid ne_empty_of_isVersion)
  simp [outline, checkVersion, inside_self]

theorem blames_cwd :
    Blames config.violations "process.cwd" ↔ ¬ Text.isAbsolute config.process.cwd = true := by
  have listed : (["process.cwd"], config.process.checkCwd) ∈ config.checks := by simp [checks]
  rw [blames_violations "process.cwd" listed (.head _) (below_self _) (by simp +decide)
    (rfl : addressPath "" [.member "process", .member "cwd"] = _)]
  refine Iff.trans ?_ (empty_or_not_valid ne_empty_of_isAbsolute)
  simp [outline, Process.outline, Process.checkCwd, inside_self]

theorem blames_capability {name : String} (held : config.process.capabilities = [name]) :
    Blames config.violations "process.capabilities[0]" ↔ name ∉ Capability.all := by
  have listed : (["process.capabilities"], config.process.checkCapabilities none) ∈
    config.checks := by simp [checks]
  rw [blames_violations "process.capabilities[0]" listed (.head _) (below_append _ "[0]")
    (by simp +decide)
    (rfl : addressPath "" [.member "process", .member "capabilities", .item 0] = _),
    Process.blames_checkCapabilities held]
  simp [outline, Process.outline]

theorem blames_rlimit {limit : Rlimit} (held : config.process.rlimits = [limit]) :
    Blames config.violations "process.rlimits[0]" ↔
      ¬ (limit.kind ∈ rlimitKinds ∧ limit.soft ≤ limit.hard) := by
  have listed : (["process.rlimits"], config.process.checkRlimits) ∈ config.checks := by
    simp [checks]
  rw [blames_violations "process.rlimits[0]" listed (.head _) (below_append _ "[0]")
    (by simp +decide) (rfl : addressPath "" [.member "process", .member "rlimits", .item 0] = _),
    Process.blames_checkRlimits held]
  refine Iff.trans ?_ (empty_or_not_valid fun fits => ne_empty_of_mem_rlimitKinds fits.1)
  simp [outline, Process.outline, held, exists_missesAt_iff, Rlimit.outline]

theorem blames_mount {mount : Mount} (held : config.mounts = [mount]) :
    Blames config.violations "mounts[0]" ↔ ¬ Text.isAbsolute mount.destination = true := by
  have single : Violation.each config.mounts (fun index mount => mount.check index) =
      mount.check 0 := by rw [held, each_singleton]
  have listed : (["mounts"], mount.check 0) ∈ config.checks := by simp [checks, ← single]
  rw [blames_violations "mounts[0]" listed (.head _) (below_append _ "[0]") (by simp +decide)
    (rfl : addressPath "" [.member "mounts", .item 0] = _), Mount.blames_check]
  refine Iff.trans ?_ (empty_or_not_valid ne_empty_of_isAbsolute)
  simp [outline, held, exists_missesAt_iff, Mount.outline]

theorem blames_device {device : Device} (present : config.linux = some linux)
    (held : linux.devices = [device]) :
    Blames config.violations "linux.devices[0]" ↔
      ¬ (device.KindFits ∧ Text.isAbsolute device.path = true) := by
  have listed : (["linux.devices"], linux.checkDevices) ∈ config.checks :=
    mem_checks_of_linux present (by simp [checks])
  rw [blames_violations "linux.devices[0]" listed (.head _) (below_append _ "[0]")
    (by simp +decide) (rfl : addressPath "" [.member "linux", .member "devices", .item 0] = _),
    Linux.blames_checkDevices held, not_and_or]
  have missing : (∃ below, config.outline.MissesAt
      (.member "linux" :: .member "devices" :: .item 0 :: below)) ↔
      device.kind = "" ∨ device.path = "" := by
    simp [outline, Linux.outline, present, held, exists_missesAt_iff, Device.outline,
      ← or_iff_not_imp_left, or_comm]
  refine Iff.trans ?_ (or_congr (empty_or_not_valid Device.KindFits.kind_ne_empty)
    (empty_or_not_valid ne_empty_of_isAbsolute))
  exact (or_congr_left missing).trans or_or_or_comm

theorem blames_propagation (present : config.linux = some linux) :
    Blames config.violations "linux.rootfsPropagation" ↔
      ¬ Vocabulary.isKnown Propagation linux.rootfsPropagation = true := by
  have listed : (["linux.rootfsPropagation"], linux.checkPropagation) ∈ config.checks :=
    mem_checks_of_linux present (by simp [checks])
  rw [blames_violations "linux.rootfsPropagation" listed (.head _) (below_self _)
    (by simp +decide) (rfl : addressPath "" [.member "linux", .member "rootfsPropagation"] = _)]
  simp [Linux.checkPropagation, outline, Linux.outline, inside_self]

/-- The paths of a list for Linux have to be absolute, and nothing about them is mandatory. -/
theorem blames_path (paths : Linux → List String) (code : Code) (name : String) {path : String}
    (present : config.linux = some linux) (held : paths linux = [path])
    (plain : Outline.isPlain name = true)
    (listed : (["linux." ++ name], config.checkIfLinux fun linux =>
      Linux.checkPaths code ("linux." ++ name) (paths linux)) ∈ config.checks)
    (given : ∀ below, ¬ config.outline.MissesAt
      (.member "linux" :: .member name :: .item 0 :: below)) :
    Blames config.violations (itemPath ("linux." ++ name) 0) ↔ ¬ Text.isAbsolute path = true := by
  have listed := mem_checks_of_linux present listed
  rw [blames_violations (itemPath ("linux." ++ name) 0) listed (.head _)
    (below_itemPath _ 0) (by simp +decide [plain])
    (rfl : addressPath "" [.member "linux", .member name, .item 0] = _), held,
    Linux.blames_checkPaths, or_iff_right]
  rintro ⟨below, misses⟩
  exact given below misses

end Config

end OciBundle
