/-
**Edits and checks draw the same line.**

What an edit enters is checked twice: by the edit, and later on by the validator. An entry that the
edit refuses is one that the checks blame in a configuration that holds just this entry, and there
are no others.

* `Entry`: what an edit enters, with its edit and its path in a configuration.
* `Entry.HeldBy`: the configuration holds exactly the entry.
* `Entry.Fits`: the rule about the entry.
* `Entry.acceptedBy_iff_fits`, `Entry.blames_iff_not_fits`: both sides follow it.
* `Entry.acceptedBy_iff_not_blames`: a draft accepts an entry when the checks do not blame it.
-/

import OciBundle.Proofs.Validation.Single

namespace OciBundle

open Outline (Inside inside_self)
open Violation (Blames)

/-- What an edit enters in a configuration, as the edit is given it. -/
inductive Entry where
  | version (text : String)
  | cwd (path : String)
  | capability (name : String)
  | rlimit (kind : String) (hard soft : UInt64)
  | mount (value : Mount)
  | device (value : Device)
  | propagation (text : String)
  | maskedPath (path : String)
  | readonlyPath (path : String)

namespace Entry

/-- The edit that enters an entry. -/
def edit : Entry → Edit
  | .version text => .general (.setVersion text)
  | .cwd path => .process (.setCwd path)
  | .capability name => .process (.addCapability name)
  | .rlimit kind hard soft => .process (.addRlimit kind hard soft)
  | .mount value => .mount (.add value)
  | .device value => .linux (.putDevice value)
  | .propagation text => .linux (.setRootfsPropagation text)
  | .maskedPath path => .linux (.addMaskedPath path)
  | .readonlyPath path => .linux (.addReadonlyPath path)

/-- The path of an entry in a configuration that holds no other one of its kind. -/
def path : Entry → String
  | .version _ => "ociVersion"
  | .cwd _ => "process.cwd"
  | .capability _ => "process.capabilities[0]"
  | .rlimit _ _ _ => "process.rlimits[0]"
  | .mount _ => "mounts[0]"
  | .device _ => "linux.devices[0]"
  | .propagation _ => "linux.rootfsPropagation"
  | .maskedPath _ => "linux.maskedPaths[0]"
  | .readonlyPath _ => "linux.readonlyPaths[0]"

/-- A configuration holds exactly an entry, and no other one of its kind. -/
def HeldBy (config : Config) : Entry → Prop
  | .version text => config.version = text
  | .cwd path => config.process.cwd = path
  | .capability name => config.process.capabilities = [Capability.normalize name]
  | .rlimit kind hard soft => config.process.rlimits = [{ kind, hard, soft }]
  | .mount value => config.mounts = [value]
  | .device value => ∃ linux, config.linux = some linux ∧ linux.devices = [value]
  | .propagation text => ∃ linux, config.linux = some linux ∧ linux.rootfsPropagation = text
  | .maskedPath path => ∃ linux, config.linux = some linux ∧ linux.maskedPaths = [path]
  | .readonlyPath path => ∃ linux, config.linux = some linux ∧ linux.readonlyPaths = [path]

/-- **The rule about an entry**, for a configuration of any host. -/
def Fits : Entry → Prop
  | .version text => isVersion text = true
  | .cwd path => Text.isAbsolute path = true
  | .capability name => Capability.normalize name ∈ Capability.all
  | .rlimit kind hard soft => kind ∈ rlimitKinds ∧ soft ≤ hard
  | .mount value => Text.isAbsolute value.destination = true
  | .device value => value.KindFits ∧ Text.isAbsolute value.path = true
  | .propagation text => Vocabulary.isKnown Propagation text = true
  | .maskedPath path | .readonlyPath path => Text.isAbsolute path = true

/-- A draft accepts an entry. -/
def AcceptedBy (draft : Draft) (entry : Entry) : Prop :=
  ∃ after decisions, draft.apply entry.edit = .ok (after, decisions)

end Entry

/-! ### What edits accept -/

theorem LinuxEdit.isOk_checkDevice {device : Device} :
    (checkDevice device).isOk = true ↔
      device.KindFits ∧ Text.isAbsolute device.path = true := by
  constructor
  · intro done
    obtain ⟨⟨kind, known, numbers⟩, absolute⟩ := Device.of_checkDevice (eq_ok_of_isOk done)
    exact ⟨⟨kind, Vocabulary.ofText?_eq_some_iff.mp known, numbers⟩, absolute⟩
  · rintro ⟨⟨kind, same, numbers⟩, absolute⟩
    have known : Vocabulary.ofText? device.kind = some kind :=
      Vocabulary.ofText?_eq_some_iff.mpr same
    have read : UnknownWord.lift (Vocabulary.read DeviceKind device.kind) = .ok kind := by
      rw [Vocabulary.read, known]
      rfl
    rw [checkDevice, read]
    show Except.isOk (ite _ _ (ite _ _ _)) = true
    rw [if_neg (not_not_intro numbers), if_neg (not_not_intro absolute)]
    rfl

namespace Entry

theorem acceptedBy_iff_isOk {draft : Draft} {entry : Entry} :
    entry.AcceptedBy draft ↔ (draft.apply entry.edit).isOk = true := by
  constructor
  · rintro ⟨after, decisions, done⟩
    rw [done]
    rfl
  · intro done
    obtain ⟨⟨after, decisions⟩, done⟩ := exists_of_isOk done
    exact ⟨after, decisions, done⟩

/-- **An edit accepts what follows the rule.** -/
theorem acceptedBy_iff_fits {draft : Draft} {entry : Entry}
    (plain : ∀ name, entry = .capability name → draft.hostSpecific = false) :
    entry.AcceptedBy draft ↔ entry.Fits := by
  rw [acceptedBy_iff_isOk]
  cases entry with
  | version text =>
    rw [edit, Draft.apply, isOk_bind_pure]
    exact isOk_ite
  | cwd path =>
    rw [edit, Draft.apply, isOk_bind_pure]
    exact isOk_ite
  | capability name =>
    rw [edit, Draft.apply, isOk_bind_pure, ProcessEdit.apply, isOk_bind_pure, Draft.target,
      plain name rfl, Host.target_false, isOk_iff_eq_ok]
    exact Capability.check_eq_ok_iff
  | rlimit kind hard soft =>
    rw [edit, Draft.apply, isOk_bind_pure, ProcessEdit.apply, Fits]
    by_cases known : kind ∈ rlimitKinds
    · rw [if_neg (not_not_intro (List.contains_iff_mem.mpr known)), and_iff_right known]
      by_cases ordered : soft ≤ hard
      · rw [if_neg (UInt64.not_lt.mpr ordered)]
        exact iff_of_true rfl ordered
      · rw [if_pos (UInt64.not_le.mp ordered)]
        exact iff_of_false Bool.false_ne_true ordered
    · rw [if_pos (mt List.contains_iff_mem.mp known)]
      exact iff_of_false Bool.false_ne_true fun fits => known fits.1
  | mount value =>
    rw [edit, Draft.apply, isOk_bind_pure, MountEdit.apply, MountEdit.append, isOk_bind_pure]
    exact isOk_ite
  | device value =>
    rw [edit, Draft.apply, isOk_bind_pure, LinuxEdit.apply, isOk_bind_pure]
    exact LinuxEdit.isOk_checkDevice
  | propagation text =>
    rw [edit, Draft.apply, isOk_bind_pure, LinuxEdit.apply, Fits, Vocabulary.isKnown,
      Vocabulary.read]
    cases Vocabulary.ofText? (α := Propagation) text <;> rfl
  | maskedPath path | readonlyPath path =>
    rw [edit, Draft.apply, isOk_bind_pure, LinuxEdit.apply, isOk_bind_pure]
    exact isOk_ite

end Entry

/-! ### What checks blame -/

namespace Entry

/-- **The checks blame what does not follow the rule**, in a configuration that holds nothing else
of its kind. -/
theorem blames_iff_not_fits {config : Config} {entry : Entry} (held : entry.HeldBy config) :
    Blames config.violations entry.path ↔ ¬ entry.Fits := by
  cases entry with
  | version text =>
    cases held
    exact Config.blames_version
  | cwd path =>
    cases held
    exact Config.blames_cwd
  | capability name => exact Config.blames_capability held
  | rlimit kind hard soft => exact Config.blames_rlimit held
  | mount value => exact Config.blames_mount held
  | device value =>
    obtain ⟨linux, present, held⟩ := held
    exact Config.blames_device present held
  | propagation text =>
    obtain ⟨linux, present, rfl⟩ := held
    exact Config.blames_propagation present
  | maskedPath path =>
    obtain ⟨linux, present, held⟩ := held
    exact Config.blames_path (·.maskedPaths) .maskedPathAbs "maskedPaths" present held (by decide)
      (by simp [Config.checks]) (by simp [Config.outline, Linux.outline])
  | readonlyPath path =>
    obtain ⟨linux, present, held⟩ := held
    exact Config.blames_path (·.readonlyPaths) .readonlyPathAbs "readonlyPaths" present held
      (by decide) (by simp [Config.checks]) (by simp [Config.outline, Linux.outline])

/-- A configuration is clean but for an entry: all that is reported is reported about it. -/
def CleanBeside (config : Config) (entry : Entry) : Prop :=
  ∀ violation ∈ config.violations, Inside entry.path violation.subject

/-- **Edits accept just what the checks do not blame.** Take any configuration that holds exactly an
entry. A draft accepts the entry when the checks, the one for mandatory members among them, report
nothing about it; and if they report nothing else, when they report nothing at all. Only for
capabilities does the draft have to be one that is not made for its host alone. -/
theorem acceptedBy_iff_not_blames {config : Config} {draft : Draft} {entry : Entry}
    (plain : ∀ name, entry = .capability name → draft.hostSpecific = false)
    (held : entry.HeldBy config) :
    (entry.AcceptedBy draft ↔ ¬ Blames config.violations entry.path) ∧
      (CleanBeside config entry → (entry.AcceptedBy draft ↔ config.violations = [])) := by
  have accepted : entry.AcceptedBy draft ↔ ¬ Blames config.violations entry.path := by
    rw [acceptedBy_iff_fits plain, blames_iff_not_fits held, not_not]
  refine ⟨accepted, fun clean => accepted.trans ?_⟩
  constructor
  · intro unblamed
    refine List.eq_nil_iff_forall_not_mem.mpr fun violation inside => unblamed ?_
    exact ⟨violation, inside, clean violation inside⟩
  · rintro none ⟨violation, inside, _⟩
    rw [none] at inside
    cases inside

/-- The name of no capability is refused, since its stored form is what the checks report. -/
theorem acceptedBy_iff_not_blames_capability :
    let config : Config := { (default : Config) with
      version := "1.0.0"
      platform := { os := "linux", arch := "amd64" }
      process := { (default : Process) with
        args := ["sh"], cwd := "/", capabilities := ["CAP_FLY"] }
      root := { path := "rootfs", readonly := false } }
    HeldBy config (.capability "fly") ∧ CleanBeside config (.capability "fly") ∧
      config.violations ≠ [] ∧ ¬ AcceptedBy (.ofConfig default default) (.capability "fly") := by
  intro config
  have stored : Capability.normalize "fly" = "CAP_FLY" := by decide +kernel
  have held : HeldBy config (.capability "fly") := congrArg (List.cons · []) stored.symm
  have found : config.violations = [⟨.procCapInvalid, "process.capabilities[0]",
      "unrecognized capability: \"CAP_FLY\""⟩] := by decide +kernel
  have clean : CleanBeside config (.capability "fly") := by
    intro violation inside
    rw [found] at inside
    rw [List.mem_singleton.mp inside]
    exact inside_self _
  have reported : config.violations ≠ [] := found ▸ List.cons_ne_nil _ _
  have plain : ∀ name, Entry.capability "fly" = .capability name →
      (Draft.ofConfig default default).hostSpecific = false := fun _ _ => rfl
  have line := (acceptedBy_iff_not_blames plain held).2 clean
  exact ⟨held, clean, reported, fun accepts => reported (line.mp accepts)⟩

end Entry

end OciBundle
