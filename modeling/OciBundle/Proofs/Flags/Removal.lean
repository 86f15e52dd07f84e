/-
**Removals win over the template and over additions.**

What a flag removes is not in the configuration that is built, wherever it came from. In each family
of flags the removals come behind the additions of the same things, and no later family brings what
an earlier one removes. A privileged process gets all capabilities before any is dropped, and rules
are merged into the filter before any is removed.

* `Step.Clears`: a step removes a thing, and no later one may bring it.
* `Step.not_holds_of_clears`: after such steps, the thing is not held.
* `FlagFamily.not_holds`: a family that clears a thing of the part that no later one is about.
* `GenerateFlags.RemovalsHold`: what the removals of all families say.
* `GenerateFlags.removalsHold_of_build`: every configuration that is built is like this.
-/

import OciBundle.Proofs.Edit.Removal
import OciBundle.Proofs.Flags.Namespace
import OciBundle.Proofs.Flags.Order

namespace OciBundle

variable {draft after : Draft} {item : Removable}

/-! ### Steps that clear a thing -/

namespace Step

variable {steps first second : List Step} {parts : List Config.Part}

/-- Whether no step may bring a thing. -/
def Spare (item : Removable) (steps : List Step) : Prop :=
  AllAsk (fun edit => ¬ item.BroughtBy edit) steps

/-- Whether a step removes a thing, and no later one may bring it. -/
def Clears (item : Removable) (steps : List Step) : Prop :=
  ∃ before label change later, steps = before ++ .edit label change :: later ∧
    item.RemovedBy change ∧ Spare item later

theorem Clears.append_left (clears : Clears item second) : Clears item (first ++ second) := by
  obtain ⟨before, label, change, later, rfl, removed, spare⟩ := clears
  exact ⟨first ++ before, label, change, later, (List.append_assoc _ _ _).symm, removed, spare⟩

theorem Clears.append_right (clears : Clears item first) (spare : Spare item second) :
    Clears item (first ++ second) := by
  obtain ⟨before, label, change, later, rfl, removed, spare'⟩ := clears
  refine ⟨before, label, change, later ++ second, ?_, removed, allAsk_append.mpr ⟨spare', spare⟩⟩
  rw [List.append_assoc, List.cons_append]

/-- The values of a flag that removes things. -/
theorem clears_ofTexts {flag value : String} {edit : String → Edit} {values : List String}
    (member : value ∈ values) (removed : item.RemovedBy (edit value))
    (spare : ∀ other, ¬ item.BroughtBy (edit other)) : Clears item (ofTexts flag edit values) := by
  obtain ⟨before, later, rfl⟩ := List.append_of_mem member
  refine ⟨ofTexts flag edit before, flag ++ " " ++ value, edit value, ofTexts flag edit later, ?_,
    removed, ?_⟩
  · rw [ofTexts, List.map_append, List.map_cons]
    rfl
  · exact allAsk_ofTexts.mpr fun other _ => spare other

/-- **After steps that clear a thing**, it is not held. -/
theorem not_holds_of_clears (clears : Clears item steps) (done : runAll draft steps = .ok after) :
    ¬ after.config.Holds item := by
  obtain ⟨before, label, change, later, rfl, removed, spare⟩ := clears
  obtain ⟨start, _, done⟩ := exists_of_runAll_append done
  obtain ⟨between, here, done⟩ := exists_of_runAll_cons done
  obtain ⟨decisions, applied⟩ := exists_of_run_edit here
  refine holds_runAll (fun draft => ¬ draft.config.Holds item) spare ?_
    (Draft.not_holds_of_removedBy applied removed) done
  intro before after change decisions spares applied absent held
  exact (Draft.holds_or_broughtBy applied held).elim absent spares

/-- In a run that succeeds, every edit is accepted. -/
theorem exists_of_mem_runAll {label : String} {change : Edit} (member : .edit label change ∈ steps)
    (done : runAll draft steps = .ok after) :
    ∃ before between decisions, Draft.apply before change = .ok (between, decisions) := by
  obtain ⟨_, _, rfl⟩ := List.append_of_mem member
  obtain ⟨start, _, done⟩ := exists_of_runAll_append done
  obtain ⟨between, here, _⟩ := exists_of_runAll_cons done
  obtain ⟨decisions, applied⟩ := exists_of_run_edit here
  exact ⟨start, between, decisions, applied⟩

/-! ### Steps about other parts -/

/-- Edits about other parts do not bring a thing. -/
theorem not_broughtBy_of_within {edit : Edit} (within : edit.Within parts)
    (outside : item.part ∉ parts) : ¬ item.BroughtBy edit := by
  intro brought
  apply outside
  cases item with
  | annotated key =>
    obtain ⟨value, rfl⟩ := brought
    exact within
  | env key =>
    rcases brought with ⟨_, _, rfl⟩ | ⟨_, rfl⟩
    · exact within List.mem_cons_self
    · exact within List.mem_cons_self
  | capability name =>
    rcases brought with rfl | ⟨_, _, rfl⟩
    · exact within List.mem_cons_self
    · exact within List.mem_cons_self
  | rlimit kind =>
    obtain ⟨_, _, rfl⟩ := brought
    exact within List.mem_cons_self
  | mount destination =>
    rcases brought with ⟨_, rfl⟩ | ⟨_, rfl⟩ | ⟨_, rfl⟩ | ⟨_, rfl⟩ <;> exact within
  | sysctl key =>
    obtain ⟨_, rfl⟩ := brought
    exact within
  | device path =>
    obtain ⟨_, _, rfl⟩ := brought
    exact within
  | namespaces kind =>
    obtain ⟨_, _, _, rfl⟩ := brought
    exact within
  | arch arch =>
    obtain ⟨_, _, rfl⟩ := brought
    exact within
  | rule rule =>
    obtain ⟨_, rfl⟩ := brought
    exact within

theorem spare_of_allWithin (within : AllWithin parts steps) (outside : item.part ∉ parts) :
    Spare item steps := by
  intro step member
  cases step with
  | edit label change => exact not_broughtBy_of_within (within _ member) outside
  | refuse _ | needDefaultAction => trivial

end Step

open Step (AllAsk Clears Spare clears_ofTexts)

/-! ### Families -/

namespace FlagFamily

/-- The part that a family is the last one to be about. -/
def own : FlagFamily → Config.Part
  | .general => .general
  | .process => .process
  | .namespaces => .linux .namespaces
  | .mounts => .mounts
  | .hooks => .hooks
  | .linux => .linux .settings
  | .resources => .linux .resources
  | .seccomp => .linux .seccomp

/-- The families behind a family. -/
def later (family : FlagFamily) : List FlagFamily :=
  (all.dropWhile (· ≠ family)).tail

theorem all_eq (family : FlagFamily) :
    all = all.takeWhile (· ≠ family) ++ family :: family.later := by
  cases family <;> rfl

theorem own_not_mem_parts (family : FlagFamily) : ∀ other ∈ family.later, family.own ∉ other.parts := by
  cases family <;> decide

variable {flags : GenerateFlags} {family : FlagFamily}

theorem clears_steps (clears : Clears item (family.steps flags)) (own : item.part = family.own) :
    Clears item flags.steps := by
  rw [GenerateFlags.steps_eq_flatMap, family.all_eq, List.flatMap_append, List.flatMap_cons]
  refine .append_left (.append_right clears ?_)
  refine Step.allAsk_flatMap.mpr fun other behind => ?_
  refine Step.spare_of_allWithin (other.within_steps flags) ?_
  rw [own]
  exact family.own_not_mem_parts other behind

/-- **What a family clears** of its own part is not built. -/
theorem not_holds (clears : Clears item (family.steps flags)) (own : item.part = family.own)
    (done : Step.runAll draft flags.steps = .ok after) : ¬ after.config.Holds item :=
  Step.not_holds_of_clears (clears_steps clears own) done

end FlagFamily

theorem GeneralFlags.clears_annotated {flags : GeneralFlags} {key : String}
    (member : key ∈ flags.annotationsRemoved) : Clears (.annotated key) flags.steps := by
  refine .append_right (.append_right (.append_left
    (clears_ofTexts member rfl fun _ => ?_)) ?_) ?_
  all_goals simp [Spare, Removable.BroughtBy]

namespace ProcessFlags

variable {flags : ProcessFlags}

theorem clears_env {key : String} (member : key ∈ flags.envRemoved) :
    Clears (.env key) flags.steps := by
  refine .append_right (.append_right (.append_right (.append_right (.append_left
    (clears_ofTexts member rfl fun _ => ?_)) ?_) ?_) ?_) ?_
  all_goals simp [Spare, Removable.BroughtBy]

theorem clears_capability {name : String} (member : name ∈ flags.capabilitiesDropped) :
    Clears (.capability (Capability.normalize name)) flags.steps := by
  refine .append_right (.append_right (.append_left
    (clears_ofTexts member ⟨name, rfl, rfl⟩ fun _ => ?_)) ?_) ?_
  all_goals simp [Spare, Removable.BroughtBy]

theorem clears_rlimit {kind : String} (member : kind ∈ flags.rlimitsRemoved) :
    Clears (.rlimit kind) flags.steps := by
  refine .append_left (clears_ofTexts member rfl fun _ => ?_)
  simp [Removable.BroughtBy]

end ProcessFlags

namespace NamespaceFlags

/-- The flag of another kind does not bring a namespace. -/
theorem not_broughtBy_edit {name other path : String} {kind : NamespaceKind}
    (text : kind.text = name) (proper : IsProper other) (different : name ≠ other) :
    ¬ (Removable.namespaces kind).BroughtBy (.linux (edit other path)) := by
  rintro ⟨named, joined, read', same⟩
  obtain ⟨otherKind, readOther, textOther⟩ := proper
  rw [edit] at same
  split at same
  next => cases same
  next =>
    cases same
    cases readOther.symm.trans read'
    exact different (text.symm.trans textOther)

/-- A namespace that is shared with the host. No other flag is about the same kind. -/
theorem clears_namespaces {flags : NamespaceFlags} {name : String} {kind : NamespaceKind}
    (member : (name, some "host") ∈ flags.entries) (read : LinuxEdit.readKind name = .ok kind)
    (text : kind.text = name) : Clears (.namespaces kind) flags.steps := by
  have clears : Clears (.namespaces kind) (flags.entries.flatMap entrySteps) := by
    have proper := flags.proper_entries
    have different := flags.nodup_entries
    obtain ⟨before, later, split⟩ := List.append_of_mem member
    rw [split] at proper different ⊢
    rw [List.map_append, List.map_cons, List.nodup_append] at different
    rw [List.flatMap_append, List.flatMap_cons]
    refine .append_left (.append_right ?_ ?_)
    · exact ⟨[], _, _, [], rfl, ⟨name, read, rfl⟩, Step.allAsk_nil⟩
    · refine Step.allAsk_flatMap.mpr fun entry behind => ?_
      refine Step.allAsk_ofOption.mpr fun path _ => ?_
      refine not_broughtBy_edit text (proper entry ?_) ?_
      · exact List.mem_append_right _ (List.mem_cons_of_mem _ behind)
      · intro same
        refine (List.nodup_cons.mp different.2.1).1 (List.mem_map.mpr ⟨entry, behind, same.symm⟩)
  refine .append_right (.append_right clears ?_) ?_
  all_goals simp [Spare, Removable.BroughtBy]

end NamespaceFlags

theorem MountFlags.clears_mount {flags : MountFlags} {destination : String}
    (member : destination ∈ flags.removed) : Clears (.mount destination) flags.steps := by
  refine .append_left (clears_ofTexts member rfl fun _ => ?_)
  simp [Removable.BroughtBy]

namespace LinuxFlags

variable {flags : LinuxFlags}

theorem clears_sysctl {key : String} (member : key ∈ flags.sysctlRemoved) :
    Clears (.sysctl key) flags.steps := by
  refine .append_right (.append_right (.append_right (.append_right (.append_right (.append_right
    (.append_right (.append_left (clears_ofTexts member rfl fun _ => ?_)) ?_) ?_) ?_) ?_) ?_) ?_) ?_
  all_goals simp [Spare, Removable.BroughtBy]

theorem clears_device {path : String} (member : path ∈ flags.devicesRemoved) :
    Clears (.device path) flags.steps := by
  refine .append_right (.append_right (.append_right (.append_right (.append_right (.append_left
    (clears_ofTexts member rfl fun _ => ?_)) ?_) ?_) ?_) ?_) ?_
  all_goals simp [Spare, Removable.BroughtBy]

end LinuxFlags

namespace SeccompFlags

variable {flags : SeccompFlags}

theorem clears_arch {word : String} {arch : SeccompArch} (member : word ∈ flags.archesRemoved)
    (read : NameRule.readArch word = .ok arch) : Clears (.arch arch) flags.steps := by
  refine .append_right (.append_right (.append_right (.append_left
    (clears_ofTexts member ⟨word, read, rfl⟩ fun _ => ?_)) ?_) ?_) ?_
  all_goals simp [Spare, Removable.BroughtBy]

theorem clears_rule {input : String} {rules : List NameRule} {rule : NameRule}
    (member : input ∈ flags.rulesRemoved) (read : NameRule.readAll input = .ok rules)
    (inside : rule ∈ rules) : Clears (.rule rule) flags.steps := by
  refine .append_left (clears_ofTexts member ⟨input, rules, read, inside, rfl⟩ fun _ => ?_)
  simp [Removable.BroughtBy]

/-- In a run that succeeds, an edit that reads a word or a text first can read it. -/
theorem exists_read {α : Type} {label : String} {edit : SeccompEdit} {given : Except ParseFault α}
    (asked : .edit label (.seccomp edit) ∈ flags.steps)
    (reads : ∀ config, ∃ rest, edit.apply config = ParseFault.lift given >>= rest)
    (done : Step.runAll draft flags.steps = .ok after) : ∃ value, given = .ok value := by
  obtain ⟨before, _, _, applied⟩ := Step.exists_of_mem_runAll asked done
  obtain ⟨rest, same⟩ := reads before.config
  obtain ⟨value, read, _⟩ := exists_of_bind_eq_ok (same.symm.trans (Draft.yields_apply applied))
  exact ⟨value, eq_ok_of_mapError_eq_ok read⟩

theorem exists_readArch {word : String} (member : word ∈ flags.archesRemoved)
    (done : Step.runAll draft flags.steps = .ok after) :
    ∃ arch, NameRule.readArch word = .ok arch := by
  have asked : .edit ("--seccomp-arch-remove" ++ " " ++ word) (.seccomp (.removeArch word)) ∈
      flags.steps := by
    simp [steps, Step.ofTexts, member]
  exact exists_read asked (fun _ => ⟨_, rfl⟩) done

theorem exists_readAll {input : String} (member : input ∈ flags.rulesRemoved)
    (done : Step.runAll draft flags.steps = .ok after) :
    ∃ rules, NameRule.readAll input = .ok rules := by
  have asked : .edit ("--seccomp-remove" ++ " " ++ input) (.seccomp (.removeRules input)) ∈
      flags.steps := by
    simp [steps, Step.ofTexts, member]
  exact exists_read asked (fun _ => ⟨_, rfl⟩) done

end SeccompFlags

/-! ### All removals -/

namespace GenerateFlags

variable {flags : GenerateFlags} {host : Host} {hostSpecific : Bool} {tree : FileTree}

/-- **What the removals of all families say** about a configuration. Values that have to be read are
read. -/
structure RemovalsHold (flags : GenerateFlags) (config : Config) : Prop where
  annotations : ∀ key ∈ flags.general.annotationsRemoved, config.annotations.get? key = none
  env : ∀ key ∈ flags.process.envRemoved, ∀ entry ∈ config.process.env,
    Text.startsWith (key ++ "=") entry = false
  capabilities : ∀ name ∈ flags.process.capabilitiesDropped,
    Capability.normalize name ∉ config.process.capabilities
  rlimits : ∀ kind ∈ flags.process.rlimitsRemoved, ∀ limit ∈ config.process.rlimits,
    limit.kind ≠ kind
  mounts : ∀ destination ∈ flags.mounts.removed, ∀ mount ∈ config.mounts,
    mount.destination ≠ destination
  sysctl : ∀ key ∈ flags.linux.sysctlRemoved, ∀ linux, config.linux = some linux →
    linux.sysctl.get? key = none
  devices : ∀ path ∈ flags.linux.devicesRemoved, ∀ linux, config.linux = some linux →
    ∀ device ∈ linux.devices, device.path ≠ path
  namespaces : ∀ kind, (kind, some "host") ∈ flags.namespaces.entries →
    ∀ linux, config.linux = some linux → ∀ listed ∈ linux.namespaces, listed.kind ≠ kind
  arches : ∀ word ∈ flags.seccomp.archesRemoved, ∃ arch, NameRule.readArch word = .ok arch ∧
    ∀ seccomp, config.seccomp = some seccomp → arch.text ∉ seccomp.architectures
  rules : ∀ input ∈ flags.seccomp.rulesRemoved, ∃ rules, NameRule.readAll input = .ok rules ∧
    ∀ rule ∈ rules, ∀ seccomp, config.seccomp = some seccomp → ∀ listed ∈ seccomp.syscalls,
      listed.action = rule.action.text → listed.args = rule.args → rule.name ∉ listed.names

/-- **Removals win over the template and over additions.** Whatever the template holds and the other
flags add, the configuration that is built holds nothing that a flag removes. -/
theorem removalsHold_of_build (done : flags.build host hostSpecific tree = .ok draft) :
    flags.RemovalsHold draft.config := by
  obtain ⟨config, _, ran⟩ := exists_of_bind_eq_ok done
  have absent {item : Removable} (family : FlagFamily) (clears : Clears item (family.steps flags))
      (own : item.part = family.own) : ¬ draft.config.Holds item :=
    FlagFamily.not_holds clears own ran
  obtain ⟨_, _, filtered⟩ := Step.exists_of_runAll_append ran
  constructor
  case annotations =>
    intro key member
    exact Config.get?_annotations_of_not_holds
      (absent .general (flags.general.clears_annotated member) rfl)
  case env =>
    intro key member
    exact Config.not_startsWith_of_not_holds (absent .process (flags.process.clears_env member) rfl)
  case capabilities =>
    intro name member
    exact absent .process (flags.process.clears_capability member) rfl
  case rlimits =>
    intro kind member
    exact Config.rlimit_ne_of_not_holds (absent .process (flags.process.clears_rlimit member) rfl)
  case mounts =>
    intro destination member
    exact Config.mount_ne_of_not_holds (absent .mounts (flags.mounts.clears_mount member) rfl)
  case sysctl =>
    intro key member
    exact Config.get?_sysctl_of_not_holds (absent .linux (flags.linux.clears_sysctl member) rfl)
  case devices =>
    intro path member
    exact Config.device_ne_of_not_holds (absent .linux (flags.linux.clears_device member) rfl)
  case namespaces =>
    intro name member
    obtain ⟨kind, read, rfl⟩ := flags.namespaces.proper_entries _ member
    exact Config.namespace_ne_of_not_holds
      (absent .namespaces (NamespaceFlags.clears_namespaces member read rfl) rfl)
  case arches =>
    intro word member
    obtain ⟨arch, read⟩ := SeccompFlags.exists_readArch member filtered
    have gone := absent .seccomp (flags.seccomp.clears_arch member read) rfl
    exact ⟨arch, read, Config.arch_not_mem_of_not_holds gone⟩
  case rules =>
    intro input member
    obtain ⟨rules, read⟩ := SeccompFlags.exists_readAll member filtered
    refine ⟨rules, read, fun rule inside => ?_⟩
    have gone := absent .seccomp (flags.seccomp.clears_rule member read inside) rfl
    exact Config.name_not_mem_of_not_holds gone

/-- A privileged process without one of its capabilities, a variable that is added and removed, no
mount from the default configuration at `/proc`, the network of the host, and a rule for two names
that loses one of them. -/
def removing : GenerateFlags :=
  { (default : GenerateFlags) with
    process := { (default : ProcessFlags) with
      privileged := true
      env := ["A=1"]
      envRemoved := ["A"]
      capabilities := ["cap_sys_admin"]
      capabilitiesDropped := ["sys_admin"] }
    namespaces := { (default : NamespaceFlags) with network := some "host" }
    mounts := { (default : MountFlags) with removed := ["/proc"] }
    seccomp := { (default : SeccompFlags) with
      defaultAction := some "kill"
      rules := ["allow:read,write"]
      rulesRemoved := ["allow:read"] } }

theorem removalsHold_of_build_removing :
    ∃ draft, removing.build default false ⟨[], []⟩ = .ok draft ∧ removing.RemovalsHold draft.config ∧
      "CAP_SYS_ADMIN" ∉ draft.config.process.capabilities ∧
      "CAP_SYS_CHROOT" ∈ draft.config.process.capabilities ∧
      (∀ mount ∈ draft.config.mounts, mount.destination ≠ "/proc") ∧
      draft.config.seccomp = some ⟨"SCMP_ACT_KILL", [], [⟨["write"], "SCMP_ACT_ALLOW", []⟩]⟩ := by
  obtain ⟨draft, done, kept, filter⟩ : ∃ draft, removing.build default false ⟨[], []⟩ = .ok draft ∧
      "CAP_SYS_CHROOT" ∈ draft.config.process.capabilities ∧
      draft.config.seccomp = some ⟨"SCMP_ACT_KILL", [], [⟨["write"], "SCMP_ACT_ALLOW", []⟩]⟩ := by
    refine ⟨_, rfl, ?_, rfl⟩
    decide +kernel
  have removals := removalsHold_of_build done
  have stored : Capability.normalize "sys_admin" = "CAP_SYS_ADMIN" := by decide +kernel
  refine ⟨draft, done, removals, ?_, kept, ?_, filter⟩
  · rw [← stored]
    exact removals.capabilities "sys_admin" List.mem_cons_self
  · exact removals.mounts "/proc" List.mem_cons_self

end GenerateFlags

end OciBundle
