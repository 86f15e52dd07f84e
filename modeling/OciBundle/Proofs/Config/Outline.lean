/-
**Outlines and written configurations agree.**

The outline of a configuration and its document are made record by record, each with a list of its
own that names the members. Here the two lists of every record are shown to be the same, so the walk
over an outline is a walk over the document.

* `Config.Unseen`: the members that a walk does not come by, the entries of dictionaries and the
  single limits of block devices.
* `Hook.agree`, `Linux.agree`, …: the two lists of each record.
* `Config.outline_describes`: what a walk says about a document.
-/

import OciBundle.Proofs.Outline.Field

namespace OciBundle

open Json (Address encode)
open Outline (Agree agree_record agree_loose address_of_mem_encode flatField_always
  flatField_ifPresent needs allows)

variable {unseen : Address → Prop}

/-! ### The process -/

theorem ConsoleSize.agree (size : ConsoleSize) :
    Agree unseen size.outline.members (encode size).members :=
  agree_record (.needsScalar rfl <| .needsScalar rfl <| .nil) (by simp [needs])

theorem User.agree (user : User) : Agree unseen user.outline.members (encode user).members :=
  agree_record
    (.needsScalar rfl <| .needsScalar rfl <| .allowsValues <| .allowsText <| .nil)
    (by simp [needs, allows])

theorem Rlimit.agree (limit : Rlimit) : Agree unseen limit.outline.members (encode limit).members :=
  agree_record (.needsText <| .needsScalar rfl <| .needsScalar rfl <| .nil) (by simp [needs])

theorem Process.agree (process : Process) :
    Agree unseen process.outline.members (encode process).members :=
  agree_record
    (.allowsScalar <| .allowsPart (fun size => size.agree) <| .needsPart process.user.agree <|
      .needsValues <| .allowsValues <| .needsText <| .allowsValues <|
      .allowsParts (fun _ limit => limit.agree) <| .allowsScalar <| .allowsText <| .allowsOption <|
      .allowsText <| .nil)
    (by simp [needs, allows])

/-! ### File systems and hooks -/

theorem Root.agree (root : Root) : Agree unseen root.outline.members (encode root).members :=
  agree_record (.needsText <| .allowsScalar <| .nil) (by simp [needs, allows])

theorem Mount.agree (mount : Mount) : Agree unseen mount.outline.members (encode mount).members :=
  agree_record (.needsText <| .allowsText <| .allowsText <| .allowsValues <| .nil)
    (by simp [needs, allows])

theorem Hook.agree (hook : Hook) : Agree unseen hook.outline.members (encode hook).members :=
  agree_record (.needsText <| .allowsValues <| .allowsValues <| .allowsOption <| .nil)
    (by simp [needs, allows])

theorem Hooks.agree (hooks : Hooks) : Agree unseen hooks.outline.members (encode hooks).members :=
  agree_record
    (.allowsParts (fun _ hook => hook.agree) <| .allowsParts (fun _ hook => hook.agree) <|
      .allowsParts (fun _ hook => hook.agree) <| .nil)
    (by simp [allows])

/-! ### Limits of control groups -/

theorem DeviceRule.agree (rule : DeviceRule) :
    Agree unseen rule.outline.members (encode rule).members :=
  agree_record
    (.needsScalar rfl <| .allowsText <| .allowsOption <| .allowsOption <| .allowsText <| .nil)
    (by simp [needs, allows])

theorem Memory.agree (memory : Memory) :
    Agree unseen memory.outline.members (encode memory).members :=
  agree_record
    (.allowsOption <| .allowsOption <| .allowsOption <| .allowsOption <| .allowsOption <|
      .allowsOption <| .allowsOption <| .nil)
    (by simp [allows])

theorem Cpu.agree (cpu : Cpu) : Agree unseen cpu.outline.members (encode cpu).members :=
  agree_record
    (.allowsOption <| .allowsOption <| .allowsOption <| .allowsOption <| .allowsOption <|
      .allowsText <| .allowsText <| .nil)
    (by simp [allows])

theorem Pids.agree (pids : Pids) : Agree unseen pids.outline.members (encode pids).members :=
  agree_record (.needsScalar rfl <| .nil) (by simp [needs])

theorem WeightDevice.address_of_mem (device : WeightDevice) :
    ∀ entry ∈ (encode device).members, ∃ key, entry.1 = [.member key] :=
  address_of_mem_encode <| List.forall_mem_cons.mpr ⟨flatField_always,
    List.forall_mem_cons.mpr ⟨flatField_always, List.forall_mem_cons.mpr ⟨flatField_ifPresent,
      List.forall_mem_singleton.mpr flatField_ifPresent⟩⟩⟩

theorem ThrottleDevice.address_of_mem (device : ThrottleDevice) :
    ∀ entry ∈ (encode device).members, ∃ key, entry.1 = [.member key] :=
  address_of_mem_encode <| List.forall_mem_cons.mpr ⟨flatField_always,
    List.forall_mem_cons.mpr ⟨flatField_always, List.forall_mem_singleton.mpr flatField_always⟩⟩

/-- The lists of single block devices, which a walk does not look at. -/
def BlockIo.unseenLists : List String :=
  ["weightDevice", "throttleReadBpsDevice", "throttleWriteBpsDevice", "throttleReadIOPSDevice",
    "throttleWriteIOPSDevice"]

theorem BlockIo.agree (limits : BlockIo)
    (passed : ∀ name ∈ unseenLists, ∀ index key,
      unseen [.member name, .item index, .member key]) :
    Agree unseen limits.outline.members (encode limits).members := by
  have rates (name : String) (known : name ∈ unseenLists) (devices : List ThrottleDevice) :
      Agree (fun address => unseen (.member name :: address)) [] (encode devices).members :=
    agree_loose ThrottleDevice.address_of_mem (passed name known)
  exact agree_record
    (.allowsOption <| .allowsOption <|
      .allowsLoose (agree_loose WeightDevice.address_of_mem (passed _ (by decide))) <|
      .allowsLoose (rates _ (by decide) _) <| .allowsLoose (rates _ (by decide) _) <|
      .allowsLoose (rates _ (by decide) _) <| .allowsLoose (rates _ (by decide) _) <| .nil)
    (by simp [allows])

theorem HugepageLimit.agree (limit : HugepageLimit) :
    Agree unseen limit.outline.members (encode limit).members :=
  agree_record (.needsText <| .needsScalar rfl <| .nil) (by simp [needs])

theorem InterfacePriority.agree (entry : InterfacePriority) :
    Agree unseen entry.outline.members (encode entry).members :=
  agree_record (.needsText <| .needsScalar rfl <| .nil) (by simp [needs])

theorem Network.agree (network : Network) :
    Agree unseen network.outline.members (encode network).members :=
  agree_record (.allowsOption <| .allowsParts (fun _ entry => entry.agree) <| .nil)
    (by simp [allows])

theorem Resources.agree (limits : Resources)
    (passed : ∀ name ∈ BlockIo.unseenLists, ∀ index key,
      unseen [.member "blockIO", .member name, .item index, .member key]) :
    Agree unseen limits.outline.members (encode limits).members :=
  agree_record
    (.allowsParts (fun _ rule => rule.agree) <| .allowsPart (fun memory => memory.agree) <|
      .allowsPart (fun cpu => cpu.agree) <| .allowsPart (fun pids => pids.agree) <|
      .allowsPart (fun limits => limits.agree passed) <|
      .allowsParts (fun _ limit => limit.agree) <| .allowsPart (fun network => network.agree) <|
      .nil)
    (by simp [allows])

/-! ### The filter on system calls -/

theorem ArgCondition.agree (condition : ArgCondition) :
    Agree unseen condition.outline.members (encode condition).members :=
  agree_record (.needsScalar rfl <| .needsScalar rfl <| .allowsScalar <| .needsText <| .nil)
    (by simp [needs, allows])

theorem SyscallRule.agree (rule : SyscallRule) :
    Agree unseen rule.outline.members (encode rule).members :=
  agree_record
    (.needsValues <| .needsText <| .allowsParts (fun _ condition => condition.agree) <| .nil)
    (by simp [needs, allows])

theorem Seccomp.agree (seccomp : Seccomp) :
    Agree unseen seccomp.outline.members (encode seccomp).members :=
  agree_record
    (.needsText <| .allowsValues <| .allowsParts (fun _ rule => rule.agree) <| .nil)
    (by simp [needs, allows])

/-! ### Linux -/

theorem IdMapping.agree (mapping : IdMapping) :
    Agree unseen mapping.outline.members (encode mapping).members :=
  agree_record (.needsScalar rfl <| .needsScalar rfl <| .needsScalar rfl <| .nil)
    (by simp [needs])

theorem Namespace.agree (entry : Namespace) :
    Agree unseen entry.outline.members (encode entry).members :=
  agree_record (.needsText <| .allowsText <| .nil) (by simp [needs, allows])

theorem Device.agree (device : Device) :
    Agree unseen device.outline.members (encode device).members :=
  agree_record
    (.needsText <| .needsText <| .needsScalar rfl <| .needsScalar rfl <| .allowsOption <|
      .allowsOption <| .allowsOption <| .nil)
    (by simp [needs, allows])

theorem Linux.agree (linux : Linux)
    (parameters : ∀ key, unseen [.member "sysctl", .member key])
    (passed : ∀ name ∈ BlockIo.unseenLists, ∀ index key,
      unseen [.member "resources", .member "blockIO", .member name, .item index, .member key]) :
    Agree unseen linux.outline.members (encode linux).members :=
  agree_record
    (.allowsParts (fun _ mapping => mapping.agree) <|
      .allowsParts (fun _ mapping => mapping.agree) <| .allowsDict parameters <|
      .allowsPart (fun limits => limits.agree passed) <| .allowsOption <|
      .allowsParts (fun _ entry => entry.agree) <| .allowsParts (fun _ device => device.agree) <|
      .allowsPart (fun seccomp => seccomp.agree) <| .allowsText <| .allowsValues <|
      .allowsValues <| .allowsText <| .nil)
    (by simp [allows])

/-! ### The configuration -/

theorem Platform.agree (platform : Platform) :
    Agree unseen platform.outline.members (encode platform).members :=
  agree_record (.needsText <| .needsText <| .nil) (by simp [needs])

namespace Config

/-- The members of a document that a walk does not come by: entries of the annotations and of the
kernel parameters, and what is said of single block devices. -/
def Unseen (address : Address) : Prop :=
  (∃ key, address = [.member "annotations", .member key]) ∨
  (∃ key, address = [.member "linux", .member "sysctl", .member key]) ∨
  ∃ name ∈ BlockIo.unseenLists, ∃ index key, address = [.member "linux", .member "resources",
    .member "blockIO", .member name, .item index, .member key]

theorem agree (config : Config) :
    Agree Unseen config.outline.members config.toJson.members :=
  agree_record
    (.needsText <| .needsPart config.platform.agree <| .needsPart config.process.agree <|
      .needsPart config.root.agree <| .allowsText <| .allowsParts (fun _ mount => mount.agree) <|
      .allowsPart (fun hooks => hooks.agree) <| .allowsDict (fun key => .inl ⟨key, rfl⟩) <|
      .allowsPart (fun linux => linux.agree (fun key => .inr (.inl ⟨key, rfl⟩))
        fun name known index key => .inr (.inr ⟨name, known, index, key, rfl⟩)) <|
      .nil)
    (by simp [needs, allows])

variable {config : Config} {member : Outline.Member}

theorem exists_mem_members_iff (inside : member ∈ config.outline.members)
    (shown : member.shape ≠ .scalar) :
    (∃ value, (member.address, value) ∈ config.toJson.members) ↔
      member.presence = .required ∨ member.shape.isEmpty = false := by
  constructor
  · rintro ⟨value, found⟩
    rcases config.agree.allowed member inside _ found rfl with mandatory | scalar | given
    · exact .inl mandatory
    · exact absurd scalar shown
    · exact .inr given
  · intro due
    have written : member.Due := due.imp_right fun given => ⟨shown, given⟩
    obtain ⟨⟨address, value⟩, found, rfl⟩ := config.agree.due member inside written
    exact ⟨value, found⟩

theorem exists_mem_members_of_required (inside : member ∈ config.outline.members)
    (mandatory : member.presence = .required) :
    ∃ value, (member.address, value) ∈ config.toJson.members := by
  obtain ⟨⟨address, value⟩, found, rfl⟩ := config.agree.due member inside (.inl mandatory)
  exact ⟨value, found⟩

/-- A mandatory member is empty exactly when the document has a blank value for it. -/
theorem isEmpty_eq_any_isBlank (inside : member ∈ config.outline.members)
    (mandatory : member.presence = .required) :
    member.shape.isEmpty =
      config.toJson.members.any fun entry => entry.1 = member.address && entry.2.isBlank := by
  have blank := config.agree.blank member inside
  rw [Bool.eq_iff_iff, List.any_eq_true]
  constructor
  · intro empty
    obtain ⟨value, found⟩ := exists_mem_members_of_required inside mandatory
    exact ⟨_, found, by simp [blank _ found rfl mandatory, empty]⟩
  · rintro ⟨entry, found, same⟩
    rw [Bool.and_eq_true, decide_eq_true_iff] at same
    rw [← blank entry found same.1 mandatory]
    exact same.2

theorem missing_eq (config : Config) :
    config.missing = (config.outline.members.filter fun member =>
      member.presence = .required && config.toJson.members.any fun entry =>
        entry.1 = member.address && entry.2.isBlank).map
          fun member => Outline.addressPath "" member.address := by
  rw [missing, Outline.missing, Outline.walk_eq_map_members, List.filter_map, List.map_map]
  refine congrArg (List.map _) (List.filter_congr fun member inside => ?_)
  show (decide (member.presence = .required) && member.shape.isEmpty) = _
  by_cases mandatory : member.presence = .required
  · rw [isEmpty_eq_any_isBlank inside mandatory]
  · rw [decide_eq_false mandatory, Bool.false_and, Bool.false_and]

/-- **The outline and the document of a configuration agree.** A walk comes by the members of the
outline, at the texts of their addresses. A member that is not a scalar is written exactly when it
is mandatory or not empty, and every mandatory scalar is; all other written members are entries of
two dictionaries, or of single block devices; and what is visited is written in the same order. So
the mandatory members that are empty are those with an empty text or list in the document. -/
theorem outline_describes (config : Config) :
    Outline.walk "" config.outline = config.outline.members.map (Outline.Member.visit "") ∧
    (∀ member ∈ config.outline.members,
      (member.shape ≠ .scalar →
        ((∃ value, (member.address, value) ∈ config.toJson.members) ↔
          member.presence = .required ∨ member.shape.isEmpty = false)) ∧
      (member.shape = .scalar → member.presence = .required →
        ∃ value, (member.address, value) ∈ config.toJson.members)) ∧
    (∀ entry ∈ config.toJson.members,
      (∃ member ∈ config.outline.members, member.address = entry.1) ∨ Unseen entry.1) ∧
    ((config.toJson.members.map Prod.fst).filter
      (· ∈ config.outline.members.map Outline.Member.address)).Sublist
        (config.outline.members.map Outline.Member.address) ∧
    config.missing = (config.outline.members.filter fun member =>
      member.presence = .required && config.toJson.members.any fun entry =>
        entry.1 = member.address && entry.2.isBlank).map
          fun member => Outline.addressPath "" member.address := by
  refine ⟨Outline.walk_eq_map_members "" config.outline, fun member inside => ⟨?_, ?_⟩, ?_,
    config.agree.ordered, config.missing_eq⟩
  · exact exists_mem_members_iff inside
  · exact fun _ => exists_mem_members_of_required inside
  · intro entry found
    exact (config.agree.seen entry found).imp_left List.mem_map.mp

end Config

end OciBundle
