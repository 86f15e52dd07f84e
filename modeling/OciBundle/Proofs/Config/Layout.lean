/-
**Texts that hold the same configuration.**

Every record of a configuration is read member by member, each member by the layout of its field.
Whoever permutes the members of a text, adds members that no record knows, or writes a null for a
member that is absent, does not change the configuration that the text holds.

* `Config.layout`: what the places of a configuration are read as.
* `Config.ofSource_of_rewrites`: rewritten texts hold the same configuration.
-/

import OciBundle.Config.Basic
import OciBundle.Proofs.Json.Rewriting
import OciBundle.Proofs.Json.Writing

namespace OciBundle

open Json

/-! ### The process -/

def ConsoleSize.layout : Layout :=
  .record [("height", .value), ("width", .value)]

instance : Laid ConsoleSize where
  layout := ConsoleSize.layout
  respects := Record.respects
    (.always rfl <| .always rfl .done)
    (by decide) (by simp [Record.fields])

def User.layout : Layout :=
  .record [("uid", .value), ("gid", .value), ("additionalGids", .list .value), ("username", .value)]

instance : Laid User where
  layout := User.layout
  respects := Record.respects
    (.always rfl <| .always rfl <| .unlessDefault rfl <| .unlessDefault rfl .done)
    (by decide) (by simp [Record.fields])

def Rlimit.layout : Layout :=
  .record [("type", .value), ("hard", .value), ("soft", .value)]

instance : Laid Rlimit where
  layout := Rlimit.layout
  respects := Record.respects
    (.always rfl <| .always rfl <| .always rfl .done)
    (by decide) (by simp [Record.fields])

def Process.layout : Layout :=
  .record [("terminal", .value), ("consoleSize", ConsoleSize.layout), ("user", User.layout),
    ("args", .list .value), ("env", .list .value), ("cwd", .value), ("capabilities", .list .value),
    ("rlimits", .list Rlimit.layout), ("noNewPrivileges", .value), ("apparmorProfile", .value),
    ("oomScoreAdj", .value), ("selinuxLabel", .value)]

instance : Laid Process where
  layout := Process.layout
  respects := Record.respects
    (.unlessDefault rfl <| .ifPresent rfl <| .always rfl <| .always rfl <| .unlessDefault rfl <|
      .always rfl <| .unlessDefault rfl <| .unlessDefault rfl <| .unlessDefault rfl <|
      .unlessDefault rfl <| .ifPresent rfl <| .unlessDefault rfl .done)
    (by decide) (by simp [Record.fields])

/-! ### File systems and hooks -/

def Root.layout : Layout :=
  .record [("path", .value), ("readonly", .value)]

instance : Laid Root where
  layout := Root.layout
  respects := Record.respects
    (.always rfl <| .unlessDefault rfl .done)
    (by decide) (by simp [Record.fields])

def Mount.layout : Layout :=
  .record [("destination", .value), ("type", .value), ("source", .value), ("options", .list .value)]

instance : Laid Mount where
  layout := Mount.layout
  respects := Record.respects
    (.always rfl <| .unlessDefault rfl <| .unlessDefault rfl <| .unlessDefault rfl .done)
    (by decide) (by simp [Record.fields])

def Hook.layout : Layout :=
  .record [("path", .value), ("args", .list .value), ("env", .list .value), ("timeout", .value)]

instance : Laid Hook where
  layout := Hook.layout
  respects := Record.respects
    (.always rfl <| .unlessDefault rfl <| .unlessDefault rfl <| .ifPresent rfl .done)
    (by decide) (by simp [Record.fields])

def Hooks.layout : Layout :=
  .record [("prestart", .list Hook.layout), ("poststart", .list Hook.layout),
    ("poststop", .list Hook.layout)]

instance : Laid Hooks where
  layout := Hooks.layout
  respects := Record.respects
    (.unlessDefault rfl <| .unlessDefault rfl <| .unlessDefault rfl .done)
    (by decide) (by simp [Record.fields])

/-! ### Limits -/

def DeviceRule.layout : Layout :=
  .record [("allow", .value), ("type", .value), ("major", .value), ("minor", .value),
    ("access", .value)]

instance : Laid DeviceRule where
  layout := DeviceRule.layout
  respects := Record.respects
    (.always rfl <| .unlessDefault rfl <| .ifPresent rfl <| .ifPresent rfl <|
      .unlessDefault rfl .done)
    (by decide) (by simp [Record.fields])

def Memory.layout : Layout :=
  .record [("limit", .value), ("reservation", .value), ("swap", .value), ("kernel", .value),
    ("kernelTCP", .value), ("swappiness", .value), ("disableOOMKiller", .value)]

instance : Laid Memory where
  layout := Memory.layout
  respects := Record.respects
    (.ifPresent rfl <| .ifPresent rfl <| .ifPresent rfl <| .ifPresent rfl <| .ifPresent rfl <|
      .ifPresent rfl <| .ifPresent rfl .done)
    (by decide) (by simp [Record.fields])

def Cpu.layout : Layout :=
  .record [("shares", .value), ("quota", .value), ("period", .value), ("realtimeRuntime", .value),
    ("realtimePeriod", .value), ("cpus", .value), ("mems", .value)]

instance : Laid Cpu where
  layout := Cpu.layout
  respects := Record.respects
    (.ifPresent rfl <| .ifPresent rfl <| .ifPresent rfl <| .ifPresent rfl <| .ifPresent rfl <|
      .unlessDefault rfl <| .unlessDefault rfl .done)
    (by decide) (by simp [Record.fields])

def Pids.layout : Layout :=
  .record [("limit", .value)]

instance : Laid Pids where
  layout := Pids.layout
  respects := Record.respects (.always rfl .done) (by decide) (by simp [Record.fields])

def WeightDevice.layout : Layout :=
  .record [("major", .value), ("minor", .value), ("weight", .value), ("leafWeight", .value)]

instance : Laid WeightDevice where
  layout := WeightDevice.layout
  respects := Record.respects
    (.always rfl <| .always rfl <| .ifPresent rfl <| .ifPresent rfl .done)
    (by decide) (by simp [Record.fields])

def ThrottleDevice.layout : Layout :=
  .record [("major", .value), ("minor", .value), ("rate", .value)]

instance : Laid ThrottleDevice where
  layout := ThrottleDevice.layout
  respects := Record.respects
    (.always rfl <| .always rfl <| .always rfl .done)
    (by decide) (by simp [Record.fields])

def BlockIo.layout : Layout :=
  .record [("weight", .value), ("leafWeight", .value), ("weightDevice", .list WeightDevice.layout),
    ("throttleReadBpsDevice", .list ThrottleDevice.layout),
    ("throttleWriteBpsDevice", .list ThrottleDevice.layout),
    ("throttleReadIOPSDevice", .list ThrottleDevice.layout),
    ("throttleWriteIOPSDevice", .list ThrottleDevice.layout)]

instance : Laid BlockIo where
  layout := BlockIo.layout
  respects := Record.respects
    (.ifPresent rfl <| .ifPresent rfl <| .unlessDefault rfl <| .unlessDefault rfl <|
      .unlessDefault rfl <| .unlessDefault rfl <| .unlessDefault rfl .done)
    (by decide) (by simp [Record.fields])

def HugepageLimit.layout : Layout :=
  .record [("pageSize", .value), ("limit", .value)]

instance : Laid HugepageLimit where
  layout := HugepageLimit.layout
  respects := Record.respects
    (.always rfl <| .always rfl .done)
    (by decide) (by simp [Record.fields])

def InterfacePriority.layout : Layout :=
  .record [("name", .value), ("priority", .value)]

instance : Laid InterfacePriority where
  layout := InterfacePriority.layout
  respects := Record.respects
    (.always rfl <| .always rfl .done)
    (by decide) (by simp [Record.fields])

def Network.layout : Layout :=
  .record [("classID", .value), ("priorities", .list InterfacePriority.layout)]

instance : Laid Network where
  layout := Network.layout
  respects := Record.respects
    (.ifPresent rfl <| .unlessDefault rfl .done)
    (by decide) (by simp [Record.fields])

def Resources.layout : Layout :=
  .record [("devices", .list DeviceRule.layout), ("memory", Memory.layout), ("cpu", Cpu.layout),
    ("pids", Pids.layout), ("blockIO", BlockIo.layout), ("hugepageLimits", .list HugepageLimit.layout),
    ("network", Network.layout)]

instance : Laid Resources where
  layout := Resources.layout
  respects := Record.respects
    (.unlessDefault rfl <| .ifPresent rfl <| .ifPresent rfl <| .ifPresent rfl <| .ifPresent rfl <|
      .unlessDefault rfl <| .ifPresent rfl .done)
    (by decide) (by simp [Record.fields])

/-! ### The filter on system calls -/

def ArgCondition.layout : Layout :=
  .record [("index", .value), ("value", .value), ("valueTwo", .value), ("op", .value)]

instance : Laid ArgCondition where
  layout := ArgCondition.layout
  respects := Record.respects
    (.always rfl <| .always rfl <| .unlessDefault rfl <| .always rfl .done)
    (by decide) (by simp [Record.fields])

def SyscallRule.layout : Layout :=
  .record [("names", .list .value), ("action", .value), ("args", .list ArgCondition.layout)]

instance : Laid SyscallRule where
  layout := SyscallRule.layout
  respects := Record.respects
    (.always rfl <| .always rfl <| .unlessDefault rfl .done)
    (by decide) (by simp [Record.fields])

def Seccomp.layout : Layout :=
  .record [("defaultAction", .value), ("architectures", .list .value),
    ("syscalls", .list SyscallRule.layout)]

instance : Laid Seccomp where
  layout := Seccomp.layout
  respects := Record.respects
    (.always rfl <| .unlessDefault rfl <| .unlessDefault rfl .done)
    (by decide) (by simp [Record.fields])

/-! ### Linux -/

def IdMapping.layout : Layout :=
  .record [("hostID", .value), ("containerID", .value), ("size", .value)]

instance : Laid IdMapping where
  layout := IdMapping.layout
  respects := Record.respects
    (.always rfl <| .always rfl <| .always rfl .done)
    (by decide) (by simp [Record.fields])

def Namespace.layout : Layout :=
  .record [("type", .value), ("path", .value)]

instance : Laid Namespace where
  layout := Namespace.layout
  respects := Record.respects
    (.always rfl <| .unlessDefault rfl .done)
    (by decide) (by simp [Record.fields])

def Device.layout : Layout :=
  .record [("path", .value), ("type", .value), ("major", .value), ("minor", .value),
    ("fileMode", .value), ("uid", .value), ("gid", .value)]

instance : Laid Device where
  layout := Device.layout
  respects := Record.respects
    (.always rfl <| .always rfl <| .always rfl <| .always rfl <| .ifPresent rfl <|
      .ifPresent rfl <| .ifPresent rfl .done)
    (by decide) (by simp [Record.fields])

def Linux.layout : Layout :=
  .record [("uidMappings", .list IdMapping.layout), ("gidMappings", .list IdMapping.layout),
    ("sysctl", .dict), ("resources", Resources.layout), ("cgroupsPath", .value),
    ("namespaces", .list Namespace.layout), ("devices", .list Device.layout),
    ("seccomp", Seccomp.layout), ("rootfsPropagation", .value), ("maskedPaths", .list .value),
    ("readonlyPaths", .list .value), ("mountLabel", .value)]

instance : Laid Linux where
  layout := Linux.layout
  respects := Record.respects
    (.unlessDefault rfl <| .unlessDefault rfl <| .unlessDefault rfl <| .ifPresent rfl <|
      .ifPresent rfl <| .unlessDefault rfl <| .unlessDefault rfl <| .ifPresent rfl <|
      .unlessDefault rfl <| .unlessDefault rfl <| .unlessDefault rfl <| .unlessDefault rfl .done)
    (by decide) (by simp [Record.fields])

/-! ### The configuration -/

def Platform.layout : Layout :=
  .record [("os", .value), ("arch", .value)]

instance : Laid Platform where
  layout := Platform.layout
  respects := Record.respects
    (.always rfl <| .always rfl .done)
    (by decide) (by simp [Record.fields])

def Config.layout : Layout :=
  .record [("ociVersion", .value), ("platform", Platform.layout), ("process", Process.layout),
    ("root", Root.layout), ("hostname", .value), ("mounts", .list Mount.layout),
    ("hooks", Hooks.layout), ("annotations", .dict), ("linux", Linux.layout)]

instance : Laid Config where
  layout := Config.layout
  respects := Record.respects
    (.always rfl <| .always rfl <| .always rfl <| .always rfl <| .unlessDefault rfl <|
      .unlessDefault rfl <| .ifPresent rfl <| .unlessDefault rfl <| .ifPresent rfl .done)
    (by decide) (by simp [Record.fields])

/-! ### Texts -/

/-- **Rewritten texts hold the same configuration.** -/
theorem Config.ofSource_of_rewrites {source : Source} {config : Config} {document : Document}
    {text : String} (accepted : Config.ofSource source = .ok config)
    (rewrites : Relation.ReflTransGen (Rewrite Config.layout) (Document.read source).value document)
    (spelled : Spells document text.toList) :
    Config.ofSource (.ofString text) = .ok config := by
  have held := (Document.Whole.keep_eq_ok_iff.mp accepted).1
  rw [Config.ofSource, Document.read_of_spells spelled]
  exact Document.Whole.keep_eq_ok_iff.mpr ⟨Respects.rewrites Laid.respects rewrites held, rfl⟩

/-- Another order, an unknown member inside of a known one, and a null. -/
theorem Config.ofSource_of_rewrites_box :
    Config.ofSource (.ofString
      "\x7b\"root\":\x7b\"note\":true\x7d,\"hooks\":null,\"hostname\":\"box\"\x7d") =
        .ok { (default : Config) with hostname := "box" } := by
  have each (name : String) {value : Document} {chars : List Char} (spelled : Spells value chars) :
      let entry : MemberText := ⟨Quote.token name, Quote.encode name, value, chars⟩
      SpellsName entry.name entry.nameText ∧ Spells entry.value entry.valueText :=
    ⟨spellsName_encode name, spelled⟩
  have hostname := each "hostname" (.string (Quote.spells_encode "box"))
  have root := each "root" (.emptyObject gap_nil)
  have note := each "note" .true
  have noted := each "root"
    (.object (List.forall_mem_singleton.mpr note.1) (List.forall_mem_singleton.mpr note.2))
  have hooks := each "hooks" .null
  have old : Document.read (.ofString "\x7b\"hostname\":\"box\",\"root\":\x7b\x7d\x7d") = _ :=
    Document.read_of_spells <| .object
      (List.forall_mem_cons.mpr ⟨hostname.1, List.forall_mem_singleton.mpr root.1⟩)
      (List.forall_mem_cons.mpr ⟨hostname.2, List.forall_mem_singleton.mpr root.2⟩)
  have accepted : Config.ofSource (.ofString "\x7b\"hostname\":\"box\",\"root\":\x7b\x7d\x7d") =
      .ok { (default : Config) with hostname := "box" } := by
    rw [Config.ofSource, old]
    rfl
  have order : Rewrite Config.layout
      (.object [(Quote.token "hostname", .text (Quote.token "box")),
        (Quote.token "root", .object [] none)] none)
      (.object [(Quote.token "root", .object [] none),
        (Quote.token "hostname", .text (Quote.token "box"))] none) :=
    .permute (.swap _ _ _) (by decide)
  have unknown : Rewrite Root.layout (.object [] none)
      (.object [(Quote.token "note", .bool ⟨.ok true, none⟩)] none) :=
    @Rewrite.insertUnknown _ [] [] "note" _ (by decide) ⟨_, .true⟩
  refine Config.ofSource_of_rewrites accepted ?rewrites <| .object
    (List.forall_mem_cons.mpr ⟨noted.1, List.forall_mem_cons.mpr
      ⟨hooks.1, List.forall_mem_singleton.mpr hostname.1⟩⟩)
    (List.forall_mem_cons.mpr ⟨noted.2, List.forall_mem_cons.mpr
      ⟨hooks.2, List.forall_mem_singleton.mpr hostname.2⟩⟩)
  rw [old]
  refine .tail (.tail (.single order) (@Rewrite.member _ [] _ _ _ _ _ ?known unknown))
    (@Rewrite.insertNull _ [_] _ "hooks" (by decide) (by decide))
  simp

end OciBundle
