/-
**Vocabularies: the texts that a configuration may hold in certain places.**

A configuration keeps plain texts, so that one with an unknown word can still be read and checked.

* `Vocabulary`: a finite type whose members have texts, all different.
* `Vocabulary.ofText?_eq_some_iff`: a text is read as the member whose text it is.
* `NamespaceKind`, `SeccompAction`, `SeccompArch`, `SeccompOperator`, `DeviceKind`, `Propagation`,
  `OperatingSystem`: the vocabularies of a configuration.
* `rlimitKinds`: the names of resource limits.
-/

import OciBundle.Text.Quoted

namespace OciBundle

/-- A word outside its vocabulary. -/
structure UnknownWord where
  /-- What messages call the vocabulary. -/
  subject : String
  value : String
  deriving DecidableEq

/-- The text of the fault. -/
def UnknownWord.message (unknown : UnknownWord) : String :=
  "unrecognized " ++ unknown.subject ++ ": " ++ Text.quoted unknown.value

/-- A finite type whose members have texts, all different. -/
class Vocabulary (α : Type) where
  /-- What messages call the vocabulary. -/
  subject : String
  /-- The members in their usual order. -/
  all : List α
  /-- The text of a member. -/
  text : α → String
  mem_all : ∀ word, word ∈ all
  text_injective : ∀ first second, text first = text second → first = second

namespace Vocabulary

variable {α : Type} [Vocabulary α]

/-- The member with a text. -/
def ofText? (value : String) : Option α :=
  (all (α := α)).find? (text · = value)

/-- The member with a text, or the fault. -/
def read (α : Type) [Vocabulary α] (value : String) : Except UnknownWord α :=
  match ofText? value with
  | some word => .ok word
  | none => .error ⟨subject α, value⟩

/-- Whether a text belongs to a vocabulary. -/
def isKnown (α : Type) [Vocabulary α] (value : String) : Bool :=
  (ofText? (α := α) value).isSome

/-- A text is read as the member whose text it is. -/
theorem ofText?_eq_some_iff {value : String} {word : α} :
    ofText? value = some word ↔ text word = value := by
  constructor
  · intro found
    simpa using List.find?_some found
  · rintro rfl
    obtain ⟨other, found⟩ := Option.isSome_iff_exists.mp
      (List.find?_isSome.mpr ⟨word, mem_all word, by simp⟩ :
        ((all (α := α)).find? (text · = text word)).isSome)
    have same : text other = text word := by simpa using List.find?_some found
    rw [ofText?, found, text_injective _ _ same]

end Vocabulary

/-! ### Namespaces -/

/-- The kinds of namespaces. -/
inductive NamespaceKind where
  | pid | network | mount | ipc | uts | user | cgroup
  deriving DecidableEq

/-- The text of a kind of namespace. -/
def NamespaceKind.text : NamespaceKind → String
  | .pid => "pid"
  | .network => "network"
  | .mount => "mount"
  | .ipc => "ipc"
  | .uts => "uts"
  | .user => "user"
  | .cgroup => "cgroup"

instance : Vocabulary NamespaceKind where
  subject := "namespace"
  all := [.pid, .network, .mount, .ipc, .uts, .user, .cgroup]
  text := NamespaceKind.text
  mem_all word := by cases word <;> simp
  text_injective first second equal := by cases first <;> cases second <;> simp_all [NamespaceKind.text]

namespace NamespaceKind

/-- The name of the kind's entry below `/proc/PID/ns`. -/
def procName : NamespaceKind → String
  | .network => "net"
  | .mount => "mnt"
  | kind => kind.text

/-- Reads the text of a kind, or its name below `/proc/PID/ns`. -/
def readName (name : String) : Except UnknownWord NamespaceKind :=
  if name = "net" then .ok .network
  else if name = "mnt" then .ok .mount
  else Vocabulary.read NamespaceKind name

end NamespaceKind

/-! ### System call filters -/

/-- What a filter does with a call. -/
inductive SeccompAction where
  | allow | errno | kill | trace | trap
  deriving DecidableEq

/-- The text of an action. -/
def SeccompAction.text : SeccompAction → String
  | .allow => "SCMP_ACT_ALLOW"
  | .errno => "SCMP_ACT_ERRNO"
  | .kill => "SCMP_ACT_KILL"
  | .trace => "SCMP_ACT_TRACE"
  | .trap => "SCMP_ACT_TRAP"

instance : Vocabulary SeccompAction where
  subject := "seccomp action"
  all := [.allow, .errno, .kill, .trace, .trap]
  text := SeccompAction.text
  mem_all word := by cases word <;> simp
  text_injective first second equal := by cases first <;> cases second <;> simp_all [SeccompAction.text]

/-- The architectures that a filter is made for. -/
inductive SeccompArch where
  | x86 | amd64 | x32 | arm | aarch64 | mips | mips64 | mips64n32 | mipsel | mipsel64 | mipsel64n32
  | ppc | ppc64 | ppc64le | s390 | s390x
  deriving DecidableEq

/-- The text of an architecture. -/
def SeccompArch.text : SeccompArch → String
  | .x86 => "SCMP_ARCH_X86"
  | .amd64 => "SCMP_ARCH_X86_64"
  | .x32 => "SCMP_ARCH_X32"
  | .arm => "SCMP_ARCH_ARM"
  | .aarch64 => "SCMP_ARCH_AARCH64"
  | .mips => "SCMP_ARCH_MIPS"
  | .mips64 => "SCMP_ARCH_MIPS64"
  | .mips64n32 => "SCMP_ARCH_MIPS64N32"
  | .mipsel => "SCMP_ARCH_MIPSEL"
  | .mipsel64 => "SCMP_ARCH_MIPSEL64"
  | .mipsel64n32 => "SCMP_ARCH_MIPSEL64N32"
  | .ppc => "SCMP_ARCH_PPC"
  | .ppc64 => "SCMP_ARCH_PPC64"
  | .ppc64le => "SCMP_ARCH_PPC64LE"
  | .s390 => "SCMP_ARCH_S390"
  | .s390x => "SCMP_ARCH_S390X"

instance : Vocabulary SeccompArch where
  subject := "seccomp architecture"
  all := [.x86, .amd64, .x32, .arm, .aarch64, .mips, .mips64, .mips64n32, .mipsel, .mipsel64,
    .mipsel64n32, .ppc, .ppc64, .ppc64le, .s390, .s390x]
  text := SeccompArch.text
  mem_all word := by cases word <;> simp
  text_injective first second equal := by cases first <;> cases second <;> simp_all [SeccompArch.text]

/-- How a filter compares an argument. -/
inductive SeccompOperator where
  | notEqual | lessThan | lessEqual | equalTo | greaterEqual | greaterThan | maskedEqual
  deriving DecidableEq

/-- The text of an operator. -/
def SeccompOperator.text : SeccompOperator → String
  | .notEqual => "SCMP_CMP_NE"
  | .lessThan => "SCMP_CMP_LT"
  | .lessEqual => "SCMP_CMP_LE"
  | .equalTo => "SCMP_CMP_EQ"
  | .greaterEqual => "SCMP_CMP_GE"
  | .greaterThan => "SCMP_CMP_GT"
  | .maskedEqual => "SCMP_CMP_MASKED_EQ"

instance : Vocabulary SeccompOperator where
  subject := "seccomp operator"
  all := [.notEqual, .lessThan, .lessEqual, .equalTo, .greaterEqual, .greaterThan, .maskedEqual]
  text := SeccompOperator.text
  mem_all word := by cases word <;> simp
  text_injective first second equal := by cases first <;> cases second <;> simp_all [SeccompOperator.text]

/-! ### Devices -/

/-- The kinds of device nodes. -/
inductive DeviceKind where
  | block | char | unbuffered | fifo
  deriving DecidableEq

/-- The text of a kind of device node. -/
def DeviceKind.text : DeviceKind → String
  | .block => "b"
  | .char => "c"
  | .unbuffered => "u"
  | .fifo => "p"

instance : Vocabulary DeviceKind where
  subject := "device type"
  all := [.block, .char, .unbuffered, .fifo]
  text := DeviceKind.text
  mem_all word := by cases word <;> simp
  text_injective first second equal := by cases first <;> cases second <;> simp_all [DeviceKind.text]

namespace DeviceKind

/-- Whether nodes of the kind have device numbers. -/
def requiresNumbers : DeviceKind → Bool
  | .fifo => false
  | _ => true

/-- Whether device numbers fit the kind: both positive, or both zero where there are none. -/
def numbersValid (kind : DeviceKind) (major minor : Int64) : Bool :=
  if kind.requiresNumbers then 0 < major && 0 < minor else major == 0 && minor == 0

end DeviceKind

/-! ### Mount propagation and platforms -/

/-- How mounts spread from and to the root file system. -/
inductive Propagation where
  | unset | isPrivate | rprivate | slave | rslave | shared | rshared | unbindable
  deriving DecidableEq

/-- The text of a propagation; unset is the empty text. -/
def Propagation.text : Propagation → String
  | .unset => ""
  | .isPrivate => "private"
  | .rprivate => "rprivate"
  | .slave => "slave"
  | .rslave => "rslave"
  | .shared => "shared"
  | .rshared => "rshared"
  | .unbindable => "unbindable"

instance : Vocabulary Propagation where
  subject := "rootfs propagation"
  all := [.unset, .isPrivate, .rprivate, .slave, .rslave, .shared, .rshared, .unbindable]
  text := Propagation.text
  mem_all word := by cases word <;> simp
  text_injective first second equal := by cases first <;> cases second <;> simp_all [Propagation.text]

/-- The operating systems that a container may be made for. -/
inductive OperatingSystem where
  | linux | windows | solaris
  deriving DecidableEq

/-- The text of an operating system. -/
def OperatingSystem.text : OperatingSystem → String
  | .linux => "linux"
  | .windows => "windows"
  | .solaris => "solaris"

instance : Vocabulary OperatingSystem where
  subject := "platform os"
  all := [.linux, .windows, .solaris]
  text := OperatingSystem.text
  mem_all word := by cases word <;> simp
  text_injective first second equal := by cases first <;> cases second <;> simp_all [OperatingSystem.text]

/-- The processor architectures of an operating system. -/
def OperatingSystem.architectures : OperatingSystem → List String
  | .linux => ["386", "amd64", "arm", "arm64", "ppc64", "ppc64le", "mips", "mipsle", "mips64",
      "mips64le", "s390x"]
  | .windows => ["386", "amd64"]
  | .solaris => ["amd64"]

/-- The names of resource limits. -/
def rlimitKinds : List String :=
  ["RLIMIT_AS", "RLIMIT_CORE", "RLIMIT_CPU", "RLIMIT_DATA", "RLIMIT_FSIZE", "RLIMIT_LOCKS",
    "RLIMIT_MEMLOCK", "RLIMIT_MSGQUEUE", "RLIMIT_NICE", "RLIMIT_NOFILE", "RLIMIT_NPROC",
    "RLIMIT_RSS", "RLIMIT_RTPRIO", "RLIMIT_RTTIME", "RLIMIT_SIGPENDING", "RLIMIT_STACK"]

/-- The version of the specification that this library follows. -/
def specificationVersion : String := "1.0.0"

end OciBundle
