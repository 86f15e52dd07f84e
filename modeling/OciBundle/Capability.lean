/-
**Capabilities: the rights of a process on Linux.**

A capability is stored in upper case with `CAP_` in front.

* `Capability.all`: the known capabilities in the kernel's order.
* `Capability.supportedBy`: those of them that a host supports.
* `Capability.available`, `Capability.isSupported`: what a configuration can have that may be made
  for a host.
* `Capability.normalize`: the stored form of a name.
* `Capability.check`: whether a stored name is a capability.
-/

import OciBundle.Host
import OciBundle.Rejection
import OciBundle.Text.Blank
import OciBundle.Text.Separated
import OciBundle.Text.Uppercase

namespace OciBundle.Capability

/-- The known capabilities in the kernel's order. -/
def all : List String :=
  ["CAP_CHOWN", "CAP_DAC_OVERRIDE", "CAP_DAC_READ_SEARCH", "CAP_FOWNER", "CAP_FSETID", "CAP_KILL",
    "CAP_SETGID", "CAP_SETUID", "CAP_SETPCAP", "CAP_LINUX_IMMUTABLE", "CAP_NET_BIND_SERVICE",
    "CAP_NET_BROADCAST", "CAP_NET_ADMIN", "CAP_NET_RAW", "CAP_IPC_LOCK", "CAP_IPC_OWNER",
    "CAP_SYS_MODULE", "CAP_SYS_RAWIO", "CAP_SYS_CHROOT", "CAP_SYS_PTRACE", "CAP_SYS_PACCT",
    "CAP_SYS_ADMIN", "CAP_SYS_BOOT", "CAP_SYS_NICE", "CAP_SYS_RESOURCE", "CAP_SYS_TIME",
    "CAP_SYS_TTY_CONFIG", "CAP_MKNOD", "CAP_LEASE", "CAP_AUDIT_WRITE", "CAP_AUDIT_CONTROL",
    "CAP_SETFCAP", "CAP_MAC_OVERRIDE", "CAP_MAC_ADMIN", "CAP_SYSLOG", "CAP_WAKE_ALARM",
    "CAP_BLOCK_SUSPEND", "CAP_AUDIT_READ", "CAP_PERFMON", "CAP_BPF", "CAP_CHECKPOINT_RESTORE"]

/-- The capabilities of a container that is not privileged. -/
def defaults : List String :=
  ["CAP_CHOWN", "CAP_DAC_OVERRIDE", "CAP_FSETID", "CAP_FOWNER", "CAP_MKNOD", "CAP_NET_RAW",
    "CAP_SETGID", "CAP_SETUID", "CAP_SETFCAP", "CAP_SETPCAP", "CAP_NET_BIND_SERVICE",
    "CAP_SYS_CHROOT", "CAP_KILL", "CAP_AUDIT_WRITE"]

/-- The known capabilities that a host supports, in the kernel's order. -/
def supportedBy (host : Host) : List String :=
  all.filter fun name => host.capabilities.contains name

/-- All capabilities that a configuration can have: those that the host supports which it is made
for, or else the known ones. -/
def available : Option Host → List String
  | some host => supportedBy host
  | none => all

/-- Whether the host supports a capability which a configuration is made for, if it is for one. -/
def isSupported (name : String) (host : Option Host) : Bool :=
  host.all fun host => (supportedBy host).contains name

@[simp] theorem isSupported_none (name : String) : isSupported name none = true := rfl

/-- Whether a stored name is a known capability. -/
def isKnown (name : String) : Bool := all.contains name

/-- The stored form of a name: without blanks around it, in upper case, with `CAP_` in front. -/
def normalize (name : String) : String :=
  let upper := Text.uppercase (Text.trim name)
  if Text.startsWith "CAP_" upper then upper else "CAP_" ++ upper

/-- Checks a stored name; the host that a configuration is made for has to support it, too. -/
def check (name : String) (host : Option Host) : Except Rejection Unit :=
  if ¬ Text.startsWith "CAP_" name then
    .error (.malformed "capability" name "must start with CAP_")
  else if ¬ isKnown name then .error (.unrecognized "capability" name)
  else if ¬ isSupported name host then
    .error (.conflict (.capabilityUnsupported name))
  else .ok ()

end OciBundle.Capability
