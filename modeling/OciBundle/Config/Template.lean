/-
**The default configuration.**

* `Template.process`, `Template.mounts`, …: what does not depend on the host.
* `Config.template`: a container that runs a shell without special rights, on the host's platform.
-/

import OciBundle.Capability
import OciBundle.Config.Basic

namespace OciBundle

namespace Template

/-- The hostname of the default configuration. -/
def hostname : String := "runcell"

/-- The environment of the default configuration. -/
def env : List String :=
  ["PATH=/usr/local/sbin:/usr/local/bin:/usr/sbin:/usr/bin:/sbin:/bin", "TERM=xterm"]

/-- The process of the default configuration. -/
def process : Process :=
  { (default : Process) with
    args := ["sh"]
    env := env
    cwd := "/"
    capabilities := Capability.defaults
    rlimits := [{ kind := "RLIMIT_NOFILE", hard := 1024, soft := 1024 }]
    noNewPrivileges := true }

/-- The mounts of the default configuration. -/
def mounts : List Mount := [
  { destination := "/proc", kind := "proc", source := "proc", options := [] },
  { destination := "/dev", kind := "tmpfs", source := "tmpfs",
    options := ["nosuid", "strictatime", "mode=755", "size=65536k"] },
  { destination := "/dev/pts", kind := "devpts", source := "devpts",
    options := ["nosuid", "noexec", "newinstance", "ptmxmode=0666", "mode=0620", "gid=5"] },
  { destination := "/dev/shm", kind := "tmpfs", source := "shm",
    options := ["nosuid", "noexec", "nodev", "mode=1777", "size=65536k"] },
  { destination := "/dev/mqueue", kind := "mqueue", source := "mqueue",
    options := ["nosuid", "noexec", "nodev"] },
  { destination := "/sys", kind := "sysfs", source := "sysfs",
    options := ["nosuid", "noexec", "nodev", "ro"] }]

/-- The namespaces of the default configuration. -/
def namespaces : List Namespace :=
  [NamespaceKind.pid, .network, .ipc, .uts, .mount].map fun kind =>
    { kind := kind.text, path := "" }

/-- The paths that the default configuration hides. -/
def maskedPaths : List String :=
  ["/proc/acpi", "/proc/asound", "/proc/kcore", "/proc/keys", "/proc/latency_stats",
    "/proc/timer_list", "/proc/timer_stats", "/proc/sched_debug", "/sys/firmware"]

/-- The paths that the default configuration protects from writing. -/
def readonlyPaths : List String :=
  ["/proc/bus", "/proc/fs", "/proc/irq", "/proc/sys", "/proc/sysrq-trigger", "/proc/scsi"]

/-- What the default configuration says for Linux. -/
def linux : Linux :=
  { (default : Linux) with
    resources := some { (default : Resources) with
      devices := [{ allow := false, kind := "a", major := none, minor := none, access := "rwm" }] }
    namespaces := namespaces
    maskedPaths := maskedPaths
    readonlyPaths := readonlyPaths }

end Template

/-- The default configuration on a host. -/
def Config.template (host : Host) : Config where
  version := specificationVersion
  platform := { os := host.os, arch := host.arch }
  process := Template.process
  root := { path := "rootfs", readonly := true }
  hostname := Template.hostname
  mounts := Template.mounts
  hooks := none
  annotations := .empty
  linux := some Template.linux

end OciBundle
