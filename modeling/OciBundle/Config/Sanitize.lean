/-
**Portable configurations.**

* `Config.sanitize`: a configuration without what binds it to a host or raises its rights.
-/

import OciBundle.Config.Update

namespace OciBundle

/-- A process without terminal, groups, rights and labels. -/
def Process.sanitize (process : Process) : Process :=
  { process with
    terminal := false
    user := { process.user with additionalGids := [] }
    capabilities := []
    rlimits := []
    noNewPrivileges := false
    apparmorProfile := ""
    selinuxLabel := ""
    oomScoreAdj := none }

/-- Limits on memory that hold on every kernel. -/
def Memory.sanitize (memory : Memory) : Memory :=
  { memory with disableOomKiller := none, kernel := none, kernelTcp := none, swappiness := none }

/-- Limits on processor time without real time. -/
def Cpu.sanitize (cpu : Cpu) : Cpu :=
  { cpu with realtimeRuntime := none, realtimePeriod := none }

/-- Limits that hold on every kernel. -/
def Resources.sanitize (limits : Resources) : Resources :=
  { limits with
    memory := limits.memory.map Memory.sanitize
    cpu := limits.cpu.map Cpu.sanitize }

/-- Of what is configured for Linux, the limits and the label of mounts. -/
def Linux.sanitize (linux : Linux) : Linux :=
  { linux with
    uidMappings := []
    gidMappings := []
    sysctl := .empty
    cgroupsPath := none
    namespaces := []
    devices := []
    seccomp := none
    rootfsPropagation := ""
    maskedPaths := []
    readonlyPaths := []
    resources := linux.resources.map Resources.sanitize }

/-- The portable part of a configuration. -/
def Config.sanitize (config : Config) : Config :=
  { config with
    process := config.process.sanitize
    root := { path := "rootfs", readonly := false }
    hostname := ""
    mounts := config.mounts.map fun mount => { mount with source := "" }
    linux := config.linux.map Linux.sanitize }

end OciBundle
