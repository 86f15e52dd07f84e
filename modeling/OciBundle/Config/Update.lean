/-
**Changes of the optional parts of a configuration.**

A change `with…` makes the part where it is missing; a change `map…` leaves a configuration without
the part alone.
-/

import OciBundle.Config.Basic

namespace OciBundle

namespace Resources

/-- Changes the limits on memory, which are made where they are missing. -/
def withMemory (change : Memory → Memory) (limits : Resources) : Resources :=
  { limits with memory := some (change (limits.memory.getD default)) }

/-- Changes the limits on processor time, which are made where they are missing. -/
def withCpu (change : Cpu → Cpu) (limits : Resources) : Resources :=
  { limits with cpu := some (change (limits.cpu.getD default)) }

/-- Changes the limits on block devices, which are made where they are missing. -/
def withBlockIo (change : BlockIo → BlockIo) (limits : Resources) : Resources :=
  { limits with blockIo := some (change (limits.blockIo.getD default)) }

/-- Changes the limits on block devices where there are some. -/
def mapBlockIo (change : BlockIo → BlockIo) (limits : Resources) : Resources :=
  { limits with blockIo := limits.blockIo.map change }

/-- Changes the settings of network traffic, which are made where they are missing. -/
def withNetwork (change : Network → Network) (limits : Resources) : Resources :=
  { limits with network := some (change (limits.network.getD default)) }

/-- Changes the settings of network traffic where there are some. -/
def mapNetwork (change : Network → Network) (limits : Resources) : Resources :=
  { limits with network := limits.network.map change }

end Resources

namespace Linux

/-- Changes the limits, which are made where they are missing. -/
def withResources (change : Resources → Resources) (linux : Linux) : Linux :=
  { linux with resources := some (change (linux.resources.getD default)) }

/-- Changes the limits where there are some. -/
def mapResources (change : Resources → Resources) (linux : Linux) : Linux :=
  { linux with resources := linux.resources.map change }

/-- Changes the filter on system calls, which is made where it is missing. -/
def withSeccomp (change : Seccomp → Seccomp) (linux : Linux) : Linux :=
  { linux with seccomp := some (change (linux.seccomp.getD default)) }

/-- Changes the filter on system calls where there is one. -/
def mapSeccomp (change : Seccomp → Seccomp) (linux : Linux) : Linux :=
  { linux with seccomp := linux.seccomp.map change }

end Linux

namespace Config

/-- Changes what is configured for Linux, which is made where it is missing. -/
def withLinux (change : Linux → Linux) (config : Config) : Config :=
  { config with linux := some (change (config.linux.getD default)) }

/-- Changes what is configured for Linux where there is something. -/
def mapLinux (change : Linux → Linux) (config : Config) : Config :=
  { config with linux := config.linux.map change }

/-- Changes the hooks, which are made where they are missing. -/
def withHooks (change : Hooks → Hooks) (config : Config) : Config :=
  { config with hooks := some (change (config.hooks.getD default)) }

/-- Changes the hooks where there are some. -/
def mapHooks (change : Hooks → Hooks) (config : Config) : Config :=
  { config with hooks := config.hooks.map change }

/-- Changes the process. -/
def mapProcess (change : Process → Process) (config : Config) : Config :=
  { config with process := change config.process }

end Config

end OciBundle
