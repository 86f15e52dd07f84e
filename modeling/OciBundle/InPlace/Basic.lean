/-
**Programs that change a configuration in place.**

A program changes the configuration it is given bit by bit: what it has written stays when it is
rejected later on. Parts that are missing are made before they are written to.

* `InPlace`: the programs; `InPlace.outcome` is the result and the configuration that is left.
* `check`, `demand`, `refuse`: the steps that can be rejected. They write nothing.
* `write`: the step that changes the configuration.
* `makeLinux`, `makeResources`, …: a part is made where it is missing.
* `onLinux`, `onResources`, …: a part is made, and then changed.
-/

import OciBundle.Config.Update
import OciBundle.Rejection

namespace OciBundle

/-- Programs that change a configuration in place and may be rejected on the way. -/
abbrev InPlace (α : Type) := ExceptT Rejection (StateM Config) α

namespace InPlace

variable {α : Type}

/-- The result of a program, and the configuration that it leaves, rejected or not. -/
def outcome (program : InPlace α) (config : Config) : Except Rejection α × Config :=
  program.run.run config

/-- Takes the result of a check. -/
def check (result : Except Rejection α) : InPlace α :=
  ExceptT.mk (pure result)

/-- Goes on only if something is allowed. -/
def demand (allowed : Prop) [Decidable allowed] (rejection : Rejection) : InPlace Unit :=
  check (if allowed then .ok () else .error rejection)

/-- Does not go on if something is wrong. -/
def refuse (wrong : Prop) [Decidable wrong] (rejection : Rejection) : InPlace Unit :=
  check (if wrong then .error rejection else .ok ())

/-- Changes the configuration. -/
def write (change : Config → Config) : InPlace Unit :=
  modify change

/-! ### Parts -/

/-- Makes what is configured for Linux where it is missing. -/
def makeLinux : InPlace Unit :=
  write (·.withLinux id)

/-- Makes the limits where they are missing, and all around them. -/
def makeResources : InPlace Unit := do
  makeLinux
  write (·.mapLinux (·.withResources id))

/-- Makes the filter on system calls where it is missing, and all around it. -/
def makeSeccomp : InPlace Unit := do
  makeLinux
  write (·.mapLinux (·.withSeccomp id))

/-- Makes the hooks where they are missing. -/
def makeHooks : InPlace Unit :=
  write (·.withHooks id)

/-- Makes and changes what is configured for Linux. -/
def onLinux (change : Linux → Linux) : InPlace Unit := do
  makeLinux
  write (·.mapLinux change)

/-- Makes and changes the limits. -/
def onResources (change : Resources → Resources) : InPlace Unit := do
  makeResources
  write (·.mapLinux (·.mapResources change))

/-- Makes and changes the limits on processor time. -/
def onCpu (change : Cpu → Cpu) : InPlace Unit := do
  makeResources
  write (·.mapLinux (·.mapResources (·.withCpu id)))
  write (·.mapLinux (·.mapResources fun limits => { limits with cpu := limits.cpu.map change }))

/-- Makes and changes the limits on memory. -/
def onMemory (change : Memory → Memory) : InPlace Unit := do
  makeResources
  write (·.mapLinux (·.mapResources (·.withMemory id)))
  write (·.mapLinux (·.mapResources fun limits =>
    { limits with memory := limits.memory.map change }))

/-- Makes and changes the limits on block devices. -/
def onBlockIo (change : BlockIo → BlockIo) : InPlace Unit := do
  makeResources
  write (·.mapLinux (·.mapResources (·.withBlockIo id)))
  write (·.mapLinux (·.mapResources (·.mapBlockIo change)))

/-- Makes and changes the settings of network traffic. -/
def onNetwork (change : Network → Network) : InPlace Unit := do
  makeResources
  write (·.mapLinux (·.mapResources (·.withNetwork id)))
  write (·.mapLinux (·.mapResources (·.mapNetwork change)))

/-- Makes and changes the filter on system calls. -/
def onSeccomp (change : Seccomp → Seccomp) : InPlace Unit := do
  makeSeccomp
  write (·.mapLinux (·.mapSeccomp change))

/-- Makes and changes the hooks. -/
def onHooks (change : Hooks → Hooks) : InPlace Unit := do
  makeHooks
  write (·.mapHooks change)

end InPlace

end OciBundle
