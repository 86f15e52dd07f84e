/-
**Flags about kernel parameters, devices and paths.**

* `LinuxFlags.table`: the flags.
* `LinuxFlags.steps`: what they ask for.
-/

import OciBundle.CommandLine.Reading
import OciBundle.Flags.Step

namespace OciBundle

/-- Flags about kernel parameters, devices and paths. -/
structure LinuxFlags where
  sysctl : List String
  sysctlRemoved : List String
  devices : List String
  devicesRemoved : List String
  rootfsPropagation : Option String
  cgroupsPath : Option String
  mountLabel : Option String
  maskedPaths : List String
  readonlyPaths : List String
  deriving DecidableEq, Inhabited

namespace LinuxFlags

/-- The flags. -/
def table : List (Flag LinuxFlags) := [
  .texts "sysctl" fun value flags => { flags with sysctl := flags.sysctl ++ [value] },
  .texts "sysctl-remove" fun value flags =>
    { flags with sysctlRemoved := flags.sysctlRemoved ++ [value] },
  .texts "device-add" fun value flags => { flags with devices := flags.devices ++ [value] },
  .texts "device-remove" fun value flags =>
    { flags with devicesRemoved := flags.devicesRemoved ++ [value] },
  .text "rootfs-propagation" fun value flags => { flags with rootfsPropagation := some value },
  .text "cgroups-path" fun value flags => { flags with cgroupsPath := some value },
  .text "mount-label" fun value flags => { flags with mountLabel := some value },
  .texts "masked-path" fun value flags =>
    { flags with maskedPaths := flags.maskedPaths ++ [value] },
  .texts "readonly-path" fun value flags =>
    { flags with readonlyPaths := flags.readonlyPaths ++ [value] }]

/-- Reads a device. -/
def readDevice (input : String) : Except Failure Device :=
  (Device.read input).mapError fun fault =>
    (Failure.because fault.message).within ("--device-add " ++ input)

/-- What the flags ask for. -/
def steps (flags : LinuxFlags) : List Step :=
  flags.sysctl.map (fun input =>
      .ofRead (FlagText.readPair "--sysctl" input) fun (key, value) =>
        .edit ("--sysctl " ++ input) (.linux (.addSysctl key value)))
    ++ Step.ofTexts "--sysctl-remove" (.linux ∘ .removeSysctl) flags.sysctlRemoved
    ++ flags.devices.map (fun input =>
      .ofRead (readDevice input) fun device =>
        .edit ("--device-add " ++ input) (.linux (.putDevice device)))
    ++ Step.ofTexts "--device-remove" (.linux ∘ .removeDevice) flags.devicesRemoved
    ++ Step.ofOption "--rootfs-propagation" (.linux ∘ .setRootfsPropagation)
      flags.rootfsPropagation
    ++ Step.ofOption "--cgroups-path" (.linux ∘ .setCgroupsPath) flags.cgroupsPath
    ++ Step.ofOption "--mount-label" (.linux ∘ .setMountLabel) flags.mountLabel
    ++ Step.ofTexts "--masked-path" (.linux ∘ .addMaskedPath) flags.maskedPaths
    ++ Step.ofTexts "--readonly-path" (.linux ∘ .addReadonlyPath) flags.readonlyPaths

end LinuxFlags

end OciBundle
