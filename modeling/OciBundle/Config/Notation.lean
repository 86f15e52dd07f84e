/-
**The notations of single entries on a command line.**

* `IdMapping.read`: `HOST:CONTAINER:SIZE`.
* `Device.read`: `TYPE:MAJOR:MINOR:PATH` with options `fileMode`, `uid` and `gid` behind it.
* `DeviceValue.read`: `MAJOR:MINOR:VALUE`.
* `Hook.read`: `PATH` with arguments behind it.
* `Mount.readTmpfs`, `Mount.readBind`: `DEST[:OPTIONS]`, `SOURCE:DEST[:OPTIONS]`.
-/

import OciBundle.Config.Linux
import OciBundle.Config.Mount
import OciBundle.Rejection
import OciBundle.Text.Separated

namespace OciBundle

/-- The reason that a field is no number. -/
def notANumber (field : String) : String :=
  Text.quoted field ++ " is not a number"

/-! ### Identity mappings -/

/-- Reads `HOST:CONTAINER:SIZE`. -/
def IdMapping.read (input : String) : Except ParseFault IdMapping :=
  let number (field : String) : Except ParseFault UInt32 :=
    (Word.read field).mapError fun _ => .malformed "id mapping" input (notANumber field)
  match Text.fields ':' input with
  | [host, container, size] => do
    let hostId ← number host
    let containerId ← number container
    let size ← number size
    return { hostId, containerId, size }
  | _ => .error (.malformed "id mapping" input "expected HOST:CONTAINER:SIZE")

/-! ### Devices -/

namespace Device

/-- Reads an option behind a device; `input` is the whole text. -/
def readOption (input : String) (device : Device) (option : String) : Except ParseFault Device :=
  match Text.cut '=' option with
  | none =>
    .error (.malformed "device" input ("option " ++ Text.quoted option ++ " is not KEY=VALUE"))
  | some (key, value) =>
    let known (read : String → Except Numeral.Fault UInt32) : Except ParseFault UInt32 :=
      (read value).mapError fun _ =>
        .malformed "device" input ("bad " ++ key ++ " " ++ Text.quoted value)
    if key = "fileMode" then do
      let mode ← known Word.readOctal
      return { device with fileMode := some mode }
    else if key = "uid" then do
      let uid ← known Word.read
      return { device with uid := some uid }
    else if key = "gid" then do
      let gid ← known Word.read
      return { device with gid := some gid }
    else .error (.unrecognized "device option" key)

/-- Reads `TYPE:MAJOR:MINOR:PATH` with options behind it; the mode is octal, and the last one of
equal options counts. -/
def read (input : String) : Except ParseFault Device :=
  let number (field : String) : Except ParseFault Int64 :=
    (Word.read field).mapError fun _ => .malformed "device" input (notANumber field)
  match Text.fields ':' input with
  | kind :: major :: minor :: path :: options => do
    let major ← number major
    let minor ← number minor
    options.foldlM (readOption input)
      { path, kind, major, minor, fileMode := none, uid := none, gid := none }
  | _ => .error (.malformed "device" input "expected TYPE:MAJOR:MINOR:PATH")

end Device

/-- A value for the block device of two numbers. -/
structure DeviceValue where
  major : Int64
  minor : Int64
  value : UInt64
  deriving DecidableEq

/-- Reads `MAJOR:MINOR:VALUE`; messages call the text by `subject`. -/
def DeviceValue.read (subject input : String) : Except ParseFault DeviceValue :=
  let number {α : Type} [Word α] (field : String) : Except ParseFault α :=
    (Word.read field).mapError fun _ => .malformed subject input (notANumber field)
  match Text.fields ':' input with
  | [major, minor, value] => do
    let major ← number major
    let minor ← number minor
    let value ← number value
    return { major, minor, value }
  | _ => .error (.malformed subject input "expected MAJOR:MINOR:VALUE")

/-! ### Hooks -/

/-- The stages at which hooks run. -/
inductive HookStage where
  | prestart | poststart | poststop
  deriving DecidableEq

namespace HookStage

/-- Reads the name of a stage. -/
def read (name : String) : Except ParseFault HookStage :=
  if name = "prestart" then .ok .prestart
  else if name = "poststart" then .ok .poststart
  else if name = "poststop" then .ok .poststop
  else .error (.unrecognized "hook stage" name)

end HookStage

/-- Reads a path with arguments behind it. -/
def Hook.read (input : String) : Except ParseFault Hook :=
  match Text.fields ':' input with
  | path :: args =>
    if path = "" then .error (.malformed "hook" input "empty path")
    else .ok { path, args, env := [], timeout := none }
  | [] => .error (.malformed "hook" input "empty path")

/-! ### Mounts -/

namespace Mount

/-- The options of a temporary file system when none are given. -/
def defaultTmpfsOptions : List String :=
  ["rw", "noexec", "nosuid", "nodev", "size=65536k"]

/-- Reads `DEST[:OPTIONS]`. -/
def readTmpfs (input : String) : Except ParseFault Mount :=
  let (destination, options) := match Text.cut ':' input with
    | some (destination, options) => (destination, Text.items options)
    | none => (input, defaultTmpfsOptions)
  if destination = "" then .error (.malformed "tmpfs mount" input "empty destination")
  else .ok { destination, kind := "tmpfs", source := "tmpfs", options }

/-- Whether options make a bind mount. -/
def bindsIn (options : List String) : Bool :=
  options.any fun option => option = "bind" || option = "rbind"

/-- Reads `SOURCE:DEST[:OPTIONS]`. Without options the mount is read-only; one that makes it a bind
mount is added at the end. -/
def readBind (input : String) : Except ParseFault Mount :=
  let wrong : ParseFault := .malformed "bind mount" input "expected SOURCE:DEST[:OPTIONS]"
  match Text.cutTwice ':' input with
  | (source, some destination, options) =>
    if source = "" ∨ destination = "" then .error wrong
    else
      let options := match options with
        | some options => Text.items options
        | none => ["ro"]
      let options := if bindsIn options then options else options ++ ["bind"]
      .ok { destination, kind := "bind", source, options }
  | _ => .error wrong

end Mount

end OciBundle
