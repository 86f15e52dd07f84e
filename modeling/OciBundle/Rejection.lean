/-
**Why an edit is rejected.**

* `ParseFault`: a text that is outside its vocabulary or has the wrong form.
* `Conflict`: a value that the configuration may not hold.
* `Rejection`: all causes, with their texts.
-/

import OciBundle.Vocabulary
import OciBundle.Word

namespace OciBundle

/-- Why a text is not read. -/
inductive ParseFault where
  /-- The text is outside its vocabulary. -/
  | unrecognized (subject token : String)
  /-- The text has the wrong form. -/
  | malformed (subject input reason : String)
  deriving DecidableEq

/-- The text of the fault. -/
def ParseFault.message : ParseFault → String
  | .unrecognized subject token => "unrecognized " ++ subject ++ ": " ++ Text.quoted token
  | .malformed subject input reason =>
    "malformed " ++ subject ++ " " ++ Text.quoted input ++ ": " ++ reason

/-- The word outside its vocabulary. -/
def UnknownWord.toParseFault (unknown : UnknownWord) : ParseFault :=
  .unrecognized unknown.subject unknown.value

/-- Why a configuration may not hold a value. -/
inductive Conflict where
  | relativeCwd (cwd : String)
  | oomScoreOutOfRange (score : Int32)
  | softLimitExceedsHard (kind : String) (soft hard : UInt64)
  | capabilityUnsupported (name : String)
  | hookTimeoutNotPositive (timeout : Int32)
  /-- The kernel takes a few mappings only; `kind` names the identities. -/
  | tooManyIdMappings (kind : String) (limit : Nat)
  | deviceNumbers (path : String) (kind : DeviceKind) (major minor : Int64)
  | relativeDevicePath (path : String)
  | unknownPropagation (unknown : UnknownWord)
  | swappinessOutOfRange (swappiness : UInt64)
  | blockIoWeightOutOfRange (what : String) (weight : UInt16)
  deriving DecidableEq

/-- The text of the conflict. -/
def Conflict.message : Conflict → String
  | .relativeCwd cwd => "cwd " ++ Text.quoted cwd ++ " is not an absolute path"
  | .oomScoreOutOfRange score =>
    "oomScoreAdj " ++ Word.text score ++ " out of range [-1000, 1000]"
  | .softLimitExceedsHard kind soft hard =>
    kind ++ " soft limit " ++ Word.text soft ++ " exceeds hard limit " ++ Word.text hard
  | .capabilityUnsupported name => name ++ " is not supported on the current host"
  | .hookTimeoutNotPositive timeout => "hook timeout must be positive, got " ++ Word.text timeout
  | .tooManyIdMappings kind limit => kind ++ " mappings are limited to " ++ toString limit
  | .deviceNumbers path kind major minor =>
    "device " ++ path ++ " of type " ++ kind.text ++ " has invalid numbers "
      ++ Word.text major ++ ":" ++ Word.text minor
  | .relativeDevicePath path => "device path " ++ Text.quoted path ++ " is not absolute"
  | .unknownPropagation unknown => unknown.message
  | .swappinessOutOfRange swappiness =>
    "swappiness " ++ Word.text swappiness ++ " out of range [0, 100]"
  | .blockIoWeightOutOfRange what weight =>
    what ++ " " ++ Word.text weight ++ " out of range [10, 1000]"

/-- Why an edit is rejected. -/
inductive Rejection where
  | parse (fault : ParseFault)
  | conflict (cause : Conflict)
  deriving DecidableEq

namespace Rejection

/-- The text of the rejection. -/
def message : Rejection → String
  | .parse fault => fault.message
  | .conflict cause => "invalid state: " ++ cause.message

/-- A text outside its vocabulary. -/
def unrecognized (subject token : String) : Rejection :=
  .parse (.unrecognized subject token)

/-- A text of the wrong form. -/
def malformed (subject input reason : String) : Rejection :=
  .parse (.malformed subject input reason)

end Rejection

/-- Takes the result of reading a text. -/
def ParseFault.lift {α : Type} (result : Except ParseFault α) : Except Rejection α :=
  result.mapError .parse

/-- Takes the result of looking up a word. -/
def UnknownWord.lift {α : Type} (result : Except UnknownWord α) : Except Rejection α :=
  result.mapError fun unknown => .parse unknown.toParseFault

end OciBundle
