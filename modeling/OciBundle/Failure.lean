/-
**Why a command fails.**

A failure is a chain of messages, the outermost one first. Where a document cannot be read, the
chain ends before the reason, which is kept as a value.

* `Failure.because`: a failure of a single message.
* `Failure.within`: a failure with a message around it.
* `Breakdown`: how a command does not end well: it fails, or the program breaks off.
-/

import OciBundle.Json.Quote

namespace OciBundle

/-- Why a document cannot be read. -/
inductive DocumentFault where
  /-- A JSON document. -/
  | json (fault : Json.Fault)
  /-- A document of settings. -/
  | settings
  deriving DecidableEq

/-- Why a command fails. -/
structure Failure where
  /-- The messages from the outermost one on. -/
  messages : List String
  /-- What is wrong with the document behind the last message. -/
  document : Option DocumentFault
  deriving DecidableEq

namespace Failure

/-- A failure of a single message. -/
def because (message : String) : Failure := ⟨[message], none⟩

/-- A document that cannot be read. -/
def ofDocument (fault : DocumentFault) : Failure := ⟨[], some fault⟩

/-- A failure with a message around it. -/
def within (message : String) (failure : Failure) : Failure :=
  { failure with messages := message :: failure.messages }

/-- The outermost message. -/
def headline (failure : Failure) : String := failure.messages.headD ""

end Failure

/-- How a command does not end well. -/
inductive Breakdown where
  /-- The command fails for a reason that it reports. -/
  | failed (failure : Failure)
  /-- The program breaks off with a message and does nothing of what is still to be done. -/
  | crashed (message : String)
  deriving DecidableEq

end OciBundle
