/-
**The program.**

* `Invocation.read`: the command that a command line asks for. The flags of the program may stand
  before the command or among its flags; a value among them wins.
* `Settings.find`: the settings, from the file that a flag or the environment names, or from the
  usual place if there is a file.
* `Program.run`: the exit code, the texts that are printed and the file tree afterwards.
-/

import OciBundle.Generate
import OciBundle.RuntimeTest

namespace OciBundle

/-! ### Command lines -/

/-- The flags of the program itself. -/
structure ProgramFlags where
  verbose : Bool
  /-- The file with the settings. -/
  config : Option String
  deriving DecidableEq, Inhabited

namespace ProgramFlags

/-- The flags. -/
def table : List (Flag ProgramFlags) := [
  (Flag.switch "verbose" fun flags => { flags with verbose := true }).withLetter 'v',
  .path "config" fun value flags => { flags with config := some value }]

/-- Flags that are given in two places; the inner ones win. -/
def merge (outer inner : ProgramFlags) : ProgramFlags where
  verbose := outer.verbose || inner.verbose
  config := inner.config <|> outer.config

end ProgramFlags

/-- What is asked of the program. -/
inductive Command where
  | generate (flags : GenerateFlags)
  | validate (flags : ValidateFlags)
  | testRuntime (flags : RuntimeFlags)
  deriving DecidableEq

/-- A command with the flags of the program. -/
structure Invocation where
  flags : ProgramFlags
  command : Command
  deriving DecidableEq

namespace Invocation

/-- Reads the flags of a command, with those of the program among them. -/
def readFlags {σ : Type} [Inhabited σ] (table : List (Flag σ)) (line : List String) :
    Except UsageFault (ProgramFlags × σ) :=
  Flag.readAll
    (Flag.help :: table.map (.within Prod.snd fun flags both => (both.1, flags))
      ++ ProgramFlags.table.map (.within Prod.fst fun flags both => (flags, both.2)))
    (default, default) line

/-- Reads a command and its flags. -/
def readCommand (outer : ProgramFlags) (name : String) (line : List String) :
    Except UsageFault Invocation :=
  match name with
  | "generate" | "gen" => do
    let (inner, flags) ← readFlags GenerateFlags.table line
    return ⟨outer.merge inner, .generate (← flags.check)⟩
  | "validate" => do
    let (inner, flags) ← readFlags ValidateFlags.table line
    return ⟨outer.merge inner, .validate flags⟩
  | "runtime-test" => do
    let (inner, flags) ← readFlags RuntimeFlags.table line
    return ⟨outer.merge inner, .testRuntime (← flags.check)⟩
  | _ => .error .unknownCommand

/-- The names of commands. -/
def commandNames : List String := ["generate", "gen", "validate", "runtime-test", "help"]

/-- What the command that asks for help comes to: it may be followed by the name of a command. -/
def help : List String → UsageFault
  | [] => .helpWanted
  | [name] => if commandNames.contains name then .helpWanted else .unknownCommand
  | _ => .unknownCommand

/-- Reads a command line. -/
def read (line : List String) : Except UsageFault Invocation := do
  let (reading, rest) ← Reading.scan (Flag.help :: ProgramFlags.table) (.start default) line
  match rest with
  | [] => throw .missingCommand
  | "help" :: rest => throw (help rest)
  | name :: rest => readCommand (← reading.settle).options name rest

end Invocation

/-! ### Settings -/

/-- What the program finds around it. -/
structure World where
  host : Host
  tree : FileTree
  programs : Programs
  /-- The file with the settings that the environment names. -/
  settingsPath : Option String
  /-- The name for a container that has none. -/
  containerId : String
  /-- The seconds on the clock when the wait for the stop of a container begins. -/
  clockSecs : Int64

/-- The usual place of the settings. -/
def Settings.usualPath : String := "/etc/runcell/tool.toml"

/-- The settings. A file that is named has to be there. -/
def Settings.find (flags : ProgramFlags) (world : World) : Except Failure Settings :=
  match flags.config <|> world.settingsPath with
  | some path => load world.tree path
  | none =>
    if world.tree.contains usualPath then load world.tree usualPath else .ok default

/-! ### Runs -/

/-- What a run of the program leaves. -/
structure Exit where
  code : Nat
  out : String
  err : String
  tree : FileTree

namespace Failure

/-- The text for a document that cannot be read. -/
def documentText : DocumentFault → String
  | .json .malformed => "the document is malformed"
  | .json .truncated => "the document ends too early"
  | .json .mismatch => "the document holds a value of the wrong kind"
  | .json .unreadable => "the document cannot be read"
  | .settings => "the settings are malformed"

/-- The messages behind the outermost one. -/
def causes (failure : Failure) : List String :=
  failure.messages.tail ++ failure.document.toList.map documentText

/-- The text that reports a failure; several causes are numbered. -/
def report (failure : Failure) : String :=
  "Error: " ++ failure.headline ++ match failure.causes with
    | [] => "\n"
    | [cause] => "\n\nCaused by:\n    " ++ cause ++ "\n"
    | causes =>
      "\n\nCaused by:\n" ++ String.join (causes.zipIdx.map fun (cause, index) =>
        "    " ++ toString index ++ ": " ++ cause ++ "\n")

end Failure

namespace Program

/-- Runs a command with its settings. -/
def execute (command : Command) (settings : Settings) (world : World) : Outcome × FileTree :=
  match command with
  | .generate flags =>
    match flags.run world.host settings.hostSpecific world.tree with
    | .ok (text, after) => (⟨.ok (), text, ""⟩, after)
    | .error failure => (.failed failure, world.tree)
  | .validate flags => (flags.run settings world.host world.tree, world.tree)
  | .testRuntime flags =>
    ((flags.run settings world.tree world.programs world.containerId world.clockSecs).2, world.tree)

/-- Runs an invocation. -/
def perform (invocation : Invocation) (world : World) : Outcome × FileTree :=
  match Settings.find invocation.flags world with
  | .ok settings => execute invocation.command settings world
  | .error failure => (.failed failure, world.tree)

/-- Runs a command line: the exit code is 1 when the command fails, 101 when the program breaks off
and 2 when the line is refused. -/
def run (line : List String) (world : World) : Exit :=
  match Invocation.read line with
  | .error .helpWanted => ⟨0, "", "", world.tree⟩
  | .error _ => ⟨2, "", "", world.tree⟩
  | .ok invocation =>
    let (outcome, tree) := perform invocation world
    match outcome.result with
    | .ok () => ⟨0, outcome.out, outcome.err, tree⟩
    | .error (.failed failure) => ⟨1, outcome.out, outcome.err ++ failure.report, tree⟩
    | .error (.crashed message) => ⟨101, outcome.out, outcome.err ++ message ++ "\n", tree⟩

end Program

end OciBundle
