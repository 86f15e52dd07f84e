/-
**The command line of the program.**

The files that a command looks at are read into a finite file tree first; the program runs on that
tree, and the file it has written is written out. Nodes are told apart by reading them, so that
devices are not compared here, and no other program is called: every runtime counts as absent.
-/

import OciBundle.Program

namespace OciBundle.Main

/-- What is at a path of the system; nothing if it cannot be read. -/
def look (path : String) : IO (Option Node) := do
  try
    let bytes ← IO.FS.readBinFile path
    return some (.file (.ofBytes bytes.toList))
  catch
    | .inappropriateType _ code _ => return if code = 21 then some .directory else none
    | _ => return none

/-- The tree with the nodes on the way along components from a place on. -/
def observeFrom (tree : FileTree) (place : List String) : List String → IO FileTree
  | [] => return tree
  | name :: rest => do
    if name = "" ∨ name = "." then observeFrom tree place rest
    else if name = ".." then observeFrom tree place.dropLast rest
    else
      let place := place ++ [name]
      if (tree.node? place).isSome then observeFrom tree place rest
      else
        match ← look ("/" ++ "/".intercalate place) with
        | some node => observeFrom (tree.put place node) place rest
        | none => return tree

/-- The tree with the nodes on the way of a path. -/
def observe (tree : FileTree) (path : String) : IO FileTree :=
  observeFrom tree (tree.start path) (Text.fields '/' path)

/-- The tree with what the rules about a bundle look at. -/
def observeBundle (tree : FileTree) (path : String) : IO FileTree := do
  let tree ← observe tree (Path.join path "config.json")
  match Bundle.load tree path none with
  | .ok bundle => bundle.lookups.foldlM observe tree
  | .error _ => return tree

/-- The tree with what a command looks at. -/
def observeCommand (tree : FileTree) : Command → IO FileTree
  | .generate flags => (flags.template.toList ++ flags.output.toList).foldlM observe tree
  | .validate flags => observeBundle tree flags.path
  | .testRuntime flags => observeBundle tree (flags.bundle.getD "")

/-- The capabilities of the running kernel, which tells the number of the last one. -/
def kernelCapabilities : IO (List String) := do
  try
    let last ← IO.FS.readFile "/proc/sys/kernel/cap_last_cap"
    return Capability.all.take ((Text.trim last).toNat?.elim 0 (· + 1))
  catch
    | _ => return []

/-- A world in which nothing is found; the program is built for Linux on a usual processor. -/
def emptyWorld : World where
  host := { os := "linux", arch := "amd64", capabilities := [] }
  tree := ⟨[], []⟩
  programs := fun _ _ => .unavailable .notFound
  settingsPath := none
  containerId := "runcell-tool"
  clockSecs := 0

/-- What is around the program when it runs an invocation. -/
def surroundings (invocation : Invocation) : IO World := do
  let settingsPath ← IO.getEnv "RUNCELL_TOOL_CONFIG"
  let directory := (← IO.currentDir).toString
  let here := (Text.fields '/' directory).filter (· ≠ "")
  let tree ← observe ⟨[], []⟩ directory
  let tree : FileTree := { tree with here }
  let tree ← observe tree ((invocation.flags.config <|> settingsPath).getD Settings.usualPath)
  return { emptyWorld with
    host := { emptyWorld.host with capabilities := ← kernelCapabilities }
    tree := ← observeCommand tree invocation.command
    settingsPath
    clockSecs := Int64.ofNat ((← IO.monoMsNow) / 1000) }

/-- The path of the file that a command writes. -/
def output? : Command → Option String
  | .generate flags => flags.output
  | _ => none

/-- Prints what a run has left, and writes its file. -/
def deliver (invocation? : Option Invocation) (exit : Exit) : IO UInt32 := do
  if exit.code = 0 then
    if let some path := invocation?.bind fun invocation => output? invocation.command then
      IO.FS.writeFile path ((exit.tree.readText path).toOption.getD "")
  (← IO.getStdout).putStr exit.out
  (← IO.getStderr).putStr exit.err
  return UInt32.ofNat exit.code

/-- Runs a command line. -/
def run (line : List String) : IO UInt32 := do
  match Invocation.read line with
  | .ok invocation =>
    deliver (some invocation) (Program.run line (← surroundings invocation))
  | .error _ =>
    deliver none (Program.run line emptyWorld)

end OciBundle.Main

/-- Runs the program. -/
def main (line : List String) : IO UInt32 := OciBundle.Main.run line
