import LiveConsole.CommandLine.Run

/-!
# The program

A console over the working directory, as it stands when the program starts. The outer layer reads the
directory, the variables and the input, runs the command line, and writes what came of it. No fresh
process can be started from here, so a restart goes on in the same one.
-/
namespace LiveConsole

/-- The variables that a console looks at. -/
def knownVariables : List String :=
  ["PATH", "HOME", "TMPDIR", "LOGNAME", "USER", "LNAME", "USERNAME", "COLUMNS"]

/-- The known variables that are set. -/
def readVariables : IO (List (String × String)) :=
  knownVariables.filterMapM fun name => return (← IO.getEnv name).map (name, ·)

/-- The programs that command lines can start. -/
def programs : List Change :=
  ["bash", "sh", "cat", "echo", "printf", "true", "false", "env"].map fun name =>
    .file ("/bin/" ++ name) FileTree.usualTraits [] true

/-- The number of levels of a directory that are read. -/
def readDepth : Nat := 8

/-- The size in bytes up to which the content of a file is read. -/
def readSize : UInt64 := 65536

/-- The changes that create what a directory holds; what cannot be looked at is left out. -/
def readEntries : Nat → Array IO.FS.DirEntry → IO (List Change)
  | 0, _ => return []
  | depth + 1, entries => do
    let found ← entries.toList.mapM fun entry => do
      try
        let status ← entry.path.metadata
        let time : Time := status.modified.sec * 1000000000 + status.modified.nsec.toNat
        let path := entry.path.toString
        if status.type == .dir then
          let inner ← readEntries depth (← entry.path.readDir)
          return Change.directory path ⟨time, true, true⟩ :: inner
        else
          let content ←
            if status.byteSize ≤ readSize then (·.toList) <$> IO.FS.readBinFile entry.path
            else pure []
          return [Change.file path ⟨time, true, true⟩ content false]
      catch _ => return []
    return found.flatten

/-- The tree of the working directory, with the programs and the directory for temporary files. -/
def readTree (temporary : String) : IO (FileTree × Location) := do
  let here ← IO.currentDir
  let entries ← readEntries readDepth (← here.readDir)
  let directory := (FileTree.steps here.toString).filter (· ≠ "")
  let start := [.directory here.toString FileTree.usualTraits,
    .directory temporary FileTree.usualTraits]
  return (FileTree.applyAll FileTree.root []
    (start ++ programs ++ entries), directory)

/-- Run a console over the working directory. -/
def runHere (words : List String) : IO CommandLine.Outcome := do
  let bindings ← readVariables
  let temporary := (bindings.lookup "TMPDIR").getD "/tmp"
  let (tree, directory) ← readTree temporary
  let input ← (← IO.getStdin).readToEnd
  let system : Shell.System := ⟨tree, directory, ⟨bindings, none, []⟩, Text.utf8Bytes input⟩
  let machine : Machine :=
    ⟨system, .ofText temporary, ⟨"posix", false⟩, "live-shell", ⟨none, ["live-shell"]⟩, none, [], []⟩
  return CommandLine.run ⟨[], .empty, [], toString⟩ words machine

end LiveConsole

/-- Run the command line, write what came of it, and end with its exit code. -/
def main (words : List String) : IO UInt32 := do
  let outcome ← LiveConsole.runHere words
  IO.print outcome.output
  IO.eprint (outcome.errorOutput ++ outcome.lastWords)
  return outcome.exitCode.toUInt32
