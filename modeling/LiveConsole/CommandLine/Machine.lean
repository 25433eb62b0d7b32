import LiveConsole.CommandLine.Merge
import LiveConsole.Options.Restart
import LiveConsole.Reader
import LiveConsole.Replacement
import LiveConsole.Shell.Launch
import LiveConsole.Starter.Run

/-!
# The machine that a console runs on

A console started from the command line reads its lines through a shell, from the input that all its
read loops share; it keeps a history file, and it asks the machine to replace the process when it
restarts.
-/
namespace LiveConsole

/-- A notice for those who look after the console. -/
inductive Notice where
  /-- A record of what happened. -/
  | record (entry : LogRecord)
  /-- A remark on a program that was run. -/
  | remark (oddity : Program.Remark)

namespace Notice

/-- The name that programs typed in are known by. -/
def programName : String := "<live-shell>"

/-- The line that a notice is written as, if it is written: remarks always are. -/
def line? (debugging : Bool) : Notice → Option String
  | .record entry => if entry.isWritten debugging then some entry.line else none
  | .remark oddity => some s!"{programName}:{oddity.line}: SyntaxWarning: {oddity.text}\n"

end Notice

/-- What asks for lines: the shell that reads them and the history file that it keeps. -/
structure Prompter where
  /-- The history file. -/
  history : PurePath
  /-- The shell. -/
  shell : String
  deriving DecidableEq, Repr

namespace Prompter

/-- What reading changes: what is outside of the shell, and the notices. -/
structure Tape where
  /-- What is outside of the shell. -/
  system : Shell.System
  /-- The notices, the earliest first. -/
  log : List Notice

/-- The command line that reads one line. -/
def command (prompter : Prompter) (prompt : String) : List String :=
  Shell.promptCommand prompt prompter.history.text prompter.shell

/-- The text of one run of the command that reads a line. -/
def source (prompter : Prompter) : Reader.Source Tape := fun prompt tape =>
  match Shell.runCommandLine tape.system (prompter.command prompt) with
  | .ok answer => (answer.text, ⟨answer.system, tape.log ++ answer.log.map .record⟩)
  | .error _ => (none, tape)

/-- Read one logical line; a prompt that no command line can hold is a fault. -/
def read (prompter : Prompter) (prompt : String) (tape : Tape) : Except Fault String × Tape :=
  if !Shell.isPassable (prompter.command prompt) then (.error PurePath.nullFault, tape)
  else
    let (line, tape) := Reader.readLine prompter.source prompt (tape.system.input.length + 1) tape
    (Reader.orUnfinished line, tape)

end Prompter

/-- The machine that a console runs on. -/
structure Machine where
  /-- The files, the working directory, the variables, and the input still to be read. -/
  system : Shell.System
  /-- The directory for temporary files. -/
  temporary : PurePath
  /-- The platform. -/
  platform : Replacement.Platform
  /-- The interpreter that a fresh process is started with. -/
  interpreter : String
  /-- How the process was told which program to run. -/
  invocation : Options.Invocation
  /-- The fault that replacing the process raises, if it does. -/
  replacementFault : Option Fault
  /-- The command lines by which the process was to be replaced. -/
  replacements : List (List String)
  /-- The notices, the earliest first. -/
  log : List Notice

namespace Machine

/-- What checks of options look at. -/
def place (machine : Machine) : Place :=
  ⟨machine.system.environment, machine.system.tree, machine.system.directory⟩

/-- Take note of records. -/
def noteAll (records : List LogRecord) (machine : Machine) : Machine :=
  { machine with log := machine.log ++ records.map .record }

/-- Take note of a remark on a program. -/
def noteRemark (remark : Program.Remark) (machine : Machine) : Machine :=
  { machine with log := machine.log ++ [.remark remark] }

/-- Build what asks for lines in a session in the working directory. -/
def buildPrompter (prompt : String) (machine : Machine) : Except Fault Prompter := do
  let { environment, tree, directory, .. } := machine.system
  let session := Session.create environment machine.temporary directory prompt none
  return ⟨session.history, ← Shell.findShell environment tree directory none⟩

/-- Watch a path. -/
def arm (path : String) (machine : Machine) : Except Fault Watch × Machine :=
  let { environment, tree, directory, .. } := machine.system
  match Watch.arm environment tree directory path with
  | .error fault => (.error fault, machine)
  | .ok watch =>
    (.ok watch, machine.noteAll (watch.lookRecords tree directory ++ [watch.watching]))

/-- Look whether the path under watch has changed. -/
def look (watch : Watch) (machine : Machine) : Bool × Machine :=
  let { tree, directory, .. } := machine.system
  (watch.hasChanged tree directory, machine.noteAll (watch.lookRecords tree directory))

/-- The fault of a prompt with codes that belong to no character. -/
def unspeakable : Fault := .raised "UnicodeEncodeError" ""

/-- Read one line. -/
def read (prompter : Prompter) (prompt : String) (machine : Machine) :
    Except Fault String × Machine :=
  let (line, tape) := prompter.read prompt ⟨machine.system, machine.log⟩
  (line, { machine with system := tape.system, log := tape.log })

/-- Try to replace the process by a fresh one, given by its command line. -/
def replace (command : List String) (machine : Machine) : Except Fault Unit × Machine :=
  let attempt := Replacement.attempt machine.platform command machine.replacementFault
  let replacements := machine.replacements ++ if attempt.called then [command] else []
  (attempt.result, { machine with replacements }.noteAll attempt.log)

/-- What a starter needs, on this kind of machine. -/
def surroundings (options : Options) (installed : List String) (showIdent : Ident → String) :
    Starter.Surroundings Prompter Machine where
  options
  installed
  build machine := (machine.buildPrompter options.prompt, machine)
  arm := arm
  read prompter prompt machine :=
    if options.asksWell then Machine.read prompter prompt machine else (.error unspeakable, machine)
  changed := look
  interpreter := Machine.interpreter
  program machine := Options.programWords machine.place machine.invocation
  replace := replace
  note record := noteAll [record]
  present _ _ _ machine := machine
  finish _ _ machine := machine
  sharesOutput := true
  showIdent
  rounds machine := machine.system.input.length + 2
  loops machine := machine.system.input.length + 2
  remark := noteRemark

end Machine

end LiveConsole
