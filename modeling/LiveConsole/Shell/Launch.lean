import LiveConsole.Shell.Run
import LiveConsole.Shell.PromptCommand
import LiveConsole.FileTree.Real
import LiveConsole.Text.Quoted
import LiveConsole.Log

/-!
# Launching programs

A program is launched by a list of arguments, the first of which names it: by a path, or by a name that
is looked for along the search path. A file can be launched when it may be run and is a known program,
or a script that names one in its first line. A launch that fails is a system error.
-/
namespace LiveConsole.Shell

/-- The programs that are known by what they do. -/
inductive Known where
  /-- A shell. -/
  | shell (dialect : Dialect)
  /-- A small program that does what the shell's own command of the name does. -/
  | command (name : String)
  /-- The program that launches another one. -/
  | launcher
  deriving DecidableEq, Repr

/-- The known programs by name. -/
def knownPrograms : List (String × Known) :=
  [("bash", .shell .bash), ("sh", .shell .plain), ("dash", .shell .plain), ("env", .launcher),
    ("cat", .command "cat"), ("echo", .command "echo"), ("printf", .command "printf"),
    ("true", .command "true"), ("false", .command "false")]

/-- How the file of a program starts. -/
def programMark : Bytes := [0x7F, 0x45, 0x4C, 0x46]

/-- How a script starts that names its program. -/
def scriptMark : Bytes := encode ['#', '!']

/-- Why a launch fails, as the number of a system error. -/
abbrev ErrorNumber := Nat

/-- The text of a system error. -/
def errorText (number : ErrorNumber) : String :=
  match number with
  | 2 => "No such file or directory"
  | 8 => "Exec format error"
  | 13 => "Permission denied"
  | 20 => "Not a directory"
  | 36 => "File name too long"
  | 40 => "Too many levels of symbolic links"
  | _ => "Unknown error"

/-- The fault of a failed launch. -/
def launchFault (number : ErrorNumber) (program : String) : Fault :=
  .raised (Fault.systemErrorKind number)
    (Fault.systemMessage number (errorText number) (some (Text.quoted program)))

/-- The number of the system error of a walk. -/
def walkError : WalkFault → ErrorNumber
  | .missing => 2
  | .notDirectory => 20
  | .tooManyLinks => 40
  | .tooLong => 36
  | .nullCharacter => 2

/-- What a file is when it is launched. -/
inductive Launchable where
  /-- A known program. -/
  | known (program : Known)
  /-- A script, with its program and at most one argument for it. -/
  | script (program : String) (argument : Option String)

/-- The program that the first line of a script names, and the argument behind it. -/
def scriptProgram (content : Bytes) : Option (String × Option String) :=
  let line := (content.drop 2).takeWhile fun byte => byte ≠ 0x0A
  let chars := (textOf (trimSeparators line)).toList
  let isGap := fun c : Char => c == ' ' || c == '\t'
  match chars.takeWhile (fun c => !isGap c), (chars.dropWhile (fun c => !isGap c)).dropWhile isGap with
  | [], _ => none
  | program, [] => some (String.ofList program, none)
  | program, argument => some (String.ofList program, some (String.ofList argument))

/-- What a path leads to when it is launched. -/
def launchable (system : System) (path : String) : Except ErrorNumber Launchable :=
  match system.tree.locate system.directory path with
  | .error fault => .error (walkError fault)
  | .ok (location, _) =>
    match system.tree.get? location with
    | some (.file _ content true) =>
      if programMark.isPrefixOf content then
        match knownPrograms.lookup (location.getLast?.getD "") with
        | some program => .ok (.known program)
        | none => .error 8
      else if scriptMark.isPrefixOf content then
        match scriptProgram content with
        | some (program, argument) => .ok (.script program argument)
        | none => .error 8
      else .error 8
    | some _ => .error 13
    | none => .error 2

/-- The places where a program is looked for. -/
def searchPaths (system : System) (program : String) : List String :=
  if program.toList.contains '/' then [program]
  else
    let path := (system.environment.get? "PATH").getD "/bin:/usr/bin"
    (Text.splitAt ':' path.toList).map fun directory => String.ofList directory ++ "/" ++ program

/-- The first place where a program can be launched; else the error that counts. -/
def search (system : System) : ErrorNumber → List String → Except ErrorNumber (String × Launchable)
  | error, [] => .error error
  | error, path :: rest =>
    match launchable system path with
    | .ok found => .ok (path, found)
    | .error number =>
      search system (if error = 2 || error = 20 then number else error) rest

/-- What came of a program: its status, what it wrote, and what is outside it afterwards. -/
structure Finished where
  /-- The status; one above 255 stands for an end by a signal. -/
  status : Nat
  /-- What it wrote to its output. -/
  output : Bytes
  /-- What is outside of it. -/
  system : System

/-- What came of a process. -/
def Process.finished (process : Process) : Finished :=
  ⟨process.ending, process.output, process.system⟩

/-- The options of a shell in front of its script: the letters, and what follows them. -/
def shellOptions : List Char → List Bytes → List Char × List Bytes
  | letters, option :: rest =>
    match (textOf option).toList with
    | ['-', '-'] => (letters, rest)
    | '-' :: more =>
      if more.contains 'c' then (letters ++ more, rest) else shellOptions (letters ++ more) rest
    | _ => (letters, option :: rest)
  | letters, [] => (letters, [])

/-- Run a shell with its arguments: a script among them, or else the path of one. -/
def runShell (dialect : Dialect) (system : System) (name : Bytes) (words : List Bytes) : Finished :=
  let start := fun (letters : List Char) (arguments : List Bytes) =>
    ((Process.start dialect system arguments).setLetters letters true).prepare
  let run := fun (process : Process) (script : Bytes) =>
    (if process.isDone then process else process.runScript (textOf script).toList).finished
  match shellOptions [] words with
  | (_, []) => ⟨if (shellOptions [] words).1.contains 'c' then 2 else 0, [], { system with input := [] }⟩
  | (letters, word :: rest) =>
    if letters.contains 'c' then run (start letters (if rest.isEmpty then [name] else rest)) word
    else
      match system.fileAt? (textOf word) with
      | none => ⟨127, [], system⟩
      | some content => run (start letters (word :: rest)) content

/-- Launch a program with arguments, scripts and launchers inside one another up to a depth. -/
def launchWithin : Nat → System → String → List Bytes → Except ErrorNumber Finished
  | 0, _, _, _ => .error 40
  | depth + 1, system, program, arguments => do
    match ← search system 2 (searchPaths system program) with
    | (_, .known (.shell dialect)) => return runShell dialect system (ofText program) arguments
    | (_, .known (.command name)) =>
      return ((Process.start .bash system []).runOwn name arguments).finished
    | (_, .known .launcher) =>
      match arguments with
      | [] => return ⟨0, [], system⟩
      | inner :: rest =>
        match launchWithin depth system (textOf inner) rest with
        | .ok finished => return finished
        | .error number => return ⟨if number = 2 then 127 else 126, [], system⟩
    | (path, .script interpreter argument) =>
      launchWithin depth system interpreter
        ((argument.toList.map ofText) ++ ofText path :: arguments)

/-- How deep scripts and launchers may stand inside one another. -/
def launchDepth : Nat := 6

/-- Whether the words of a command line can be handed to a program: none has a null character. -/
def isPassable (words : List String) : Bool := words.all fun word => !word.toList.contains '\x00'

/-- Launch a command line. -/
def launch (system : System) (words : List String) : Except Fault Finished :=
  match words with
  | [] => .error (.raised "IndexError" "list index out of range")
  | program :: arguments =>
    if !isPassable words then .error PurePath.nullFault
    else
      match launchWithin launchDepth system program (arguments.map ofText) with
      | .ok finished => .ok finished
      | .error number => .error (launchFault number program)

/-- The part of the console that the records of launches come from. -/
def logger : String := "live_shell.line_reader"

/-- The record of a launch that failed. -/
def notLaunched (program : String) (fault : Fault) : LogRecord :=
  ⟨.debug, logger, "Could not run " ++ program ++ ": " ++ fault.message⟩

/-- The text of an output: lenient UTF-8, with every line end a line feed. -/
def outputText (output : Bytes) : String :=
  String.ofList (Text.unifyLineEnds (Text.ofUtf8Lenient output).toList)

/-- What came of a command that reads a line. -/
structure Answer where
  /-- What it printed; nothing when it failed. -/
  text : Option String
  /-- What was noted. -/
  log : List LogRecord
  /-- What is outside of it afterwards. -/
  system : System

/-- Run a command line and take what it prints, unless it fails. -/
def runCommandLine (system : System) (words : List String) : Except Fault Answer :=
  match launch system words with
  | .error fault =>
    if fault.isSystemError then .ok ⟨none, [notLaunched (words.headD "") fault], system⟩
    else .error fault
  | .ok finished =>
    .ok ⟨if finished.status = 0 then some (outputText finished.output) else none, [],
      finished.system⟩

end LiveConsole.Shell
