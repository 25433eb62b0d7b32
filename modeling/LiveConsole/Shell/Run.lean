import LiveConsole.Shell.Builtin

/-!
# Running scripts

The commands of a line run one after another, each under its condition. A command is looked for among
the functions of the shell and then among its own commands. A failure ends the shell if it is told so,
but not in front of a command that depends on it. A function that calls itself without end is ended by a
signal.
-/
namespace LiveConsole.Shell.Process

/-- Whether a redirection takes what is written to the output away from it. -/
def takesOutput (redirection : Redirection) : Bool :=
  redirection.descriptor == 1 &&
    !(redirection.toOutput && redirection.target == [.char '1' .none])

/-- The assignments in front of a command, and its other words. -/
def splitAssignments : List (List Mark) → List (String × List Mark) × List (List Mark)
  | [] => ([], [])
  | word :: rest =>
    match assignment? word with
    | none => ([], word :: rest)
    | some entry =>
      let (others, words) := splitAssignments rest
      (entry :: others, words)

/-- Set variables to the values that words expand to, each seeing those before it. -/
def assignAll (process : Process) (assignments : List (String × List Mark)) : Process :=
  assignments.foldl
    (fun process entry => process.setVariable entry.1 (expandWhole process.scope entry.2)) process

/-- Send what was written since to a file, or drop it. -/
def redirectOutput (process : Process) (kept : Bytes) (redirections : List Redirection) : Process :=
  match redirections.find? takesOutput with
  | none => process
  | some redirection =>
    let written := process.output.drop kept.length
    let process := { process with output := kept }
    if redirection.toOutput then process
    else
      match process.system.writeFile? (textOf (expandWhole process.scope redirection.target)) written with
      | some system => { process with system }
      | none => process

/-- Whether a command runs after a status. -/
def runsAfter (condition : Condition) (status : Nat) : Bool :=
  match condition with
  | .always => true
  | .onSuccess => status == 0
  | .onFailure => status != 0

/-- End the shell after a failure, if it is told so and nothing depends on the failure. -/
def stopOnFailure (process : Process) (shielded : Bool) : Process :=
  if process.manner.stops && !shielded && process.status != 0 && process.left.isNone then
    process.leave process.status
  else process

/-- The commands that run another one which is no function. -/
def passingCommands : List String := ["builtin", "command"]

/-- The commands of the standard that no function may take the name of, where the standard counts. -/
def specialCommands : List String :=
  [".", ":", "break", "continue", "eval", "exec", "exit", "export", "readonly", "return", "set",
    "shift", "source", "times", "trap", "unset"]

/-- Define a function. -/
def define (process : Process) (name : String) (body : Command) : Process :=
  if process.manner.strict && specialCommands.contains name then process.leave 2
  else { process with functions := (name, body) :: process.functions, status := 0 }

/-- What stays of an isolated group: its output, what it changed outside, and its status. -/
def comeBack (before after : Process) : Process :=
  { before with system := after.system, output := after.output, status := after.ending }

/-- Leave a function or a file. -/
def stepOut (before after : Process) : Process :=
  { after.setAll after.hidden with
    inside := before.inside
    returned := false
    hidden := before.hidden }

mutual

/-- Run commands in order; in a shielded place no failure ends the shell. -/
def runSteps : Nat → Bool → Process → Steps → Process
  | 0, _, process, _ => process.leave signalled
  | _, _, process, [] => process
  | fuel + 1, shielded, process, (condition, command) :: rest =>
    if process.isDone then process
    else if runsAfter condition process.status then
      let depended := rest.head?.any fun step => step.1 ≠ .always
      let done := runCommand fuel (shielded || depended) process command
      runSteps fuel shielded (done.stopOnFailure (shielded || depended)) rest
    else runSteps fuel shielded process rest

/-- Run a command. -/
def runCommand : Nat → Bool → Process → Command → Process
  | 0, _, process, _ => process.leave signalled
  | _, _, process, .define name body => process.define name body
  | fuel + 1, shielded, process, .group isolated body redirections =>
    let done := runSteps fuel shielded process body
    (if isolated then process.comeBack done else done).redirectOutput process.output redirections
  | fuel + 1, shielded, process, .simple words redirections =>
    let (assignments, words) := splitAssignments words
    match words.flatMap (expand process.scope) with
    | [] => ((process.assignAll assignments).finish 0).redirectOutput process.output redirections
    | name :: arguments =>
      let before := assignments.map fun entry => (entry.1, process.value entry.1)
      let done := call fuel shielded (process.assignAll assignments) (textOf name) arguments
      (done.setAll before).redirectOutput process.output redirections

/-- Run a command by its name and its arguments. -/
def call : Nat → Bool → Process → String → List Bytes → Process
  | 0, _, process, _, _ => process.leave signalled
  | fuel + 1, shielded, process, name, arguments =>
    let runLines := fun (process : Process) (script : Script) =>
      let done := script.lines.foldl (runSteps fuel shielded) process
      if script.whole || done.isDone then done else done.finish 2
    match process.functions.lookup name with
    | some body =>
      let inner := { process with
        arguments := process.arguments.take 1 ++ arguments
        inside := process.inside + 1
        hidden := [] }
      let done := runCommand fuel shielded inner body
      { process.stepOut done with arguments := process.arguments }
    | none =>
      if passingCommands.contains name then
        match arguments.dropWhile fun word => passingCommands.contains (textOf word) with
        | [] => process.finish 0
        | inner :: arguments => process.runOwn (textOf inner) arguments
      else if name = "eval" then
        runLines process (.ofText (textOf (arguments.intersperse [0x20]).flatten).toList)
      else if name = "." ∨ name = "source" then
        match arguments.head?.bind fun path => process.system.fileAt? (textOf path) with
        | none => process.finish 1
        | some content =>
          let inner := { process with inside := process.inside + 1, hidden := [] }
          process.stepOut (runLines inner (.ofText (textOf content).toList))
      else if name = "exec" then
        match arguments with
        | [] => process.finish 0
        | inner :: arguments =>
          let done := process.runOwn (textOf inner) arguments
          done.leave done.ending
      else process.runOwn name arguments

end

/-- The number of steps that a script may take; only endless calls take more. -/
def enoughSteps : Nat := 20000

/-- Run the lines of a script that can be read; a line that cannot is a failure. -/
def runScript (process : Process) (script : List Char) : Process :=
  let script := Script.ofText script
  let done := script.lines.foldl (runSteps enoughSteps false) process
  if script.whole || done.isDone then done else done.leave 2

/-- Run the lines of a file that can be read, as a part of the shell. -/
def runFile (process : Process) (content : Bytes) : Process :=
  let inner := { process with inside := process.inside + 1 }
  process.stepOut ((Script.ofText (textOf content).toList).lines.foldl (runSteps enoughSteps false) inner)

/-! ## What the environment brings -/

/-- How the names of variables start that hold functions. -/
def functionStart : String := "BASH_FUNC_"

/-- How the names of variables end that hold functions. -/
def functionEnd : String := "%%"

/-- The name of the function that a variable holds, if its name tells so. -/
def functionName? (holder : String) : Option String :=
  let chars := holder.toList
  match Text.afterOpening functionStart.toList chars with
  | none => none
  | some rest =>
    if functionEnd.toList.isSuffixOf rest then
      some (String.ofList (rest.take (rest.length - functionEnd.length)))
    else none

/-- Whether a name is made like that of a variable. -/
def isVariableName (name : String) : Bool :=
  match name.toList with
  | [] => false
  | first :: rest => (first.isAlpha || first == '_') && rest.all fun c => c.isAlphanum || c == '_'

/-- The function that a variable holds: its text must be a definition and nothing else. -/
def heldFunction? (strict : Bool) (holder value : String) : Option (String × Command) := do
  let name ← functionName? holder
  let isFit := if strict then isVariableName name else !name.toList.contains '/'
  if !isFit || !value.startsWith "() \x7b" then none
  else
    match Script.ofText (name ++ " " ++ value).toList with
    | ⟨[(.always, .define name body)] :: rest, true⟩ =>
      if rest.all List.isEmpty then some (name, body) else none
    | _ => none

/-- Whether the environment asks for the letter of the standard. -/
def isStrict (environment : Environment) : Bool := (environment.get? "POSIXLY_CORRECT").isSome

/-- Take the functions from the environment. -/
def takeFunctions (process : Process) : Process :=
  let strict := isStrict process.system.environment
  process.system.environment.bindings.foldl
    (fun process entry =>
      if process.left.isSome then process
      else
        match heldFunction? strict entry.1 entry.2 with
        | some (name, body) => process.define name body
        | none => process)
    process

/-- Turn on the options that the environment names, unless it asks for the letter of the standard. -/
def takeOptions (process : Process) : Process :=
  let environment := process.system.environment
  if isStrict environment then process
  else
    let names := Text.splitAt ':' ((environment.get? "SHELLOPTS").getD "").toList
    names.foldl (fun process name => process.setOption (String.ofList name) true) process

/-- The file that is run first, if the environment names one: a leading tilde is the home directory. -/
def firstFile? (process : Process) : Option String := do
  let path ← process.system.environment.nonempty? "BASH_ENV"
  let home := ((process.system.environment.get? "HOME").getD "").toList
  let chars :=
    match path.toList with
    | '~' :: '/' :: rest => home ++ '/' :: rest
    | chars => chars
  return textOf (expandWhole process.scope (chars.map fun c => .char c .double))

/-- Run the file that the environment names, unless the shell is strict or wary. -/
def runFirstFile (process : Process) : Process :=
  if process.manner.strict || process.manner.wary || process.isDone then process
  else
    match process.firstFile?.bind process.system.fileAt? with
    | some content => (process.runFile content)
    | none => process

/-- Get a shell ready for its first command. -/
def prepare (process : Process) : Process :=
  match process.dialect with
  | .plain => process
  | .bash =>
    let isStrict := isStrict process.system.environment
    ((process.setOption "posix" isStrict).takeFunctions).takeOptions.runFirstFile

end LiveConsole.Shell.Process
