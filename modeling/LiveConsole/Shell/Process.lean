import LiveConsole.Shell.HistoryList
import LiveConsole.Shell.InputLine
import LiveConsole.Shell.Locale
import LiveConsole.Shell.Script
import LiveConsole.Shell.System

/-!
# Shell processes

A shell has variables, arguments, functions and a history of its own. It reads from its input, writes to
its output, and leaves with a status. A few options change how it runs commands.
-/
namespace LiveConsole.Shell

/-- Which shell a process runs. -/
inductive Dialect where
  /-- The shell that keeps a history. -/
  | bash
  /-- A plain shell without a history. -/
  | plain
  deriving DecidableEq, Repr

/-- How a shell runs commands. -/
structure Manner where
  /-- Whether a failure ends the shell. -/
  stops : Bool := false
  /-- Whether commands are only read. -/
  idle : Bool := false
  /-- Whether the shell keeps to the letter of the standard. -/
  strict : Bool := false
  /-- Whether the shell does not trust its surroundings. -/
  wary : Bool := false
  deriving DecidableEq, Repr

/-- A running shell. -/
structure Process where
  /-- Which shell it is. -/
  dialect : Dialect
  /-- What is outside of it. -/
  system : System
  /-- What it has written to its output. -/
  output : Bytes
  /-- Its own variables. -/
  bindings : List (String × Bytes)
  /-- Its name and arguments. -/
  arguments : List Bytes
  /-- The lines of its history. -/
  history : List Bytes
  /-- The status of the last command. -/
  status : Nat
  /-- The status that it left with; one above 255 stands for an end by a signal. -/
  left : Option Nat
  /-- Its functions. -/
  functions : List (String × Command)
  /-- How it runs commands. -/
  manner : Manner
  /-- How many functions and files it is inside of. -/
  inside : Nat
  /-- Whether the innermost of them is to be left. -/
  returned : Bool
  /-- The variables that the innermost function hides, with their values. -/
  hidden : List (String × Bytes)

namespace Process

/-- The decimal digits of a number. -/
def ofNat (value : Nat) : Bytes := encode (Nat.repr value).toList

/-- The separators between the words of a line. -/
def usualSeparators : Bytes := [0x20, 0x09, 0x0A]

/-- The variable that holds the separators; it is not taken from the environment. -/
def separatorVariable : String := "IFS"

/-- A shell before its first command. -/
def start (dialect : Dialect) (system : System) (arguments : List Bytes) : Process where
  dialect
  system
  output := []
  bindings := [(separatorVariable, usualSeparators)]
  arguments
  history := []
  status := 0
  left := none
  functions := []
  manner := {}
  inside := 0
  returned := false
  hidden := []

/-- The value of a variable; one that is not set is empty. -/
def value (process : Process) (name : String) : Bytes :=
  match name with
  | "?" => ofNat process.status
  | "$" => ofNat 4242
  | "#" => ofNat (process.arguments.length - 1)
  | name =>
    match name.toNat? with
    | some place => (process.arguments[place]?).getD []
    | none =>
      match process.bindings.lookup name with
      | some value => value
      | none => ofText ((process.system.environment.get? name).getD "")

/-- What words are expanded with. -/
def scope (process : Process) : Scope := ⟨process.value, process.arguments.tail⟩

/-- Set a variable. -/
def setVariable (process : Process) (name : String) (value : Bytes) : Process :=
  { process with bindings := (name, value) :: process.bindings.filter fun entry => entry.1 ≠ name }

/-- Set variables in order. -/
def setAll (process : Process) (values : List (String × Bytes)) : Process :=
  values.foldl (fun process entry => process.setVariable entry.1 entry.2) process

/-- End a command with a status. -/
def finish (process : Process) (status : Nat) : Process := { process with status }

/-- Leave the shell with a status. -/
def leave (process : Process) (status : Nat) : Process := { process with left := some status }

/-- Write to the output and end a command with success. -/
def put (process : Process) (bytes : Bytes) : Process :=
  { process with output := process.output ++ bytes, status := 0 }

/-- Whether no further command is run in the list at hand. -/
def isDone (process : Process) : Bool :=
  process.left.isSome || process.returned || process.manner.idle

/-- The status that a shell ends with. -/
def ending (process : Process) : Nat := process.left.getD process.status

/-! ## Options -/

/-- Turn an option on or off. -/
def setOption (process : Process) (name : String) (isSet : Bool) : Process :=
  let manner := process.manner
  let manner :=
    match name with
    | "errexit" => { manner with stops := isSet }
    | "noexec" => { manner with idle := isSet }
    | "posix" => { manner with strict := isSet }
    | "privileged" => { manner with wary := isSet }
    | _ => manner
  { process with manner }

/-- The names of the options that letters stand for. -/
def optionLetters : List (Char × String) :=
  [('e', "errexit"), ('n', "noexec"), ('p', "privileged")]

/-- Turn the options of letters on or off. -/
def setLetters (process : Process) (letters : List Char) (isSet : Bool) : Process :=
  letters.foldl
    (fun process letter =>
      match optionLetters.lookup letter with
      | some name => process.setOption name isSet
      | none => process)
    process

/-- Options and new arguments, as they are given to the command that sets them. -/
def setAsGiven (process : Process) : List Bytes → Process
  | [] => process
  | word :: rest =>
    let renew := fun arguments : List Bytes =>
      { process with arguments := process.arguments.take 1 ++ arguments }
    match (textOf word).toList, rest with
    | ['-', '-'], rest => renew rest
    | ['-', 'o'], name :: rest => setAsGiven (process.setOption (textOf name) true) rest
    | ['+', 'o'], name :: rest => setAsGiven (process.setOption (textOf name) false) rest
    | '-' :: letters, rest => setAsGiven (process.setLetters letters true) rest
    | '+' :: letters, rest => setAsGiven (process.setLetters letters false) rest
    | _, rest => renew (word :: rest)

end Process

end LiveConsole.Shell
