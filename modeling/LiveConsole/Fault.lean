import LiveConsole.Text.Quoted

/-!
# Faults

A fault is what stops a run: a fault of the shell's own set-up, or an error raised by evaluated code
or by the host. Every fault has one message; only a configuration fault names a setting.
-/
namespace LiveConsole

/-- A reason to stop that is handed to the caller. -/
inductive Fault where
  /-- A fault of the shell. -/
  | shell (message : String)
  /-- A fault in how the shell was set up, with the option or variable at fault. -/
  | configuration (message : String) (setting : Option String)
  /-- An error of evaluated code or of the host, with the name of its class. -/
  | raised (kind : String) (message : String)
  /-- A computation that did not come to an end within its allowance. -/
  | unfinished
  deriving DecidableEq, Repr, Inhabited

/-- Whether a text occurs inside another one. -/
def occursIn (needle : List Char) : List Char → Bool
  | [] => needle.isEmpty
  | c :: rest => needle.isPrefixOf (c :: rest) || occursIn needle rest

namespace Fault

/-- The text of a fault; the setting is added unless it is empty or the message names it already. -/
def message : Fault → String
  | shell text => text
  | configuration text none => text
  | configuration text (some setting) =>
    if setting.isEmpty || occursIn setting.toList text.toList then text
    else text ++ " (setting: " ++ setting ++ ")"
  | raised _ text => text
  | unfinished => "The run did not come to an end."

/-- The name of the class of a fault. -/
def kind : Fault → String
  | shell _ => "ShellError"
  | configuration .. => "ConfigurationError"
  | raised kind _ => kind
  | unfinished => "Unfinished"

/-- The classes of faults whose messages are those of a reader of texts, or of no importance. -/
def silentKinds : List String :=
  ["SyntaxError", "IndentationError", "TabError", "UnicodeError", "UnicodeDecodeError",
    "UnicodeEncodeError", "UnicodeTranslateError", "RecursionError"]

/-- The setting at fault, where one is named. -/
def setting? : Fault → Option String
  | configuration _ setting => setting
  | _ => none

/-- Whether a fault is about the shell's set-up. -/
def isConfiguration : Fault → Bool
  | configuration .. => true
  | _ => false

/-- The classes of operating system errors. -/
def systemErrorKinds : List String :=
  ["OSError", "EnvironmentError", "IOError", "BlockingIOError", "ChildProcessError", "ConnectionError",
    "BrokenPipeError", "ConnectionAbortedError", "ConnectionRefusedError", "ConnectionResetError",
    "FileExistsError", "FileNotFoundError", "InterruptedError", "IsADirectoryError",
    "NotADirectoryError", "PermissionError", "ProcessLookupError", "TimeoutError"]

/-- Whether a fault is an error of the operating system. -/
def isSystemError : Fault → Bool
  | raised kind _ => systemErrorKinds.contains kind
  | _ => false

/-- A name that no scope binds. -/
def unboundName (name : String) : Fault := raised "NameError" s!"name '{name}' is not defined"

/-- A text that is no program. -/
def malformed : Fault := raised "SyntaxError" ""

/-- A program with a line that is not indented as it must be. -/
def indented : Fault := raised "IndentationError" ""

/-- The message of an operating system error with its number and, where known, the path. -/
def systemMessage (number : Int) (text : String) (path : Option String) : String :=
  match path with
  | none => s!"[Errno {number}] {text}"
  | some path => s!"[Errno {number}] {text}: {path}"

/-- The class that an operating system error of a given number belongs to. -/
def systemErrorKind (number : Int) : String :=
  if number = 1 || number = 13 then "PermissionError"
  else if number = 2 then "FileNotFoundError"
  else if number = 3 then "ProcessLookupError"
  else if number = 4 then "InterruptedError"
  else if number = 10 then "ChildProcessError"
  else if number = 11 || number = 114 || number = 115 then "BlockingIOError"
  else if number = 17 then "FileExistsError"
  else if number = 20 then "NotADirectoryError"
  else if number = 21 then "IsADirectoryError"
  else if number = 32 || number = 108 then "BrokenPipeError"
  else if number = 103 then "ConnectionAbortedError"
  else if number = 104 then "ConnectionResetError"
  else if number = 110 then "TimeoutError"
  else if number = 111 then "ConnectionRefusedError"
  else "OSError"

end Fault

end LiveConsole
