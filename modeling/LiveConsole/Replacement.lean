import LiveConsole.Fault
import LiveConsole.Log

/-!
# Replacing the process

A restart replaces the running process by a fresh one with the same flags. Where that is not possible,
or does not happen, the console goes on in the process that it is in. A system error of the attempt is
noted and goes no further; every other fault ends the console.
-/
namespace LiveConsole.Replacement

/-- The part of the console that the records come from. -/
def logger : String := "live_shell.restart"

/-- The platform that the process runs on. -/
structure Platform where
  /-- The name of the platform. -/
  name : String
  /-- Whether the platform has a call that replaces the process. -/
  hasCall : Bool

namespace Platform

/-- Whether processes can be replaced in place. -/
def isSupported (platform : Platform) : Bool := platform.name == "posix" && platform.hasCall

end Platform

/-- What an attempt came to: whether the call was made, its result, and the records. -/
structure Attempt where
  /-- Whether the call that replaces the process was made. -/
  called : Bool
  /-- Nothing when the process goes on, else the fault that ends the console. -/
  result : Except Fault Unit
  /-- What was noted. -/
  log : List LogRecord

/-- The record of a platform that cannot replace processes. -/
def unsupported (platform : Platform) : LogRecord :=
  ⟨.debug, logger,
    "Process replacement unsupported on " ++ platform.name ++ "; restarting in-process"⟩

/-- The record of a call that failed. -/
def failed (fault : Fault) : LogRecord :=
  ⟨.warning, logger,
    "Could not restart the shell process (" ++ fault.message ++ "); restarting in-process."⟩

/-- The record of a call that returned. -/
def returned : LogRecord :=
  ⟨.warning, logger, "Process replacement did not take effect; restarting in-process."⟩

/-- The fault of a command line without a program. -/
def noProgram : Fault := .raised "IndexError" "list index out of range"

/-- Try to replace the process by a command line, given the fault that the call would raise, if any. -/
def attempt (platform : Platform) (command : List String) (callFault : Option Fault) : Attempt :=
  if !platform.isSupported then ⟨false, .ok (), [unsupported platform]⟩
  else if command.isEmpty then ⟨false, .error noProgram, []⟩
  else
    match callFault with
    | none => ⟨true, .ok (), [returned]⟩
    | some fault =>
      if fault.isSystemError then ⟨true, .ok (), [failed fault]⟩ else ⟨true, .error fault, []⟩

end LiveConsole.Replacement
