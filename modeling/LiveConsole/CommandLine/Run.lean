import LiveConsole.CommandLine.Machine

/-!
# Running the command line

The command line is read, the options are built, the console is moved to the directory to run from, and
the starter is asked to start it. When that is put off until a hook fires, the bootstrap module is
imported to give it a chance. A fault of the set-up is written as one line and ends in the exit code 1;
every other fault goes to the caller.
-/
namespace LiveConsole.CommandLine

/-- The exit code after a fault of the set-up. -/
def faultCode : Nat := 1

/-- What came of a command line. -/
structure Outcome where
  /-- The exit code, unless a fault goes to the caller. -/
  result : Except Fault Nat
  /-- What was written to the output. -/
  output : String
  /-- What was written to the error output. -/
  errorOutput : String
  /-- The machine afterwards. -/
  machine : Machine

/-- The line that tells a fault of the set-up. -/
def faultLine (fault : Fault) : String := "Error: " ++ fault.message ++ "\n"

/-- The fault of a hook that did not fire. -/
def neverFired (hook : String) : Fault :=
  .configuration ("The hook '" ++ hook ++ "' never fired.") (some "hook")

/-- The exit code that ends the process of a command line, as its caller sees it. -/
def exitFault (code : Nat) : Fault := .raised "SystemExit" (toString code)

/-- The fault of a command line that is not read to its end, as one who asked for it sees it. -/
def stopFault (stop : Stop) : Fault := exitFault stop.code

/-- Start the console, now or in the course of importing the bootstrap module. -/
def startConsole (around : Starter.Surroundings Prompter Machine) : Starter.Step Machine Nat := do
  match ← Starter.invoke around with
  | some code => return code
  | none => do
    if let some name := Starter.bootstrap? around then Starter.importModule around name
    match (← Starter.current).exitCode with
    | some code => return code
    | none => throw (neverFired (around.options.hook.getD ""))

/-- What surrounds the start of a console: the modules of the host with the containers in them. -/
structure Setting where
  /-- The modules that can be imported. -/
  modules : List (String × HostModule)
  /-- The containers that their values lead to. -/
  heap : Heap
  /-- The modules that other consoles may come in. -/
  installed : List String
  /-- How identities are shown. -/
  showIdent : Ident → String

/-- Start the console with its options. -/
def runOptions (setting : Setting) (options : Options) (machine : Machine) :
    Except Fault Nat × String × Machine :=
  let directory := (options.prepare ⟨machine.system.directory, []⟩).directory
  let machine := { machine with system := { machine.system with directory } }
  let around := Machine.surroundings options setting.installed setting.showIdent
  let host := Host.ofModules setting.modules ⟨none, none, none, machine⟩
  let (result, store) := (startConsole around).run ⟨setting.heap, [], "", host⟩
  (result, store.output, Starter.outsideOf store)

/-- The notices that are written to the error output. -/
def writtenLog (debugging : Bool) (log : List Notice) : String :=
  String.join (log.filterMap (Notice.line? debugging))

/-- Run the command line. -/
def run (setting : Setting) (words : List String) (machine : Machine) : Outcome :=
  match read words with
  | .error stop =>
    let width := textWidth machine.system.environment
    ⟨.error (stopFault stop), stop.output width, stop.errorOutput width, machine⟩
  | .ok arguments =>
    let (result, output, machine) : Except Fault Nat × String × Machine :=
      match arguments.options machine.place with
      | .error fault => (.error fault, "", machine)
      | .ok options => runOptions setting options machine
    let log := writtenLog arguments.debug machine.log
    match result with
    | .ok code => ⟨.ok code, output, log, machine⟩
    | .error fault =>
      if fault.isConfiguration then ⟨.ok faultCode, output, log ++ faultLine fault, machine⟩
      else ⟨.error fault, output, log, machine⟩

/-- The exit code of the process: that of a request to leave, and 1 for every other fault. -/
def Outcome.exitCode (outcome : Outcome) : Nat :=
  match outcome.result with
  | .ok code => code
  | .error fault =>
    if fault.kind = "SystemExit" then fault.message.toNat?.getD faultCode else faultCode

/-- The last line of the error output: a fault that is no request to leave. -/
def Outcome.lastWords (outcome : Outcome) : String :=
  match outcome.result with
  | .ok _ => ""
  | .error fault =>
    if fault.kind = "SystemExit" then "" else fault.kind ++ ": " ++ fault.message ++ "\n"

end LiveConsole.CommandLine
