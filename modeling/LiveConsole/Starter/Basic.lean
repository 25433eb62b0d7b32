import LiveConsole.Console
import LiveConsole.Host.Import
import LiveConsole.Implementation
import LiveConsole.Log
import LiveConsole.Options.Basic

/-!
# The starter of a console

A starter starts a console at once, or, when its options name a hook, once the action of that name
fires. It keeps the exit code of the last console that ended by itself, and the namespace that its
consoles run in.
-/
namespace LiveConsole

namespace Starter

/-- The part of the console that the records of a starter come from. -/
def logger : String := "live_shell.command"

/-- What a starter keeps. -/
structure State (Outside : Type) where
  /-- The actions that the hook belongs to, unless it belongs to those of the host. -/
  actions : Option (Actions Unit)
  /-- The exit code of the last console. -/
  exitCode : Option Nat
  /-- The key of the namespace that consoles run in, once it is known. -/
  space : Option String
  /-- What is outside of the starter. -/
  outside : Outside

/-- What a starter needs around it. -/
structure Surroundings (Reader Outside : Type) where
  /-- The options of the console. -/
  options : Options
  /-- The modules that other consoles may come in. -/
  installed : List String
  /-- Build what a read loop reads its lines from. -/
  build : Outside → Except Fault Reader × Outside
  /-- Point a read loop at a path. -/
  arm : String → Outside → Except Fault Watch × Outside
  /-- Read one line with a prompt. -/
  read : Reader → String → Outside → Except Fault String × Outside
  /-- Look whether the path under watch has changed. -/
  changed : Watch → Outside → Bool × Outside
  /-- The interpreter that a fresh process is started with. -/
  interpreter : Outside → String
  /-- The words that name the program of a fresh process. -/
  program : Outside → List String
  /-- Try to replace the process by a command line. -/
  replace : List String → Outside → Except Fault Unit × Outside
  /-- Take note of a record. -/
  note : LogRecord → Outside → Outside
  /-- Run another console than the basic one, with the names that it sees. -/
  present : Implementation → Heap → Namespace → Outside → Outside
  /-- Take note of the end of a read loop: its exit code and the text that it wrote. -/
  finish : Except Fault Nat → String → Outside → Outside
  /-- Whether a read loop writes to the common output; else it has an output of its own. -/
  sharesOutput : Bool
  /-- How identities are shown. -/
  showIdent : Ident → String
  /-- A bound on the rounds of a read loop. -/
  rounds : Outside → Nat
  /-- A bound on the read loops of a console. -/
  loops : Outside → Nat
  /-- Take note of a remark on a program. -/
  remark : Program.Remark → Outside → Outside := fun _ outside => outside

/-- A step of a starter. -/
abbrev Step (Outside Result : Type) := Host.Step (State Outside) Result

section Step

variable {Outside : Type}

/-- What the starter keeps. -/
def current : Step Outside (State Outside) := return (← Host.current).outside

/-- Change what the starter keeps. -/
def update (change : State Outside → State Outside) : Step Outside Unit := Host.updateOutside change

/-- Change what is outside of the starter. -/
def updateOutside (change : Outside → Outside) : Step Outside Unit :=
  update fun state => { state with outside := change state.outside }

/-- Everything that a step of a starter can change. -/
abbrev Everything (Outside : Type) := Program.Store (Host (State Outside))

/-- What is outside of the starter. -/
def outsideOf (store : Everything Outside) : Outside := store.world.outside.outside

/-- Put something else outside of the starter. -/
def withOutside (outside : Outside) (store : Everything Outside) : Everything Outside :=
  let host := store.world
  { store with world := { host with outside := { host.outside with outside } } }

/-- Act on what is outside of the starter only. -/
def actOutside {Result : Type} (act : Outside → Result × Outside) (store : Everything Outside) :
    Result × Everything Outside :=
  let (result, outside) := act (outsideOf store)
  (result, withOutside outside store)

/-- The actions that the hook belongs to. -/
def registry : Step Outside (Actions Unit) := do
  return (← current).actions.getD (← Host.current).actions

/-- Change the actions that the hook belongs to. -/
def updateRegistry (change : Actions Unit → Actions Unit) : Step Outside Unit := do
  match (← current).actions with
  | some actions => update fun state => { state with actions := some (change actions) }
  | none => Host.update fun host => { host with actions := change host.actions }

/-- Fire an action of those that the hook belongs to. -/
def fire (call : Step Outside Unit) (name : String) : Step Outside Unit := do
  updateRegistry (·.begin name)
  ((← registry).called name).forM fun _ => call

end Step

end Starter

end LiveConsole
