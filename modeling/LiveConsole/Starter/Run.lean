import LiveConsole.Starter.Basic

/-!
# Starting a console

A console is started in the namespace of the bootstrap module, or in a fresh one. The basic console runs
read loops; other consoles are handed the namespace and end well. Evaluated code may import modules,
whose bodies may fire the hook and so start a further console inside.
-/
namespace LiveConsole.Starter

variable {Reader Outside : Type} (around : Surroundings Reader Outside)

/-- Take note of something that the starter did. -/
def note (level : Level) (message : String) : Step Outside Unit :=
  updateOutside (around.note ⟨level, logger, message⟩)

/-- The key of the namespace that consoles without a bootstrap module run in. -/
def freshSpace : String := "__console__"

/-- The module whose names the console starts with, if there is one. -/
def bootstrap? : Option String := around.options.bootstrap.filter fun name => !name.isEmpty

section Start

variable (call : Step Outside Unit)

/-- Find the namespace that consoles run in for the first time. -/
def findSpace : Step Outside String := do
  match bootstrap? around with
  | none =>
    Host.bindAll freshSpace (Host.initialNames freshSpace)
    return freshSpace
  | some name =>
    match (← Host.current).loaded.lookup name with
    | some space => return space
    | none => Host.importModule call name

/-- The namespace that consoles run in. -/
def namespaceKey : Step Outside String := do
  match (← current).space with
  | some space => return space
  | none => do
    let space ← findSpace around call
    update fun state => { state with space := some space }
    return space

/-- Take note of a line before it is run. -/
def evaluating (kind : Line.Kind) (line : String) : LogRecord :=
  ⟨.debug, "live_shell.repl", "Evaluating " ++ kind.name ++ ": " ++ line⟩

/-- Where the code of a console runs. -/
def scopeOf (space : String) : Program.Scope (Host (State Outside)) :=
  { Host.scope call space with remark := fun remark => updateOutside (around.remark remark) }

/-- What a read loop of the basic console needs around it. -/
def loopAround (space : String) (reader : Reader) : Loop.Surroundings (Everything Outside) where
  read prompt := actOutside (around.read reader prompt)
  announce kind line store := withOutside (around.note (evaluating kind line) (outsideOf store)) store
  execute := Program.execute (scopeOf around call space)
  changed watch := actOutside (around.changed watch)

/-- Write a text to the common output. -/
def writeOutput (text : String) (store : Everything Outside) : Everything Outside :=
  { store with output := store.output ++ text }

/-- Take note of the end of a read loop, whose text goes to the common output or is told apart. -/
def finishLoop (code : Except Fault Nat) (events : List Loop.Event) (store : Everything Outside) :
    Everything Outside :=
  let text := Loop.textOf around.showIdent events
  let store := if around.sharesOutput then writeOutput text store else store
  withOutside (around.finish code text (outsideOf store)) store

/-- The record of a restart in the same process. -/
def stayed : LogRecord :=
  ⟨.info, logger, "Process was not replaced; restarting shell in-process"⟩

/-- How the process of a starter is replaced; where it is not, that is noted. -/
def renewal : Console.Renewal (Everything Outside) where
  interpreter store := around.interpreter (outsideOf store)
  program store := around.program (outsideOf store)
  replace command := actOutside fun outside =>
    let (result, outside) := around.replace command outside
    match result with
    | .error fault => (.error fault, outside)
    | .ok () => (.ok (), around.note stayed outside)

/-- What the read loops of the basic console are made of; an executor is known by the key of the namespace
that it runs code in. -/
def loopParts : Console.Parts Reader String (Everything Outside) where
  toRenewal := renewal around
  reader := actOutside around.build
  watch path := actOutside (around.arm path)
  around := loopAround around call
  rounds store := around.rounds (outsideOf store)
  finish := finishLoop around

section Basic

variable {ReadLoop : Type} (console : Console.Surroundings String ReadLoop (Everything Outside))

/-- Run the basic console over read loops of a kind, all in the namespace of the starter. -/
def runBasic : Step Outside Nat := do
  let space ← namespaceKey around call
  let store ← get
  let (result, _, store) :=
    Console.run console around.options space (around.loops (outsideOf store)) store
  set store
  match result with
  | .ok code => return code
  | .error fault => throw fault

end Basic

/-- Run another console than the basic one. -/
def runOther (implementation : Implementation) : Step Outside Nat := do
  let space ← namespaceKey around call
  let store ← get
  updateOutside (around.present implementation store.heap (store.space space))
  return Ending.left.code

/-- The console that is used. -/
def implementation : Implementation :=
  .choose around.installed around.options.basic around.options.watch.isSome

/-- Run a console and keep its exit code; the basic one runs read loops of a kind. -/
def runOnce {ReadLoop : Type} (console : Console.Surroundings String ReadLoop (Everything Outside)) :
    Step Outside Nat := do
  note around .debug ("Using " ++ (implementation around).name ++ " console")
  let code ←
    match implementation around with
    | .basic => runBasic around call console
    | other => runOther around call other
  update fun state => { state with exitCode := some code }
  return code

end Start

/-- Run a console, consoles inside consoles up to a number of levels. -/
def runWithin : Nat → Step Outside Nat
  | 0 => throw .unfinished
  | levels + 1 =>
    let inner : Step Outside Unit := do
      let _ ← runWithin levels
      return ()
    runOnce around inner (loopParts around inner).surroundings

/-- A console starts inside another one only while a module is imported that was not before. -/
def levels : Step Outside Nat := return (← Host.current).modules.length + 1

/-- Run a console. -/
def run : Step Outside Nat := do runWithin around (← levels)

/-- What is done when the hook fires: run a console. -/
def answerHook : Step Outside Unit := do
  let _ ← run around
  return ()

/-- The fault of a blank hook. -/
def blankHook : Fault := .configuration "The hook name cannot be empty." (some "hook")

/-- Start a console, unless that is put off until the hook fires: its exit code. -/
def invoke : Step Outside (Option Nat) := do
  match around.options.hook with
  | none => some <$> run around
  | some hook =>
    if Text.allBlank hook then throw blankHook
    if 0 < (← registry).count hook then some <$> run around
    else
      note around .debug ("Deferring shell until '" ++ hook ++ "' fires")
      updateRegistry (·.add hook () .usual)
      return none

/-- Fire an action, which starts consoles that were put off until then. -/
def fireAction (name : String) : Step Outside Unit := fire (answerHook around) name

/-- The namespace that consoles run in, found or made if need be. -/
def spaceInUse : Step Outside String := namespaceKey around (answerHook around)

/-- Import a module, which may fire the hook. -/
def importModule (name : String) : Step Outside Unit := do
  let _ ← Host.importModule (answerHook around) name
  return ()

/-- What ended a run of the starter, and everything it left behind. -/
def perform {Result : Type} (step : Step Outside Result) (store : Everything Outside) :
    Except Fault Result × Everything Outside :=
  step.run store

end LiveConsole.Starter
