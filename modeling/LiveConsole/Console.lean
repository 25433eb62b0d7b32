import LiveConsole.Loop
import LiveConsole.Options.Restart

/-!
# Restarting the read loop

A console runs read loops one after another, all over the same executor: each is built, pointed at the
watched path if there is one, and started. When a loop ends by asking for a restart, the whole process is
to be replaced; a console that is still there afterwards builds the next loop.
-/
namespace LiveConsole.Console

/-- How a process is replaced by a fresh one. -/
structure Renewal (State : Type) where
  /-- The interpreter that the fresh process is started with. -/
  interpreter : State → String
  /-- The words that name the program of the fresh process. -/
  program : State → List String
  /-- Try to replace the process by a command line. -/
  replace : List String → State → Except Fault Unit × State

/-- What a console needs around it; a fault of any of these ends the console. -/
structure Surroundings (Executor ReadLoop State : Type) extends Renewal State where
  /-- Build a read loop with a prompt, over an executor, quiet or not. -/
  build : String → Executor → Bool → State → Except Fault ReadLoop × State
  /-- Point a read loop at a path. -/
  arm : String → ReadLoop → State → Except Fault ReadLoop × State
  /-- Start a read loop and give its exit code. -/
  start : ReadLoop → State → Except Fault Nat × State

/-- One thing that a console did. -/
inductive Event (Executor : Type) where
  /-- A read loop was built. -/
  | built (prompt : String) (executor : Executor) (quiet : Bool)
  /-- A read loop was pointed at a path. -/
  | armed (path : String)
  /-- A read loop was started. -/
  | started
  /-- The process was to be replaced by a command line. -/
  | replaced (command : List String)
  deriving DecidableEq, Repr

section Run

variable {Executor ReadLoop State : Type} (around : Surroundings Executor ReadLoop State)
variable (options : Options) (executor : Executor)

/-- The command line of a restart, as the process stands. -/
def restartCommand (renewal : Renewal State) (options : Options) (state : State) : List String :=
  Options.restartCommand (renewal.interpreter state) (renewal.program state) options

/-- Point a read loop at the path to watch, where there is one. -/
def armed (loop : ReadLoop) (state : State) :
    Except Fault ReadLoop × List (Event Executor) × State :=
  match options.watch with
  | none => (.ok loop, [], state)
  | some path =>
    let (loop, state) := around.arm path loop state
    (loop, [.armed path], state)

/-- Build, arm and start one read loop. -/
def runLoop (state : State) : Except Fault Nat × List (Event Executor) × State :=
  let built := Event.built options.prompt executor options.quiet
  let (loop, state) := around.build options.prompt executor options.quiet state
  match loop with
  | .error fault => (.error fault, [built], state)
  | .ok loop =>
    let (loop, events, state) := armed around options loop state
    match loop with
    | .error fault => (.error fault, built :: events, state)
    | .ok loop =>
      let (code, state) := around.start loop state
      (code, built :: events ++ [.started], state)

/-- Run read loops until one ends without asking for a restart, at most so many. -/
def run : Nat → State → Except Fault Nat × List (Event Executor) × State
  | 0, state => (.error .unfinished, [], state)
  | loops + 1, state =>
    let (code, events, state) := runLoop around options executor state
    match code with
    | .error fault => (.error fault, events, state)
    | .ok code =>
      if code = Ending.restart.code then
        let command := restartCommand around.toRenewal options state
        let (replaced, state) := around.replace command state
        match replaced with
        | .error fault => (.error fault, events ++ [.replaced command], state)
        | .ok () =>
          let (result, more, state) := run loops state
          (result, events ++ .replaced command :: more, state)
      else (.ok code, events, state)

end Run

/-! ## Consoles over read loops -/

/-- A read loop as a console builds it. -/
structure ReadLoop (Reader Executor : Type) where
  /-- How it goes; it has no path under watch until it is pointed at one. -/
  manner : Loop.Manner
  /-- What runs code. -/
  executor : Executor
  /-- What it reads its lines from. -/
  reader : Reader

/-- What the read loops of a console are made of, and what becomes of them. -/
structure Parts (Reader Executor State : Type) extends Renewal State where
  /-- Build what a read loop reads its lines from. -/
  reader : State → Except Fault Reader × State
  /-- Set up a watch on a path. -/
  watch : String → State → Except Fault Watch × State
  /-- What a read loop needs around it. -/
  around : Executor → Reader → Loop.Surroundings State
  /-- A bound on the rounds of a read loop. -/
  rounds : State → Nat
  /-- Take note of the end of a read loop: its exit code and what it did. -/
  finish : Except Fault Nat → List Loop.Event → State → State

/-- What a console needs around it to run read loops that are made of parts. -/
def Parts.surroundings {Reader Executor State : Type} (parts : Parts Reader Executor State) :
    Surroundings Executor (ReadLoop Reader Executor) State where
  toRenewal := parts.toRenewal
  build prompt executor quiet state :=
    let (reader, state) := parts.reader state
    (reader.map fun reader => ⟨⟨prompt, quiet, none⟩, executor, reader⟩, state)
  arm path loop state :=
    let (watch, state) := parts.watch path state
    (watch.map fun watch => { loop with manner := { loop.manner with watch := some watch } }, state)
  start loop state :=
    let around := parts.around loop.executor loop.reader
    let (result, events, state) := Loop.run around loop.manner (parts.rounds state) state
    let code := result.map Ending.code
    (code, parts.finish code events state)

end LiveConsole.Console
