import LiveConsole.Dump
import LiveConsole.Program.Execute
import LiveConsole.Watch

/-!
# The read loop

The loop reads a line, runs it and shows what came of it, until a line asks to leave or to restart, or
the path under watch has changed. It knows its surroundings only through a reader, an executor and a
view of the watched path, and it tells what it did as a list of events.
-/
namespace LiveConsole

/-- How a read loop ends by itself. -/
inductive Ending where
  /-- A line asked to leave. -/
  | left
  /-- A restart was asked for. -/
  | restart
  deriving DecidableEq, Repr

namespace Ending

/-- The exit code of an ending. -/
def code : Ending → Nat
  | left => 0
  | restart => 10

end Ending

namespace Loop

/-- The line that asks to leave. -/
def exitWord : String := "exit"

/-- The line that asks for a restart. -/
def restartWord : String := "restart"

/-- What a read loop is given for its whole life. -/
structure Manner where
  /-- The prompt for each new line. -/
  prompt : String
  /-- Whether values and status lines are left out. -/
  quiet : Bool
  /-- The path under watch. -/
  watch : Option Watch

/-- One thing that a read loop did. -/
inductive Event where
  /-- A line was read. -/
  | read (prompt : String) (line : String)
  /-- Code was run. -/
  | ran (code : String)
  /-- Captured output was written, with one line feed at its end. -/
  | output (text : String)
  /-- A value was shown. -/
  | shown (dump : List Dump.Line)
  /-- A status line was written. -/
  | status (message : String)
  deriving DecidableEq, Repr

namespace Event

/-- The text that an event writes. -/
def text (showIdent : Ident → String) : Event → String
  | read .. => ""
  | ran _ => ""
  | output text => text
  | shown dump => "=> " ++ Dump.render showIdent dump
  | status message => message ++ "\n"

end Event

/-- The text that events write, in their order. -/
def textOf (showIdent : Ident → String) (events : List Event) : String :=
  String.join (events.map (Event.text showIdent))

/-- What a read loop needs around it. -/
structure Surroundings (State : Type) where
  /-- Read one line with a prompt. -/
  read : String → State → Except Fault String × State
  /-- Take note of a normal line before it is run. -/
  announce : Line.Kind → String → State → State
  /-- Run code. -/
  execute : String → State → Except Fault Program.Execution × State
  /-- Look whether the path under watch has changed. -/
  changed : Watch → State → Bool × State

/-- Output with exactly one line feed at its end; no output stays none. -/
def tidy (output : String) : String :=
  if output.isEmpty then ""
  else String.ofList (Text.dropEndWhile (· == '\n') output.toList ++ ['\n'])

/-- Writing captured output; writing nothing is no event. -/
def outputEvents (output : String) : List Event :=
  if output.isEmpty then [] else [.output (tidy output)]

/-- Showing a value, unless the loop is quiet; some values have an obstacle in them. -/
def shownEvents (quiet : Bool) (value : Graph) : Except Fault (List Event) :=
  if quiet then .ok [] else (Dump.lines? value).map fun dump => [.shown dump]

/-- Writing a status line, unless the loop is quiet. -/
def statusEvents (quiet : Bool) (message : String) : List Event :=
  if quiet then [] else [.status message]

/-- The status line of a restart that a line asked for. -/
def restarting : String := "Restarting shell..."

/-- The status line of a restart after a change. -/
def changeDetected (path : PurePath) : String :=
  "Detected changes in " ++ path.text ++ ", restarting shell..."

/-- What comes of one round of the loop. -/
inductive Turn where
  /-- Go on with the next round. -/
  | again
  /-- The loop is over. -/
  | over (result : Except Fault Ending)

variable {State : Type} (around : Surroundings State)

/-- Run one line. -/
def evaluate (quiet : Bool) (line : String) (state : State) : Turn × List Event × State :=
  let line := Line.normalize line
  let kind := Line.classify line
  let code := match kind with
    | .statement => line
    | .expression => Line.asReturn line
  let (result, state) := around.execute code (around.announce kind line state)
  match result with
  | .error fault => (.over (.error fault), [.ran code], state)
  | .ok execution =>
    let output := outputEvents execution.output
    match kind with
    | .statement => (.again, .ran code :: output, state)
    | .expression =>
      match shownEvents quiet execution.value with
      | .error fault => (.over (.error fault), .ran code :: output, state)
      | .ok shown => (.again, .ran code :: output ++ shown, state)

/-- Whether a line, blanks at its ends aside, is the given word. -/
def isWord (word : String) (line : String) : Bool := Text.trimmed line == word

/-- Look at the path under watch, if there is one: it, when it has changed. -/
def look (watch : Option Watch) (state : State) : Option Watch × State :=
  match watch with
  | none => (none, state)
  | some watch =>
    let (changed, state) := around.changed watch state
    (if changed then some watch else none, state)

/-- One round of the loop: look at the path under watch, read a line, act on it. -/
def turn (manner : Manner) (state : State) : Turn × List Event × State :=
  match look around manner.watch state with
  | (some watch, state) =>
    (.over (.ok .restart), statusEvents manner.quiet (changeDetected watch.path), state)
  | (none, state) =>
    let (line, state) := around.read manner.prompt state
    match line with
    | .error fault => (.over (.error fault), [], state)
    | .ok line =>
      let read := Event.read manner.prompt line
      if line = "" then (.again, [read], state)
      else if isWord exitWord line then (.over (.ok .left), [read], state)
      else if isWord restartWord line then
        (.over (.ok .restart), read :: statusEvents manner.quiet restarting, state)
      else
        let (turn, events, state) := evaluate around manner.quiet line state
        (turn, read :: events, state)

/-- Go round until the loop is over, at most so many times. -/
def run (manner : Manner) : Nat → State → Except Fault Ending × List Event × State
  | 0, state => (.error .unfinished, [], state)
  | rounds + 1, state =>
    let (turn, events, state) := turn around manner state
    match turn with
    | .over result => (result, events, state)
    | .again =>
      let (result, more, state) := run manner rounds state
      (result, events ++ more, state)

end Loop

end LiveConsole
