import LiveConsole.History
import LiveConsole.Watch

/-!
# Sessions

A session lasts from the start of a read loop to its end: it holds the prompt, the history file and, if
a path is watched, the watch.
-/
namespace LiveConsole

/-- The prompt of a session that is given none. -/
def usualPrompt : String := "py> "

/-- What a read loop keeps from start to end. -/
structure Session where
  /-- The prompt for each new line. -/
  prompt : String
  /-- The history file. -/
  history : PurePath
  /-- The watch, if a path is watched. -/
  watch : Option Watch
  deriving DecidableEq, Repr

namespace Session

/-- A session with a history file of its own, or with the one of the directory and the user. -/
def create (environment : Environment) (temporary : PurePath) (directory : Location) (prompt : String)
    (history : Option String) : Session where
  prompt
  history :=
    match history.filter (fun text => !text.isEmpty) with
    | some text => PurePath.ofText text
    | none => History.file temporary directory.text (History.currentUser environment)
  watch := none

/-- Whether a path is watched. -/
def watching (session : Session) : Bool := session.watch.isSome

/-- The time that the watch remembers; zero without a watch. -/
def stamp (session : Session) : Time :=
  match session.watch with
  | some watch => watch.stamp
  | none => 0

/-- Watch a path, in place of the one watched before. -/
def configure (session : Session) (environment : Environment) (tree : FileTree) (directory : Location)
    (text : String) : Except Fault Session := do
  return { session with watch := some (← Watch.arm environment tree directory text) }

/-- Whether the path under watch has changed; no when none is watched. -/
def hasChanged (session : Session) (tree : FileTree) (directory : Location) : Bool :=
  match session.watch with
  | some watch => watch.hasChanged tree directory
  | none => false

end Session

end LiveConsole
