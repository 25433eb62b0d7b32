import LiveConsole.FileTree.Real
import LiveConsole.FileTree.Snapshot
import LiveConsole.Log

/-!
# Watching a path

A watch remembers a path and the newest time at it and below it. The path has changed when the newest
time is no longer the one remembered, whether it rose or fell.
-/
namespace LiveConsole

/-- A path under watch. -/
structure Watch where
  /-- The path in canonical form. -/
  path : PurePath
  /-- The newest time at the path and below it when the watch was set up. -/
  stamp : Time
  deriving DecidableEq, Repr

namespace Watch

/-- A fault of the path to be watched. -/
def fault (message : String) : Fault := .configuration message (some "watch")

/-- The fault of a blank path. -/
def blankPath : Fault := fault "The watch path cannot be empty."

/-- The fault of a path that leads nowhere. -/
def missingPath (text : String) : Fault := fault ("The watch path '" ++ text ++ "' does not exist.")

/-- The canonical form of a path that is to be watched, given by its text; the path must exist. -/
def resolve (environment : Environment) (tree : FileTree) (directory : Location) (text : String) :
    Except Fault PurePath := do
  if Text.allBlank text then throw blankPath
  let path ← (PurePath.ofText text).expandUser environment
  if ← tree.pathExists directory path then tree.resolve directory path
  else throw (missingPath text)

/-- The part of the console that the records of a watch come from. -/
def logger : String := "live_shell.watch"

/-- The record of a directory that cannot be listed. -/
def skipping (path : String) : LogRecord :=
  ⟨.debug, logger, "Skipping unreadable directory " ++ path ++ ": [Errno 13] Permission denied"⟩

/-- The records of looking at the path under watch. -/
def lookRecords (watch : Watch) (tree : FileTree) (directory : Location) : List LogRecord :=
  (tree.closedPaths directory watch.path.text).map skipping

/-- The record of a watch that was set up. -/
def watching (watch : Watch) : LogRecord :=
  ⟨.debug, logger, "Watching " ++ watch.path.text ++ " (snapshot " ++ watch.stamp.text ++ ")"⟩

/-- Set up a watch on a path. -/
def arm (environment : Environment) (tree : FileTree) (directory : Location) (text : String) :
    Except Fault Watch := do
  let path ← resolve environment tree directory text
  return ⟨path, tree.snapshot directory path.text⟩

/-- Whether the path has changed since the watch was set up. -/
def hasChanged (watch : Watch) (tree : FileTree) (directory : Location) : Bool :=
  !(tree.snapshot directory watch.path.text).isSame watch.stamp

end Watch

end LiveConsole
