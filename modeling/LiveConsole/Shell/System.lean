import LiveConsole.FileTree.Change
import LiveConsole.FileTree.Path
import LiveConsole.Shell.Bytes

/-!
# What a process stands in

A process sees files, variables of its environment and an input that it shares with other processes. It
changes files and takes from the input.
-/
namespace LiveConsole.Shell

/-- What a process sees and changes outside itself. -/
structure System where
  /-- The file tree. -/
  tree : FileTree
  /-- The working directory. -/
  directory : Location
  /-- The environment. -/
  environment : Environment
  /-- What is still to be read from the input. -/
  input : Bytes

/-- The text of bytes, as a path or a number. -/
def textOf (bytes : Bytes) : String := Text.ofUtf8Lenient bytes

namespace System

/-- The contents of a file, if the path leads to one; no file is closed to a shell. -/
def fileAt? (system : System) (path : String) : Option Bytes :=
  match system.tree.status system.directory path with
  | .ok (.file _ content _) => some content
  | _ => none

/-- The fault of a directory in the place of a file. -/
def directoryFault (path : String) : Fault :=
  .raised "IsADirectoryError"
    (Fault.systemMessage 21 "Is a directory" (some (Text.quoted path)))

/-- The contents of the file that a path leads to, if to anything; a directory is a fault. -/
def contents (system : System) (path : String) : Except Fault (Option Bytes) :=
  if system.tree.isDirectory system.directory path then .error (directoryFault path)
  else .ok (system.fileAt? path)

/-- Put contents into a file; a directory on the way that is missing makes it fail. -/
def writeFile? (system : System) (path : String) (content : Bytes) : Option System :=
  let put := fun location modified executable =>
    { system with tree := system.tree.put location (.file modified content executable) }
  match system.tree.locate system.directory path with
  | .ok (location, _) =>
    match system.tree.get? location with
    | some (.file modified _ executable) => some (put location modified executable)
    | _ => none
  | .error .missing =>
    let names := FileTree.steps path
    let above := String.intercalate "/" names.dropLast
    let parent :=
      if names.length ≤ 1 then .ok (system.directory, 0)
      else system.tree.locate system.directory (if above = "" then "/" else above)
    match parent, names.getLast? with
    | .ok (parent, _), some name =>
      if name = "" then none
      else
        match system.tree.get? parent, system.tree.get? (parent ++ [name]) with
        | some (.directory _), none => some (put (parent ++ [name]) FileTree.usualTime false)
        | _, _ => none
    | _, _ => none
  | .error _ => none

end System

end LiveConsole.Shell
