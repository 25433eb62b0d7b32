import LiveConsole.FileTree.Path
import LiveConsole.Text.Quoted

/-!
# Canonical paths

The canonical path of a text has no links, no double points and no repeated slashes. It need not lead
anywhere: from the first name that is not there on, names are taken as they are. A link that is met
again while it is being followed stops the resolution, and what is left is taken as it is.
-/
namespace LiveConsole

namespace FileTree

/-- What is known of the links met: where each leads, or nothing while it is being followed. -/
abbrev Followed := List (Location × Option Location)

/-- The outcome of a resolution. -/
structure Resolved where
  /-- The names found. -/
  names : List String
  /-- Whether the whole path was resolved. -/
  complete : Bool
  /-- The links met. -/
  followed : Followed

/-- The target of a link that stands at a location. -/
def linkAt? (tree : FileTree) (location : Location) : Option String :=
  match tree.get? location with
  | some (.link target) => some target
  | _ => none

/-- Resolve names from a location, handing link targets over to `follow`. -/
def resolveWith (tree : FileTree) (follow : Followed → Location → List String → Resolved) :
    Followed → Location → List String → Resolved
  | followed, location, [] => ⟨location, true, followed⟩
  | followed, location, name :: rest =>
    if name = "" ∨ name = "." then resolveWith tree follow followed location rest
    else if name = ".." then resolveWith tree follow followed location.dropLast rest
    else
      let next := location ++ [name]
      match tree.linkAt? next with
      | none => resolveWith tree follow followed next rest
      | some target =>
        match followed.lookup next with
        | some (some known) => resolveWith tree follow followed known rest
        | some none => ⟨next ++ rest, false, followed⟩
        | none =>
          let inner := follow ((next, none) :: followed) (startOf location target) (steps target)
          if inner.complete then
            resolveWith tree follow ((next, some inner.names) :: inner.followed) inner.names rest
          else ⟨inner.names ++ rest, false, inner.followed⟩

/-- Resolve names from a location, links inside links up to a number of levels. -/
def resolveNames (tree : FileTree) : Nat → Followed → Location → List String → Resolved
  | 0 => resolveWith tree fun followed location names => ⟨location ++ names, false, followed⟩
  | levels + 1 => resolveWith tree (resolveNames tree levels)

/-- Drop empty names and points, and every double point with the name before it. -/
def normalizeNames (names : List String) : Location :=
  names.foldl
    (fun done name =>
      if name = "" ∨ name = "." then done
      else if name = ".." then done.dropLast
      else done ++ [name])
    []

/-- The canonical location of a path text, seen from a directory. -/
def realLocation (tree : FileTree) (directory : Location) (path : String) : Location :=
  let resolved := tree.resolveNames (tree.linkCount + 1) [] (startOf directory path) (steps path)
  normalizeNames resolved.names

/-- The fault of a path that loops through links. -/
def loopFault (path : String) : Fault :=
  .raised "RuntimeError" ("Symlink loop from " ++ Text.quoted path)

/-- The fault of a path with a name that is too long. -/
def tooLongFault (path : String) : Fault :=
  .raised "OSError" (Fault.systemMessage 36 "File name too long" (some (Text.quoted path)))

/-- The canonical form of a path; a loop of links is a fault. -/
def resolve (tree : FileTree) (directory : Location) (path : PurePath) : Except Fault PurePath :=
  if path.text.toList.contains '\x00' then .error PurePath.nullFault
  else
    let canonical := PurePath.ofLocation (tree.realLocation directory path.text)
    match tree.status directory canonical.text with
    | .error .tooManyLinks => .error (loopFault canonical.text)
    | _ => .ok canonical

/-- Whether a path leads anywhere; a name that is too long is a fault. -/
def pathExists (tree : FileTree) (directory : Location) (path : PurePath) : Except Fault Bool :=
  match tree.status directory path.text with
  | .ok _ => .ok true
  | .error .tooLong => .error (tooLongFault path.text)
  | .error _ => .ok false

/-- Whether a path leads to a directory; a name that is too long is a fault. -/
def pathIsDirectory (tree : FileTree) (directory : Location) (path : PurePath) :
    Except Fault Bool :=
  match tree.status directory path.text with
  | .ok entry => .ok entry.isDirectory
  | .error .tooLong => .error (tooLongFault path.text)
  | .error _ => .ok false

end FileTree

end LiveConsole
