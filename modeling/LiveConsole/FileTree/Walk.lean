import LiveConsole.FileTree.Basic

/-!
# Walking paths

A path is walked name by name. Symbolic links on the way are followed, their targets walked in their
place, up to a fixed number of links in one walk. Every name but the last must lead to a directory.
-/
namespace LiveConsole

open Text

/-- Why a walk leads nowhere. -/
inductive WalkFault where
  /-- A name that is not there. -/
  | missing
  /-- A name below something that is no directory. -/
  | notDirectory
  /-- More links than one walk may follow. -/
  | tooManyLinks
  /-- A name or a path that is too long. -/
  | tooLong
  /-- A path with a null character. -/
  | nullCharacter
  deriving DecidableEq, Repr

namespace FileTree

/-- The greatest number of links that one walk follows. -/
def maxLinks : Nat := 40

/-- The greatest number of bytes of a name. -/
def maxNameBytes : Nat := 255

/-- The greatest number of bytes of a path. -/
def maxPathBytes : Nat := 4095

/-- The names of a path text between its slashes. -/
def steps (path : String) : List String := (splitAt '/' path.toList).map String.ofList

/-- Where the walk of a path starts: at the root, or at the directory given. -/
def startOf (directory : Location) (path : String) : Location :=
  if path.toList.head? == some '/' then [] else directory

/-- Walk names from a location, handing links over to `follow` with what is left of the path. -/
def walkWith (tree : FileTree) (budget : Nat)
    (follow : Location → List String → Except WalkFault (Location × Nat)) :
    Location → List String → Except WalkFault (Location × Nat)
  | location, [] => .ok (location, budget)
  | location, name :: rest =>
    match tree.get? location with
    | some (.directory _) =>
      if name = "" ∨ name = "." then walkWith tree budget follow location rest
      else if name = ".." then walkWith tree budget follow location.dropLast rest
      else if maxNameBytes < name.utf8ByteSize then .error .tooLong
      else
        match tree.get? (location ++ [name]) with
        | none => .error .missing
        | some (.link target) =>
          if target = "" then .error .missing
          else follow (startOf location target) (steps target ++ rest)
        | some _ => walkWith tree budget follow (location ++ [name]) rest
    | _ => .error .notDirectory

/-- Walk names from a location with a number of links to spare; give the place and what is spared. -/
def walk (tree : FileTree) : Nat → Location → List String → Except WalkFault (Location × Nat)
  | 0 => walkWith tree 0 fun _ _ => .error .tooManyLinks
  | budget + 1 => walkWith tree (budget + 1) (walk tree budget)

/-- The place that a path leads to from a directory, and the number of links spared. -/
def locate (tree : FileTree) (directory : Location) (path : String) :
    Except WalkFault (Location × Nat) :=
  if path.toList.contains '\x00' then .error .nullCharacter
  else if path = "" then .error .missing
  else if maxPathBytes < path.utf8ByteSize then .error .tooLong
  else tree.walk maxLinks (startOf directory path) (steps path)

/-- The entry that a path leads to. -/
def status (tree : FileTree) (directory : Location) (path : String) : Except WalkFault Entry := do
  let (location, _) ← tree.locate directory path
  match tree.get? location with
  | some entry => .ok entry
  | none => .error .missing

/-- Whether a path leads to a regular file. -/
def isFile (tree : FileTree) (directory : Location) (path : String) : Bool :=
  match tree.status directory path with
  | .ok entry => entry.isFile
  | .error _ => false

/-- Whether a path leads to a directory. -/
def isDirectory (tree : FileTree) (directory : Location) (path : String) : Bool :=
  match tree.status directory path with
  | .ok entry => entry.isDirectory
  | .error _ => false

/-- Whether a path leads to something that may be read. -/
def isReadable (tree : FileTree) (directory : Location) (path : String) : Bool :=
  match tree.locate directory path with
  | .ok (location, _) => tree.allowsReading location
  | .error _ => false

end FileTree

end LiveConsole
