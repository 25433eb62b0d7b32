import LiveConsole.FileTree.Walk

/-!
# Changes to a file tree

A change creates, replaces or removes one entry. Parents that are missing are created with the usual
time; no change touches the time of any entry but its own. A location that a change closes stays closed
for whatever stands there later.
-/
namespace LiveConsole

/-- What a change says of a file or a directory besides its contents. -/
structure Traits where
  /-- When it was last changed. -/
  modified : Time
  /-- Whether a file may be read or a directory listed. -/
  readable : Bool
  /-- Whether its own time can be read when it is asked for. -/
  timed : Bool
  deriving DecidableEq, Repr

/-- One change to a file tree, its path seen from a fixed directory. -/
inductive Change where
  /-- Create or overwrite a file. -/
  | file (path : String) (traits : Traits) (content : List UInt8) (executable : Bool)
  /-- Create a directory, or give one that is there the traits. -/
  | directory (path : String) (traits : Traits)
  /-- Create a symbolic link. -/
  | link (path : String) (target : String)
  /-- Remove a file, a link or a whole directory. -/
  | remove (path : String)
  deriving Repr

namespace FileTree

/-- The time of what is created without a time of its own. -/
def usualTime : Time := 1000000000000

/-- The tree that holds nothing but its root. -/
def root : FileTree := { entries := [([], .directory usualTime)] }

/-- The traits of what is created along the way. -/
def usualTraits : Traits := ⟨usualTime, true, true⟩

/-- Follow names from a location, creating the directories that are missing. -/
def ensureDirectories (tree : FileTree) (location : Location) : List String → FileTree × Location
  | [] => (tree, location)
  | name :: rest =>
    if name = "" ∨ name = "." then tree.ensureDirectories location rest
    else
      match tree.walk maxLinks location [name] with
      | .ok (next, _) => tree.ensureDirectories next rest
      | .error _ =>
        (tree.put (location ++ [name]) (.directory usualTime)).ensureDirectories
          (location ++ [name]) rest

/-- The directory that a path's last name stands in, created if need be, and the last name. -/
def ensureParent (tree : FileTree) (directory : Location) (path : String) :
    FileTree × Location × String :=
  let names := (steps path).filter fun name => name ≠ "" ∧ name ≠ "."
  let (tree, parent) := tree.ensureDirectories (startOf directory path) names.dropLast
  (tree, parent, names.getLast?.getD "")

/-- The place of a name in a directory; a link in its place is followed when it leads somewhere. -/
def placeOf (tree : FileTree) (parent : Location) (name : String) : Location :=
  match tree.walk maxLinks parent [name] with
  | .ok (location, _) => location
  | .error _ => if name = "" then parent else parent ++ [name]

/-- Close a location as far as traits say; a location that is closed stays so. -/
def close (tree : FileTree) (location : Location) (traits : Traits) : FileTree :=
  { tree with
    unreadable := tree.unreadable ++ if traits.readable then [] else [location]
    untimed := tree.untimed ++ if traits.timed then [] else [location] }

/-- Apply a change, its path seen from a directory. -/
def apply (tree : FileTree) (directory : Location) : Change → FileTree
  | .file path traits content executable =>
    let (tree, parent, name) := tree.ensureParent directory path
    let place := tree.placeOf parent name
    (tree.put place (.file traits.modified content executable)).close place traits
  | .directory path traits =>
    let (tree, parent, name) := tree.ensureParent directory path
    let place := tree.placeOf parent name
    (tree.put place (.directory traits.modified)).close place traits
  | .link path target =>
    let (tree, parent, name) := tree.ensureParent directory path
    tree.put (parent ++ [name]) (.link target)
  | .remove path =>
    let (tree, parent, name) := tree.ensureParent directory path
    if name = "" then tree else tree.remove (parent ++ [name])

/-- Apply changes in order. -/
def applyAll (tree : FileTree) (directory : Location) (changes : List Change) : FileTree :=
  changes.foldl (fun tree change => tree.apply directory change) tree

end FileTree

end LiveConsole
