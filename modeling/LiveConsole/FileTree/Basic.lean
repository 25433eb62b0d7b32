import LiveConsole.Text.Blank
import LiveConsole.Text.Utf8
import LiveConsole.Number.Arithmetic
import LiveConsole.Number.Shortest

/-!
# File trees

A file tree maps locations to entries. A location is the list of names on the way from the root; an
entry is a file, a directory or a symbolic link. Times count nanoseconds and are written in seconds.
-/
namespace LiveConsole

open Text

/-- The time of a modification, in nanoseconds. -/
abbrev Time := Int

namespace Time

/-- The nanoseconds of a second. -/
def perSecond : Int := 1000000000

/-- A number of the 64-bit binary format times the nanoseconds of a second. -/
def scaled (value : Number.Binary64) : Number.Binary64 :=
  value.multiply (Number.Binary64.ofInt perSecond)

/-- The time of a finite number of seconds. Its whole seconds count in full; the rest is scaled in the
same format and goes down to a whole nanosecond. -/
def ofSeconds? (value : Number.Binary64) : Option Time := do
  let (top, bottom) ← value.fraction?
  let whole := top.tdiv bottom
  let rest := top - whole * bottom
  let (top, bottom) ← (scaled (Number.Binary64.nearest (rest < 0) rest.natAbs bottom)).fraction?
  return whole * perSecond + top.fdiv bottom

/-- The time of a number of seconds in decimal notation; only digits stand for themselves exactly. -/
def ofText? (text : String) : Option Time :=
  match text.toInt? with
  | some seconds => some (seconds * perSecond)
  | none => (Number.DecimalText.read? text.toList).bind fun found => ofSeconds? found.toBinary64

/-- The time as a number of seconds: its whole seconds and the rest, added in the 64-bit format. -/
def seconds (time : Time) : Number.Binary64 :=
  let rest := (Number.Binary64.ofDecimal false 1 (-9)).multiply
    (Number.Binary64.ofInt (time.fmod perSecond))
  (Number.Binary64.ofInt (time.fdiv perSecond)).add rest

/-- The text of a time in seconds. -/
def text (time : Time) : String := Number.Layout.alone.write time.seconds

/-- The later of two times by their numbers of seconds; the first one where these are the same. -/
def later (newest time : Time) : Time :=
  if time.seconds.isAbove newest.seconds then time else newest

/-- Whether two times are the same number of seconds. -/
def isSame (left right : Time) : Bool := left.seconds.compare? right.seconds == some .eq

end Time

/-- The names on the way from the root to an entry. -/
abbrev Location := List String

namespace Location

/-- The text of a location, as an absolute path. -/
def text (location : Location) : String := "/" ++ joinWith "/" location

end Location

/-- One place of a file tree. -/
inductive Entry where
  /-- A regular file with its bytes, and whether it may be run. -/
  | file (modified : Time) (content : List UInt8) (executable : Bool)
  /-- A directory. -/
  | directory (modified : Time)
  /-- A symbolic link. -/
  | link (target : String)
  deriving DecidableEq, Repr

namespace Entry

/-- Whether an entry is a directory. -/
def isDirectory : Entry → Bool
  | directory _ => true
  | _ => false

/-- Whether an entry is a regular file. -/
def isFile : Entry → Bool
  | file .. => true
  | _ => false

/-- When a file or a directory was last changed. -/
def modified? : Entry → Option Time
  | file modified .. => some modified
  | directory modified => some modified
  | link _ => none

end Entry

/-- A finite map from locations to entries. Some locations are closed, whatever stands there. -/
structure FileTree where
  /-- Location and entry of each place; every location at most once. -/
  entries : List (Location × Entry) := []
  /-- The locations where no file may be read and no directory listed. -/
  unreadable : List Location := []
  /-- The locations whose own time cannot be read when it is asked for. -/
  untimed : List Location := []

namespace FileTree

/-- The entry at a location. -/
def get? (tree : FileTree) (location : Location) : Option Entry := tree.entries.lookup location

/-- Put an entry at a location, in place of the one there. -/
def put (tree : FileTree) (location : Location) (entry : Entry) : FileTree :=
  if (tree.get? location).isSome then
    { tree with
      entries := tree.entries.map fun place => if place.1 = location then (location, entry) else place }
  else { tree with entries := tree.entries ++ [(location, entry)] }

/-- Remove a location and everything below it. -/
def remove (tree : FileTree) (location : Location) : FileTree :=
  { tree with entries := tree.entries.filter fun place => !location.isPrefixOf place.1 }

/-- Whether the entry at a location may be read or listed. -/
def allowsReading (tree : FileTree) (location : Location) : Bool := !tree.unreadable.contains location

/-- The name of a location inside a directory, when it stands directly in it. -/
def nameIn (directory : Location) (location : Location) : Option String :=
  match directory, location with
  | [], [name] => some name
  | step :: directory, name :: location => if step = name then nameIn directory location else none
  | _, _ => none

/-- The entries that stand directly in a directory, with their names. -/
def children (tree : FileTree) (directory : Location) : List (String × Entry) :=
  tree.entries.filterMap fun place => (nameIn directory place.1).map fun name => (name, place.2)

/-- No location of the tree has more names than this. -/
def depth (tree : FileTree) : Nat :=
  tree.entries.foldl (fun depth place => max depth place.1.length) 0

/-- The number of symbolic links. -/
def linkCount (tree : FileTree) : Nat :=
  (tree.entries.filter fun place => match place.2 with | .link _ => true | _ => false).length

end FileTree

end LiveConsole
