import LiveConsole.Fault
import LiveConsole.FileTree.Walk

/-!
# Paths in normal form

A path in normal form keeps its names and drops empty ones and single points; double points stay,
since what they mean depends on links. A leading tilde stands for a home directory.
-/
namespace LiveConsole

open Text

/-- What a process sees of its surroundings besides the file tree. -/
structure Environment where
  /-- Variables and their values. -/
  bindings : List (String × String)
  /-- The login name of the running account, where one is known. -/
  account : Option String
  /-- Home directories of accounts by login name. -/
  homes : List (String × String)

namespace Environment

/-- The value of a variable. -/
def get? (environment : Environment) (name : String) : Option String :=
  environment.bindings.lookup name

/-- The value of a variable that is set to something. -/
def nonempty? (environment : Environment) (name : String) : Option String :=
  (environment.get? name).filter fun value => !value.isEmpty

end Environment

/-- A path in normal form. -/
structure PurePath where
  /-- What stands in front of the names: nothing, one slash or two. -/
  root : String
  /-- The names in order. -/
  parts : List String
  deriving DecidableEq, Repr

namespace PurePath

/-- The slashes that count at the front of a path: exactly two stay two, more are one. -/
def rootOf : List Char → String
  | '/' :: '/' :: '/' :: _ => "/"
  | '/' :: '/' :: _ => "//"
  | '/' :: _ => "/"
  | _ => ""

/-- The normal form of a path text. -/
def ofText (text : String) : PurePath where
  root := rootOf text.toList
  parts := (FileTree.steps text).filter fun name => name ≠ "" ∧ name ≠ "."

/-- The text of a path; the path without names is a single point. -/
def text (path : PurePath) : String :=
  if path.root = "" ∧ path.parts = [] then "." else path.root ++ joinWith "/" path.parts

/-- A path with one more name. -/
def child (path : PurePath) (name : String) : PurePath := { path with parts := path.parts ++ [name] }

/-- Whether a path starts at the root. -/
def isAbsolute (path : PurePath) : Bool := path.root ≠ ""

/-- The normal form of a location. -/
def ofLocation (location : Location) : PurePath := ⟨"/", location⟩

/-- The fault of a tilde for which there is no home directory. -/
def noHome : Fault := .raised "RuntimeError" "Could not determine home directory."

/-- Drop the slashes at the end of a home directory; nothing left means the root. -/
def cleanHome (home : String) : String :=
  let kept := String.ofList (dropEndWhile (· == '/') home.toList)
  if kept.isEmpty then "/" else kept

/-- The fault of a text with a null character where none can be. -/
def nullFault : Fault := .raised "ValueError" "embedded null byte"

/-- The home directory that a name with a tilde in front stands for. -/
def homeOf (environment : Environment) (name : String) : Except Fault (Option String) :=
  if name.toList.contains '\x00' then .error nullFault
  else
    let home :=
      if name = "~" then environment.get? "HOME"
      else environment.homes.lookup (String.ofList (name.toList.drop 1))
    .ok (home.map cleanHome)

/-- Replace a leading tilde by the home directory that it stands for. -/
def expandUser (environment : Environment) (path : PurePath) : Except Fault PurePath :=
  match path.root, path.parts with
  | "", first :: rest =>
    if first.startsWith "~" then
      match homeOf environment first with
      | .error fault => .error fault
      | .ok none => .error noHome
      | .ok (some home) =>
        if home.startsWith "~" then .error noHome
        else
          let home := ofText home
          .ok { home with parts := home.parts ++ rest }
    else .ok path
  | _, _ => .ok path

end PurePath

end LiveConsole
