import LiveConsole.FileTree.Real
import LiveConsole.Options.Basic
import LiveConsole.Yaml.Data

/-!
# The settings file

Values for options can be kept in a YAML file, as a mapping from names to values. A file that is not
there, and one whose value counts as false, give no values; any other value is refused.
-/
namespace LiveConsole.Settings

open Yaml (Data Scalar)

/-- The name of the settings file. -/
def fileName : String := "shell.yaml"

/-- Settings: values under keys, which need not be names of options. -/
abbrev Entries := List (Scalar × Data)

/-- A fault of the settings file as a whole. -/
def fault (message : String) : Fault := .configuration message none

/-- The fault of a file that is not YAML. -/
def malformed : Fault := fault ("Failed to parse " ++ fileName ++ ": ")

/-- The fault of a file whose value is no mapping. -/
def notMapping : Fault := fault (fileName ++ " must contain a mapping of options")

/-- The fault of a directory in the place of the file. -/
def isDirectory (path : PurePath) : Fault :=
  fault ("Failed to read " ++ fileName ++ ": " ++
    Fault.systemMessage 21 "Is a directory" (some (Text.quoted path.text)))

/-- The settings that the value of a document holds. -/
def ofData (data : Data) : Except Fault Entries :=
  if !data.truthy then .ok []
  else
    match data with
    | .dict entries => .ok entries
    | _ => .error notMapping

/-- The settings that the bytes of a file spell. -/
def ofBytes (content : List UInt8) : Except Fault Entries :=
  match Yaml.readData (.ofBytes content) with
  | .ok data => ofData data
  | .error .malformed | .error .ended => .error malformed
  | .error (.unbuildable fault) => .error fault

/-- The path of the settings file in a directory; a name without characters is the working directory. -/
def file (directory : String) : PurePath := (PurePath.ofText directory).child fileName

/-- Load the settings file of a directory. -/
def load (place : Place) (directory : String) : Except Fault Entries := do
  let path := file directory
  if !(← place.tree.pathExists place.directory path) then return []
  match place.tree.status place.directory path.text with
  | .ok (.file _ content _) => ofBytes content
  | .ok _ => throw (isDirectory path)
  | .error _ => return []

/-- A setting as a value given for an option. -/
def given : Data → Given
  | .scalar (.plain value) => .ofValue .empty value
  | .scalar (.broken codes) => .codes codes
  | _ => .other

/-- A key as the name of an option, if it is a text. -/
def nameOf? : Scalar → Option String
  | .plain (.text name _ _) => some name
  | .broken codes => some codes.shown
  | _ => none

/-- Settings as values given for options. -/
def values (entries : Entries) : Options.Values :=
  entries.map fun entry => (nameOf? entry.1, given entry.2)

end LiveConsole.Settings
