import LiveConsole.CommandLine.Arguments
import LiveConsole.Settings

/-!
# Flags and settings together

Each value given by a flag takes the place of the one in the settings file, and the directory of the
settings file is always the one that was looked into. A console can be moved into a directory of its
own before it starts.
-/
namespace LiveConsole

namespace Options

/-- Give a value, in the place of one that is given by the same name. -/
def give (values : Values) (name : String) (value : Given) : Values :=
  if values.any fun entry => entry.1 == some name then
    values.map fun entry => if entry.1 = some name then (entry.1, value) else entry
  else values ++ [(some name, value)]

end Options

namespace CommandLine

/-- The value of a flag, given for an option. -/
def FlagValue.given : FlagValue → Given
  | text value => .text value
  | blank => .other

namespace Arguments

/-- The values that are given by flags, with the names of their options. -/
def given (arguments : Arguments) : List (String × Given) :=
  let switch := fun (name : String) (isSet : Bool) => if isSet then [(name, Given.bool true)] else []
  let valued := fun (name : String) (value : Option FlagValue) =>
    (value.map fun value => (name, value.given)).toList
  switch "basic" arguments.basic ++ switch "quiet" arguments.quiet ++ valued "hook" arguments.hook ++
    valued "watch" arguments.watch ++ valued "path" arguments.path ++
    valued "bootstrap" arguments.bootstrap ++ valued "prompt" arguments.prompt

/-- The directory of the settings file as it is given; without a text it is the working directory. -/
def settingsText (arguments : Arguments) : String :=
  match arguments.configDir with
  | some (.text directory) => directory
  | _ => ""

/-- The directory of the settings file in canonical form. -/
def settingsDirectory (place : Place) (arguments : Arguments) : Except Fault PurePath :=
  Options.checkConfigDir place (PurePath.ofText arguments.settingsText)

/-- The values of settings, with those that flags give in their places. -/
def merge (arguments : Arguments) (directory : PurePath) (settings : Options.Values) :
    Options.Values :=
  arguments.given.foldl (fun values entry => Options.give values entry.1 entry.2)
    (Options.give settings "config_dir" (.path directory))

/-- The options that settings and flags give together. -/
def options (place : Place) (arguments : Arguments) : Except Fault Options := do
  let directory ← arguments.settingsDirectory place
  let settings ← Settings.load place directory.text
  Options.build place (arguments.merge directory (Settings.values settings))

end Arguments

end CommandLine

/-- Where a console runs: the working directory, and the directories that modules are looked for in. -/
structure Standing where
  /-- The working directory. -/
  directory : Location
  /-- The directories put in front of those that modules are looked for in. -/
  searched : List String
  deriving DecidableEq, Repr

namespace Options

/-- Move into the directory to run from, and look for modules there first. -/
def prepare (options : Options) (standing : Standing) : Standing :=
  match options.path with
  | none => standing
  | some path =>
    ⟨(PurePath.ofText path).parts,
      if standing.searched.contains path then standing.searched else path :: standing.searched⟩

end Options

end LiveConsole
