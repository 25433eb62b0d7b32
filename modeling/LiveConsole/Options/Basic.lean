import LiveConsole.Options.Given
import LiveConsole.Session

/-!
# Options

The options of one start of the console. They are built from values given by name: each option is read
and checked in a fixed order, the first problem is the fault, and names that are no options are problems
behind all others. Some faults of a check are not problems of the value and stop the building at once.
Options can be written as flags from which the same options are read again.
-/
namespace LiveConsole

/-- The options of one start of the console; paths are kept as they are written. -/
structure Options where
  /-- The prompt for each new line. -/
  prompt : String
  /-- Whether the basic read loop is used whatever else is installed. -/
  basic : Bool
  /-- Whether values and status lines are left out. -/
  quiet : Bool
  /-- The action whose firing starts the console. -/
  hook : Option String
  /-- The path to watch. -/
  watch : Option String
  /-- The directory to run from. -/
  path : Option String
  /-- The module whose names the console starts with. -/
  bootstrap : Option String
  /-- The directory of the settings file. -/
  configDir : Option String
  /-- Whether the prompt may be part of a command line; in place of codes that belong to no character it
  holds stand-ins. -/
  asksWell : Bool
  deriving DecidableEq, Repr

/-- What checks of options look at. -/
structure Place where
  /-- Variables, account and home directories. -/
  environment : Environment
  /-- The file tree. -/
  tree : FileTree
  /-- The working directory. -/
  directory : Location

namespace Options

/-- The options when nothing is given. -/
def usual : Options := ⟨usualPrompt, false, false, none, none, none, none, none, true⟩

/-- Values given by name, in the order in which they were given; a name need not be a text. -/
abbrev Values := List (Option String × Given)

/-- A problem of one option: its name and the message. -/
structure Problem where
  /-- The name of the option; a name without characters is none. -/
  name : String
  /-- What is wrong. -/
  message : String
  deriving DecidableEq, Repr

/-- The fault of a problem. -/
def Problem.fault (problem : Problem) : Fault :=
  .configuration problem.message (if problem.name.isEmpty then none else some problem.name)

/-- The outcome of a check: a value or a problem, unless a fault stops everything. -/
abbrev Checked (Result : Type) := Except Fault (Except String Result)

/-- A check that finds no fault that stops everything. -/
def plain {Result : Type} (result : Except String Result) : Checked Result := .ok result

/-- A fault of a check: problems of the value stay problems, all else stops everything. -/
def ofFault {Result : Type} : Fault → Checked Result
  | .configuration message _ => .ok (.error message)
  | .raised "ValueError" message => .ok (.error message)
  | fault => .error fault

/-- A check on the value that was read before. -/
def andThen {Read Result : Type} (read : Except String Read)
    (check : Read → Except Fault Result) : Checked Result :=
  match read with
  | .error problem => .ok (.error problem)
  | .ok value =>
    match check value with
    | .ok result => .ok (.ok result)
    | .error fault => ofFault fault

/-- The name of an action without blanks at its ends; a blank name is refused. -/
def checkHook (name : String) : Except Fault String :=
  let name := Text.trimmed name
  if name.isEmpty then .error (.configuration "The hook name cannot be empty." (some "hook"))
  else .ok name

/-- The canonical form of the path to watch. -/
def checkWatch (place : Place) (path : PurePath) : Except Fault PurePath :=
  Watch.resolve place.environment place.tree place.directory path.text

/-- The canonical form of the directory to run from. -/
def checkPath (place : Place) (path : PurePath) : Except Fault PurePath := do
  let expanded ← path.expandUser place.environment
  if ← place.tree.pathIsDirectory place.directory expanded then
    place.tree.resolve place.directory expanded
  else
    throw (.configuration ("The path '" ++ path.text ++ "' is not a directory.") (some "path"))

/-- The canonical form of the directory of the settings file, which need not be there. -/
def checkConfigDir (place : Place) (path : PurePath) : Except Fault PurePath := do
  place.tree.resolve place.directory (← path.expandUser place.environment)

/-- The value given for an option; nothing is the same as not given. -/
def given? (values : Values) (name : String) : Option Given :=
  match values.lookup (some name) with
  | some .nothing => none
  | value => value

/-- Check the value given for an option, if one is; problems are put behind those found before. -/
def field {Result : Type} (values : Values) (name : String) (check : Given → Checked Result)
    (problems : List Problem) : Except Fault (Option Result × List Problem) :=
  match given? values name with
  | none => .ok (none, problems)
  | some value => do
    match ← check value with
    | .ok result => return (some result, problems)
    | .error message => return (none, problems ++ [⟨name, message⟩])

/-- The names of all options. -/
def names : List String :=
  ["prompt", "basic", "quiet", "hook", "watch", "path", "bootstrap", "config_dir"]

/-- The problem of a name that is no option. -/
def unknownName : String := "Extra inputs are not permitted"

/-- The problems of names that are no options. -/
def unknownProblems (values : Values) : List Problem :=
  values.filterMap fun
    | (some name, value) =>
      if value == .nothing || names.contains name then none else some ⟨name, unknownName⟩
    | (none, _) => none

/-- Check all values in the order of the options; the options count only without problems. -/
def check (place : Place) (values : Values) : Except Fault (Options × List Problem) := do
  let (prompt, problems) ← field values "prompt" (fun value => plain value.asText) []
  let (basic, problems) ← field values "basic" (fun value => plain value.asTruth) problems
  let (quiet, problems) ← field values "quiet" (fun value => plain value.asTruth) problems
  let (hook, problems) ← field values "hook" (fun value => andThen value.asText checkHook) problems
  let (watch, problems) ←
    field values "watch" (fun value => andThen value.asPath (checkWatch place)) problems
  let (path, problems) ←
    field values "path" (fun value => andThen value.asPath (checkPath place)) problems
  let (bootstrap, problems) ← field values "bootstrap" (fun value => plain value.asText) problems
  let (configDir, problems) ←
    field values "config_dir" (fun value => andThen value.asPath (checkConfigDir place)) problems
  return (⟨prompt.getD usualPrompt, basic.getD false, quiet.getD false, hook,
    watch.map PurePath.text, path.map PurePath.text, bootstrap, configDir.map PurePath.text,
    (given? values "prompt").all Given.isPassable⟩,
    problems ++ unknownProblems values)

/-- The fault of names that are not all texts. -/
def namesNotText : Fault := .raised "TypeError" "keywords must be strings"

/-- The fault of the one name that stands for the kind of options itself. -/
def reservedName : Fault :=
  .raised "TypeError" "ShellOptions.build() got multiple values for argument 'cls'"

/-- Build options from values given by name. -/
def build (place : Place) (values : Values) : Except Fault Options := do
  if values.any fun entry => entry.1.isNone then throw namesNotText
  if values.any fun entry => entry.1 == some "cls" then throw reservedName
  let (options, problems) ← check place values
  match problems.head? with
  | none => return options
  | some problem => throw problem.fault

/-- A flag without a value, where it is set. -/
def switch (flag : String) (isSet : Bool) : List String := if isSet then [flag] else []

/-- A flag with a value that may be missing. -/
def valued (flag : String) : Option String → List String
  | some value => [flag ++ "=" ++ value]
  | none => []

/-- A text that is not empty. -/
def nonempty (text : Option String) : Option String := text.filter fun text => !text.isEmpty

/-- The flags that these options are read from again. -/
def toArgs (options : Options) : List String :=
  switch "--basic" options.basic ++
  switch "--quiet" options.quiet ++
  (if options.prompt = usualPrompt then [] else valued "--prompt" (some options.prompt)) ++
  valued "--hook" (nonempty options.hook) ++
  valued "--watch" (nonempty options.watch) ++
  valued "--path" (nonempty options.path) ++
  valued "--bootstrap" (nonempty options.bootstrap) ++
  valued "--config" (nonempty options.configDir)

end Options

end LiveConsole
