import LiveConsole.CommandLine.Flag
import LiveConsole.FileTree.Path
import LiveConsole.Number.Reading
import LiveConsole.Text.Wrap

/-!
# Usage and help

The texts that tell how the command line is used are set in columns: the usage in front, then what the
program does, then each flag with its explanation beside it. How wide they are, the surroundings say.
-/
namespace LiveConsole.CommandLine

/-- The name of the program. -/
def programName : String := "live-shell"

/-- What the program does. -/
def purpose : String :=
  "Opens an interactive Python console for running and testing code inside the running process. " ++
    "Type a statement or expression and see it execute; type 'restart' to reload code, 'exit' to leave."

namespace Flag

/-- What stands for the value of a flag that takes one. -/
def valueName? : Flag → Option String
  | hook => some "HOOK"
  | watch => some "WATCH"
  | path => some "PATH"
  | bootstrap => some "BOOTSTRAP"
  | config => some "CONFIG_DIR"
  | prompt => some "PROMPT"
  | help | basic | quiet | debug => none

/-- What a flag does. -/
def explanation : Flag → String
  | help => "show this help message and exit"
  | basic => "Force the built-in REPL, even if IPython or ptpython are available."
  | quiet => "Suppress status lines and '=> ' values."
  | hook => "Start the shell once this action has fired."
  | watch => "Restart the shell when this file or directory changes."
  | path => "Host project directory to run from."
  | bootstrap => "Module whose globals become the shell namespace."
  | config => "Directory containing shell.yaml."
  | prompt => "Prompt for each new line."
  | debug => "Enable debug logging."

/-- A spelling of a flag with what stands for its value. -/
def withValue (flag : Flag) (spelling : String) : String :=
  match flag.valueName? with
  | none => spelling
  | some name => spelling ++ " " ++ name

/-- A flag as the usage shows it: its first spelling, in brackets. -/
def bracketed (flag : Flag) : String := "[" ++ flag.withValue (flag.spellings.headD "") ++ "]"

/-- A flag as the help text lists it: all its spellings. -/
def heading (flag : Flag) : String := String.intercalate ", " (flag.spellings.map flag.withValue)

end Flag

/-! ## The width -/

/-- The width of the page where the surroundings do not say one. -/
def usualColumns : Int := 80

/-- The width of the page in the surroundings: that of a variable, if it is a positive integer. -/
def columns (environment : Environment) : Int :=
  match environment.get? "COLUMNS" with
  | none => usualColumns
  | some text =>
    match Number.integerIn 10 text.toList with
    | .ok value => if 0 < value then value else usualColumns
    | .error _ => usualColumns

/-- The width that texts are set in: two columns stay free. -/
def textWidth (environment : Environment) : Int := columns environment - 2

/-! ## The usage -/

/-- So many spaces. -/
def spaces (count : Nat) : String := String.ofList (List.replicate count ' ')

/-- Set parts in rows with a space between two, given how wide the row that is open is. -/
def rows (width : Int) (indent : Nat) : Int → List String → List String → List String
  | _, row, [] => if row.isEmpty then [] else [String.intercalate " " row]
  | used, row, part :: rest =>
    let size : Int := part.length + 1
    if width < used + size ∧ !row.isEmpty then
      String.intercalate " " row :: rows width indent ((indent : Int) - 1 + size) [part] rest
    else rows width indent (used + size) (row ++ [part]) rest

/-- What stands in front of the usage. -/
def usageStart : String := "usage: "

/-- How the command line is used. The flags stand in one line if they fit, else indented behind the
name of the program, or below it if it takes more than three quarters of the width. -/
def usage (width : Int) : String :=
  let parts := Flag.all.map Flag.bracketed
  let line := String.intercalate " " (programName :: parts)
  let start := usageStart.length + programName.length
  if ((usageStart.length + line.length : Nat) : Int) ≤ width then usageStart ++ line ++ "\n"
  else
    let indent := if 4 * (start : Int) ≤ 3 * width then start + 1 else usageStart.length
    let found :=
      if 4 * (start : Int) ≤ 3 * width then
        rows width indent ((usageStart.length : Int) - 1) [] (programName :: parts)
      else programName :: rows width indent ((indent : Int) - 1) [] parts
    usageStart ++ String.intercalate ("\n" ++ spaces indent) found ++ "\n"

/-! ## The help text -/

/-- How far headings of flags are indented. -/
def headingIndent : Nat := 2

/-- The column where explanations start: two behind the longest heading, within limits. -/
def explanationColumn (width : Int) : Nat :=
  let longest := (Flag.all.map fun flag => flag.heading.length).foldl max 0
  min (headingIndent + longest + 2) (min 24 (max (width - 20) 4).toNat)

/-- The least width of running text. -/
def leastWidth : Int := 11

/-- A flag with its explanation, which starts in a line of its own behind a long heading. -/
def entry (width : Int) (flag : Flag) : String :=
  let column := explanationColumn width
  let lines := Text.wrapped (max (width - column) leastWidth) flag.explanation
  let heading := spaces headingIndent ++ flag.heading
  let gap :=
    if heading.length + 2 ≤ column then spaces (column - heading.length) else "\n" ++ spaces column
  heading ++ gap ++ String.intercalate ("\n" ++ spaces column) lines ++ "\n"

/-- The help text. -/
def help (width : Int) : String :=
  usage width ++ "\n" ++
    String.intercalate "\n" (Text.wrapped (max width leastWidth) purpose) ++ "\n\noptions:\n" ++
    String.join (Flag.all.map (entry width))

/-- What is written about a command line that is not understood. -/
def refusal (width : Int) (message : String) : String :=
  usage width ++ programName ++ ": error: " ++ message ++ "\n"

end LiveConsole.CommandLine
