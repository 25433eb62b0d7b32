import LiveConsole.CommandLine.Flag
import LiveConsole.CommandLine.Usage
import LiveConsole.Text.Identifier
import LiveConsole.Text.Quoted

/-!
# Reading the command line

The words of a command line are first told apart one by one: flags, which may be shortened as long as
only one spelling begins like them and may have a value attached behind an equals sign, and all other
words. Then the flags are taken in order, each with its value. The first word that is not understood
stops the reading with a message; a call for help stops it too.
-/
namespace LiveConsole.CommandLine

/-- The value of a flag. -/
inductive FlagValue where
  /-- A text. -/
  | text (value : String)
  /-- Nothing but the two dashes behind which no word is a flag: they are taken out of the value. -/
  | blank
  deriving DecidableEq, Repr

/-- The value that a text attached to a flag stands for. -/
def FlagValue.ofAttached (attached : String) : FlagValue :=
  if attached = "--" then blank else text attached

/-- What a command line says. -/
structure Arguments where
  /-- Whether the basic read loop is asked for. -/
  basic : Bool
  /-- Whether values and status lines are to be left out. -/
  quiet : Bool
  /-- Whether all log records are to be written. -/
  debug : Bool
  /-- The action whose firing starts the console. -/
  hook : Option FlagValue
  /-- The path to watch. -/
  watch : Option FlagValue
  /-- The directory to run from. -/
  path : Option FlagValue
  /-- The module whose names the console starts with. -/
  bootstrap : Option FlagValue
  /-- The directory of the settings file. -/
  configDir : Option FlagValue
  /-- The prompt. -/
  prompt : Option FlagValue
  deriving DecidableEq, Repr

namespace Arguments

/-- A command line that says nothing. -/
def none : Arguments := ⟨false, false, false, .none, .none, .none, .none, .none, .none⟩

end Arguments

/-- Why a command line is not read to its end. -/
inductive Stop where
  /-- The help text is asked for. -/
  | help
  /-- Something is not understood. -/
  | wrong (message : String)
  deriving DecidableEq, Repr

/-- A word of a command line. -/
inductive Word where
  /-- A word that is no flag. -/
  | plain (text : String)
  /-- The two dashes behind which no word is a flag. -/
  | dashes
  /-- A flag in one of its spellings, with the value attached to it. -/
  | flag (flag : Flag) (spelling : String) (attached : Option String)
  /-- A word that looks like a flag and is none. -/
  | strange (text : String)
  deriving DecidableEq, Repr

/-- Split a word at its first equals sign. -/
def splitValue (word : List Char) : Option (List Char × List Char) :=
  match word.dropWhile (· != '=') with
  | _ :: value => some (word.takeWhile (· != '='), value)
  | [] => none

/-- Whether a word is a negative number: digits behind the sign, with at most one point among them. -/
def isNegativeNumber (word : List Char) : Bool :=
  match word with
  | '-' :: rest =>
    let whole := rest.takeWhile Text.isAnyDigit
    match rest.dropWhile Text.isAnyDigit with
    | [] => !whole.isEmpty
    | ['\n'] => !whole.isEmpty
    | '.' :: fraction =>
      let digits := fraction.takeWhile Text.isAnyDigit
      let rest := fraction.dropWhile Text.isAnyDigit
      !digits.isEmpty && (rest.isEmpty || rest == ['\n'])
    | _ => false
  | _ => false

/-- The spellings that begin like a word with two dashes in front, each with the value attached. -/
def longMatches (word : List Char) : List Word :=
  let (start, attached) :=
    match splitValue word with
    | some (start, value) => (start, some (String.ofList value))
    | none => (word, none)
  Flag.spelled.filterMap fun (spelling, flag) =>
    if start.isPrefixOf spelling.toList then some (.flag flag spelling attached) else none

/-- The spellings that a word with one dash in front may stand for. -/
def shortMatches (word : List Char) : List Word :=
  Flag.spelled.filterMap fun (spelling, flag) =>
    if spelling.toList = word.take 2 then some (.flag flag spelling (some (String.ofList (word.drop 2))))
    else if word.isPrefixOf spelling.toList then some (.flag flag spelling none)
    else none

/-- The spellings that a word with a dash in front may stand for. -/
def candidates (word : List Char) : List Word :=
  match word with
  | '-' :: '-' :: _ => longMatches word
  | _ => shortMatches word

/-- The message about a shortened flag that may stand for several. -/
def ambiguous (word : String) (found : List Word) : Stop :=
  let spellings := found.filterMap fun
    | .flag _ spelling _ => some spelling
    | _ => none
  .wrong ("ambiguous option: " ++ word ++ " could match " ++ String.intercalate ", " spellings)

/-- A flag that is spelled out in full, with or without a value attached. -/
def exactFlag? (word : String) : Option Word :=
  match Flag.ofSpelling? word with
  | some flag => some (.flag flag word none)
  | none =>
    match splitValue word.toList with
    | none => none
    | some (spelling, value) =>
      (Flag.ofSpelling? (String.ofList spelling)).map fun flag =>
        .flag flag (String.ofList spelling) (some (String.ofList value))

/-- Tell what a word is. -/
def classify (word : String) : Except Stop Word :=
  match word.toList with
  | '-' :: c :: rest =>
    match exactFlag? word with
    | some found => .ok found
    | none =>
      match candidates ('-' :: c :: rest) with
      | [found] => .ok found
      | first :: second :: more => .error (ambiguous word (first :: second :: more))
      | [] =>
        if isNegativeNumber word.toList || word.toList.contains ' ' then .ok (.plain word)
        else .ok (.strange word)
  | _ => .ok (.plain word)

/-- Tell what the words of a command line are; behind two dashes no word is a flag. -/
def classifyAll : List String → Except Stop (List Word)
  | [] => .ok []
  | "--" :: rest => .ok (.dashes :: rest.map .plain)
  | word :: rest => do
    let found ← classify word
    let others ← classifyAll rest
    return found :: others

/-- Take a flag that stands alone. -/
def switchOn (arguments : Arguments) : Flag → Except Stop Arguments
  | .help => .error .help
  | .basic => .ok { arguments with basic := true }
  | .quiet => .ok { arguments with quiet := true }
  | .debug => .ok { arguments with debug := true }
  | _ => .ok arguments

/-- Take a flag with its value. -/
def setValue (arguments : Arguments) (flag : Flag) (value : FlagValue) : Arguments :=
  match flag with
  | .hook => { arguments with hook := some value }
  | .watch => { arguments with watch := some value }
  | .path => { arguments with path := some value }
  | .bootstrap => { arguments with bootstrap := some value }
  | .config => { arguments with configDir := some value }
  | .prompt => { arguments with prompt := some value }
  | _ => arguments

/-- The message about a value attached to a flag that takes none. -/
def ignoredValue (flag : Flag) (value : List Char) : Stop :=
  .wrong ("argument " ++ flag.title ++ ": ignored explicit argument " ++ Text.quoted (String.ofList value))

/-- The message about a flag without its value. -/
def missingValue (flag : Flag) : Stop :=
  .wrong ("argument " ++ flag.title ++ ": expected one argument")

/-- Take a flag that stands alone from letters written in one word; only `h` is such a letter. -/
def takeLetters (flag : Flag) : List Char → Stop
  | [] => .help
  | 'h' :: rest => takeLetters flag rest
  | letters => ignoredValue flag letters

/-- Take a flag that stands alone but has something attached. -/
def refuseAttached (flag : Flag) (spelling : String) (attached : String) : Stop :=
  if spelling = "-h" && !attached.isEmpty then takeLetters flag attached.toList
  else ignoredValue flag attached.toList

/-- Take flags in order; the words that no flag takes are left over. -/
def takeAll (arguments : Arguments) : List Word → Except Stop (Arguments × List String)
  | [] => .ok (arguments, [])
  | .plain text :: rest => (takeAll arguments rest).map fun (found, left) => (found, text :: left)
  | .strange text :: rest => (takeAll arguments rest).map fun (found, left) => (found, text :: left)
  | .dashes :: rest => (takeAll arguments rest).map fun (found, left) => (found, "--" :: left)
  | .flag flag _ none :: rest =>
    if flag.takesValue then
      match rest with
      | .plain value :: rest => takeAll (setValue arguments flag (.text value)) rest
      | _ => .error (missingValue flag)
    else
      match switchOn arguments flag with
      | .ok arguments => takeAll arguments rest
      | .error stop => .error stop
  | .flag flag spelling (some attached) :: rest =>
    if flag.takesValue then takeAll (setValue arguments flag (.ofAttached attached)) rest
    else .error (refuseAttached flag spelling attached)

/-- Read a command line. -/
def read (words : List String) : Except Stop Arguments := do
  let (arguments, left) ← takeAll .none (← classifyAll words)
  if left.isEmpty then return arguments
  else throw (.wrong ("unrecognized arguments: " ++ String.intercalate " " left))

/-- The exit code of a command line that is not read to its end. -/
def Stop.code : Stop → Nat
  | help => 0
  | wrong _ => 2

/-- What is written to the output, in lines of a width, about a command line not read to its end. -/
def Stop.output (width : Int) : Stop → String
  | help => CommandLine.help width
  | wrong _ => ""

/-- What is written to the error output about a command line that is not read to its end. -/
def Stop.errorOutput (width : Int) : Stop → String
  | help => ""
  | wrong message => refusal width message

end LiveConsole.CommandLine
