import LiveConsole.Shell.Format
import LiveConsole.Shell.Process

/-!
# Commands of a shell

The commands that a shell runs itself: those that read a line, keep the history, set variables, test and
write. A few small programs that do the same are among them.
-/
namespace LiveConsole.Shell

namespace Process

/-! ## Reading a line -/

/-- What a line is read into. -/
structure Reading where
  /-- Whether backslashes stand for themselves. -/
  raw : Bool
  /-- The variables, the last of which takes the rest of the line. -/
  names : List String
  deriving DecidableEq, Repr

/-- The arguments of the command that reads a line; nothing when they are not understood. -/
def readingOf (dialect : Dialect) : Bool → List Bytes → Option Reading
  | raw, [] => some ⟨raw, []⟩
  | raw, word :: rest =>
    match textOf word, rest with
    | "-p", _ :: rest => readingOf dialect raw rest
    | "-r", rest => readingOf dialect true rest
    | "-re", rest => if dialect = .bash then readingOf dialect true rest else none
    | "-e", rest => if dialect = .bash then readingOf dialect raw rest else none
    | "-s", rest => if dialect = .bash then readingOf dialect raw rest else none
    | _, rest => some ⟨raw, (word :: rest).map textOf⟩

/-- Whether a byte separates words here: a blank among the separators that are set. -/
def separates (process : Process) (byte : UInt8) : Bool :=
  isSeparator byte && (process.value separatorVariable).contains byte

/-- Give the words of a line to variables in order; the last one takes the rest. -/
def assignWords (process : Process) (separates : UInt8 → Bool) : List String → Bytes → Process
  | [], _ => process
  | [name], line =>
    let line := line.dropWhile separates
    process.setVariable name (line.reverse.dropWhile separates).reverse
  | name :: rest, line =>
    let line := line.dropWhile separates
    let word := line.takeWhile fun byte => !separates byte
    assignWords (process.setVariable name word) separates rest (line.drop word.length)

/-- Read a line into variables; a line that no line feed ends is a failure. -/
def readLine (process : Process) (reading : Reading) : Process :=
  let isWide := process.dialect = .bash ∧ hasWideCharacters process.system.environment
  let wanted := if isWide then bytesBehind else fun _ => 0
  let line :=
    if reading.raw then InputLine.take wanted 0 process.system.input
    else InputLine.takeShielded wanted 0 process.system.input
  let names := if reading.names.isEmpty then ["REPLY"] else reading.names
  let process := { process with system := { process.system with input := line.rest } }
  (process.assignWords process.separates names line.text).finish (if line.ended then 0 else 1)

/-! ## The history -/

/-- The command that loads, changes and writes the history. -/
def runHistory (process : Process) (arguments : List Bytes) : Process :=
  if arguments.contains HistoryList.helpOption then
    (process.put (ofText HistoryList.help)).finish 2
  else
    match arguments with
    | [option, argument] =>
      match textOf option with
      | "-r" =>
        match process.system.fileAt? (textOf argument) with
        | none => process.finish 1
        | some file =>
          { process with history := process.history ++ HistoryList.load file, status := 0 }
      | "-s" =>
        let pushed := HistoryList.push process.history argument
        { process with history := pushed.entries, status := pushed.status }
      | "-w" =>
        match process.system.writeFile? (textOf argument) (HistoryList.write process.history) with
        | none => process.finish 1
        | some system => { process with system, status := 0 }
      | _ => process.finish 2
    | _ => process.finish 0

/-! ## Tests -/

/-- Compare two numbers as a test asks for. -/
def compareNumbers (sign : String) (left right : Int) : Option Bool :=
  match sign with
  | "-eq" => some (left == right)
  | "-ne" => some (left != right)
  | "-lt" => some (left < right)
  | "-le" => some (left ≤ right)
  | "-gt" => some (left > right)
  | "-ge" => some (left ≥ right)
  | _ => none

/-- The status of a test: success, failure, or 2 when it is not understood. -/
def testStatus (system : System) (words : List Bytes) : Nat :=
  let ofBool := fun holds : Bool => if holds then 0 else 1
  match words with
  | [] => 1
  | [word] => ofBool (!word.isEmpty)
  | [sign, word] =>
    match textOf sign with
    | "-z" => ofBool word.isEmpty
    | "-n" => ofBool (!word.isEmpty)
    | "!" => ofBool word.isEmpty
    | "-f" => ofBool (system.tree.isFile system.directory (textOf word))
    | "-d" => ofBool (system.tree.isDirectory system.directory (textOf word))
    | "-e" =>
      let path := textOf word
      ofBool (system.tree.isFile system.directory path || system.tree.isDirectory system.directory path)
    | _ => 2
  | [left, sign, right] =>
    match textOf sign with
    | "=" => ofBool (left == right)
    | "==" => ofBool (left == right)
    | "!=" => ofBool (left != right)
    | sign =>
      match (textOf left).toInt?, (textOf right).toInt? with
      | some left, some right =>
        match compareNumbers sign left right with
        | some holds => ofBool holds
        | none => 2
      | _, _ => 2
  | _ => 2

/-! ## Writing -/

/-- Words with blanks between them and a line feed at the end. -/
def echoed (dialect : Dialect) (words : List Bytes) : Bytes :=
  let line := fun words : List Bytes => (words.intersperse [0x20]).flatten
  match words.map textOf with
  | "-n" :: _ => line words.tail
  | "-e" :: _ =>
    if dialect = .bash then replaceEscapes 0 (line words.tail) ++ [0x0A]
    else replaceEscapes 0 (line words) ++ [0x0A]
  | _ => (if dialect = .bash then line words else replaceEscapes 0 (line words)) ++ [0x0A]

/-- The contents of files one after another; without files, what is left of the input. -/
def concatenate (process : Process) (paths : List Bytes) : Process :=
  match paths.filter fun path => path ≠ [0x2D] with
  | [] =>
    { process with
      output := process.output ++ process.system.input
      system := { process.system with input := [] }
      status := 0 }
  | paths =>
    let contents := paths.map fun path => process.system.fileAt? (textOf path)
    { process with
      output := process.output ++ (contents.filterMap id).flatten
      status := if contents.all Option.isSome then 0 else 1 }

/-! ## Variables -/

/-- A name and a value on both sides of an equals sign. -/
def assigned? (word : Bytes) : Option (String × Bytes) :=
  let name := word.takeWhile (· ≠ 0x3D)
  if name.length < word.length then some (textOf name, word.drop (name.length + 1)) else none

/-- Set the variables that words assign. -/
def declareAll (process : Process) (words : List Bytes) : Process :=
  (process.setAll (words.filterMap assigned?)).finish 0

/-- Set variables that only the innermost function has. -/
def declareLocal (process : Process) (words : List Bytes) : Process :=
  let assigned := words.map fun word => (assigned? word).getD (textOf word, [])
  let before := assigned.map fun entry => (entry.1, process.value entry.1)
  if process.inside = 0 then process.finish 1
  else ({ process with hidden := process.hidden ++ before }.setAll assigned).finish 0

/-- Forget variables, or functions if so asked. -/
def forget (process : Process) (words : List Bytes) : Process :=
  match words.map textOf with
  | "-f" :: names =>
    { process with functions := process.functions.filter (!names.contains ·.1), status := 0 }
  | "-v" :: names => (process.setAll (names.map (·, []))).finish 0
  | names => (process.setAll (names.map (·, []))).finish 0

/-! ## Commands -/

/-- A status as a number given by its digits. -/
def statusOf (current : Nat) (words : List Bytes) : Nat :=
  match words with
  | [] => current
  | word :: _ =>
    match (textOf word).toInt? with
    | some value => (value % 256).toNat
    | none => 2

/-- The status that stands for an end by a signal. -/
def signalled : Nat := 256

/-- Run a command that the shell has itself. -/
def runOwn (process : Process) (name : String) (arguments : List Bytes) : Process :=
  match name with
  | ":" => process.finish 0
  | "true" => process.finish 0
  | "set" => (process.setAsGiven arguments).finish 0
  | "export" | "readonly" | "declare" | "typeset" => process.declareAll arguments
  | "local" => process.declareLocal arguments
  | "unset" => process.forget arguments
  | "shift" =>
    let count := arguments.head?.elim 1 fun word => ((textOf word).toNat?).getD 1
    let others := process.arguments.tail
    if others.length < count then process.finish 1
    else { process with arguments := process.arguments.take 1 ++ others.drop count, status := 0 }
  | "false" => process.finish 1
  | "exit" => process.leave (statusOf process.status arguments)
  | "return" =>
    if process.inside = 0 then process.finish 1
    else { process with returned := true, status := statusOf process.status arguments }
  | "history" =>
    if process.dialect = .bash then process.runHistory arguments else process.finish 127
  | "read" =>
    match readingOf process.dialect false arguments with
    | some reading => process.readLine reading
    | none => process.finish 2
  | "[" =>
    if arguments.getLast? = some (encode [']']) then
      process.finish (testStatus process.system arguments.dropLast)
    else process.finish 2
  | "test" => process.finish (testStatus process.system arguments)
  | "printf" => if arguments.isEmpty then process.finish 2 else process.put (formatted arguments)
  | "echo" => process.put (echoed process.dialect arguments)
  | "cat" =>
    if arguments.any fun word => word.head? = some 0x2D ∧ word ≠ [0x2D] then process.finish 1
    else process.concatenate arguments
  | "kill" =>
    if arguments.getLast? = some (process.value "$") then process.leave signalled
    else process.finish 1
  | _ => process.finish 127

end Process

end LiveConsole.Shell
