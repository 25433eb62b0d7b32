import Mathlib
import LiveConsole.Proofs.Shell.HistoryFile
import LiveConsole.Proofs.Shell.PromptScript
import LiveConsole.Proofs.Text.Utf8

/-!
# What the commands of the script do

A plain shell is one without functions of its own that nothing told to stop or to leave. In such a shell each
command of the script that reads a line has one effect, and only the one that leaves does not leave the shell
plain.
-/
namespace LiveConsole.Shell

/-- A text comes back from its bytes. -/
theorem textOf_ofText (text : String) : textOf (ofText text) = text :=
  (Text.ofUtf8Lenient_encode text.toList).trans String.ofList_toList

namespace Process

/-- Whether a shell runs its own commands one after another. -/
structure IsPlain (process : Process) : Prop where
  /-- The shell keeps a history. -/
  bash : process.dialect = .bash
  /-- No function stands in for a command. -/
  functions : process.functions = []
  /-- A failure does not end the shell. -/
  goesOn : process.manner.stops = false
  /-- Commands are run, not only read. -/
  runs : process.manner.idle = false
  /-- The shell was not left. -/
  stays : process.left = none
  /-- No function or file is to be left. -/
  noReturn : process.returned = false

/-- A shell before its first command is plain. -/
theorem isPlain_start (system : System) (arguments : List Bytes) :
    (Process.start .bash system arguments).IsPlain := ⟨rfl, rfl, rfl, rfl, rfl, rfl⟩

variable {process : Process} {words arguments : List Bytes} {name : String}

/-- A shell that differs from a plain one in its files, its history, its variables or its status is plain. -/
theorem IsPlain.congr (plain : process.IsPlain) {other : Process}
    (same : (other.dialect, other.functions, other.manner, other.left, other.returned) =
      (process.dialect, process.functions, process.manner, process.left, process.returned)) : other.IsPlain := by
  simp only [Prod.mk.injEq] at same
  obtain ⟨dialect, functions, manner, left, returned⟩ := same
  exact ⟨dialect.trans plain.bash, functions.trans plain.functions, (congrArg _ manner).trans plain.goesOn,
    (congrArg _ manner).trans plain.runs, left.trans plain.stays, returned.trans plain.noReturn⟩

/-- A plain shell runs further commands. -/
theorem IsPlain.isDone (plain : process.IsPlain) : process.isDone = false := by
  rw [Process.isDone, plain.stays, plain.noReturn, plain.runs]
  rfl

/-- A failure does not end a plain shell. -/
theorem IsPlain.stopOnFailure (plain : process.IsPlain) (shielded : Bool) :
    process.stopOnFailure shielded = process := by
  rw [Process.stopOnFailure, plain.goesOn]
  rfl

/-- The commands that run other ones. -/
def runningCommands : List String := passingCommands ++ ["eval", ".", "source", "exec"]

/-- A plain shell runs a command of its own by its words. -/
theorem IsPlain.runCommand (plain : process.IsPlain) (fuel : Nat) (shielded : Bool)
    {first : List Mark} {others : List (List Mark)} (noAssignment : assignment? first = none)
    (expanded : (first :: others).flatMap (expand process.scope) = ofText name :: arguments)
    (own : runningCommands.contains name = false) :
    runCommand (fuel + 2) shielded process (.simple (first :: others) []) = process.runOwn name arguments := by
  have parted : splitAssignments (first :: others) = ([], first :: others) := by
    rw [splitAssignments, noAssignment]
  simp only [runningCommands, passingCommands, List.cons_append, List.nil_append, List.contains_cons,
    List.contains_nil, Bool.or_false, Bool.or_eq_false_iff, beq_eq_false_iff_ne] at own
  obtain ⟨noBuiltin, noCommand, noEval, noDot, noSource, noExec⟩ := own
  rw [Process.runCommand]
  simp only [parted, expanded, textOf_ofText]
  unfold call
  simp only [assignAll, List.foldl_nil, List.map_nil, setAll, plain.functions, List.lookup_nil]
  rw [if_neg (by simp [passingCommands, noBuiltin, noCommand]), if_neg noEval,
    if_neg (not_or.2 ⟨noDot, noSource⟩), if_neg noExec]
  rfl

/-! ## The commands of the script -/

/-- Turning off the expansion of file names changes nothing else. -/
theorem IsPlain.set (plain : process.IsPlain) (fuel : Nat) (shielded : Bool) :
    Process.runCommand (fuel + 2) shielded process (.simple [bare "set", bare "-f"] []) = process.finish 0 := by
  have words : [bare "set", bare "-f"].flatMap (expand process.scope) = [ofText "set", ofText "-f"] := rfl
  rw [plain.runCommand fuel shielded rfl words rfl]
  rfl

/-- A command of the history gets the path of the file as it is. -/
theorem IsPlain.runHistory (plain : process.IsPlain) (fuel : Nat) (shielded : Bool) {option : String}
    (expanded : expand process.scope (bare option) = [ofText option]) (history : String) :
    Process.runCommand (fuel + 2) shielded process
        (.simple [bare "history", bare option, asWord history] []) =
      process.runHistory [ofText option, ofText history] := by
  have words : [bare "history", bare option, asWord history].flatMap (expand process.scope) =
      [ofText "history", ofText option, ofText history] := by
    simp only [List.flatMap_cons, List.flatMap_nil, expanded, asWord, expand_wordMarks]
    rfl
  rw [plain.runCommand fuel shielded rfl words rfl, runOwn, if_pos plain.bash]

/-- Words that do not ask for help are no request for help. -/
theorem noHelp {option history : String} (noOption : option ≠ "--help") (noPath : history ≠ "--help") :
    [ofText option, ofText history].contains HistoryList.helpOption = false := by
  have other {text : String} (different : text ≠ "--help") : ofText text ≠ HistoryList.helpOption := by
    intro same
    have texts := congrArg textOf same
    rw [textOf_ofText] at texts
    exact different (texts.trans (textOf_ofText "--help"))
  simp [Ne.symm (other noOption), Ne.symm (other noPath)]

/-- Loading appends the entries of the history file; one that is not there is a failure. -/
theorem IsPlain.load (plain : process.IsPlain) (fuel : Nat) (shielded : Bool) {history : String}
    (noHelpPath : history ≠ "--help") :
    Process.runCommand (fuel + 2) shielded process (loadCommand history) =
      match process.system.fileAt? history with
      | none => process.finish 1
      | some file => { process with history := process.history ++ HistoryList.load file, status := 0 } := by
  rw [loadCommand, plain.runHistory fuel shielded rfl, Process.runHistory,
    noHelp (by decide) noHelpPath, if_neg Bool.false_ne_true]
  cases found : process.system.fileAt? history with
  | none => simp only [textOf_ofText, found]
  | some file => simp only [textOf_ofText, found]

/-- Writing puts the entries into the history file, if that can be written. -/
theorem IsPlain.write (plain : process.IsPlain) (fuel : Nat) (shielded : Bool) {history : String}
    (noHelpPath : history ≠ "--help") :
    Process.runCommand (fuel + 2) shielded process (writeCommand history) =
      match process.system.writeFile? history (HistoryList.write process.history) with
      | none => process.finish 1
      | some system => { process with system, status := 0 } := by
  rw [writeCommand, plain.runHistory fuel shielded rfl, Process.runHistory,
    noHelp (by decide) noHelpPath, if_neg Bool.false_ne_true]
  cases written : process.system.writeFile? history (HistoryList.write process.history) with
  | none => simp only [textOf_ofText, written]
  | some system => simp only [textOf_ofText, written]

/-- Whether there is a history file or not, loading it changes the history only. -/
theorem IsPlain.exists_load (plain : process.IsPlain) {history : String} (noHelpPath : history ≠ "--help") :
    ∃ status, ∀ fuel shielded, Process.runCommand (fuel + 2) shielded process (loadCommand history) =
      { process with
        history := process.history ++ ((process.system.fileAt? history).map HistoryList.load).getD []
        status } := by
  cases found : process.system.fileAt? history with
  | none =>
    refine ⟨1, fun fuel shielded => ?_⟩
    rw [plain.load fuel shielded noHelpPath, found, Option.map_none, Option.getD_none, List.append_nil]
    rfl
  | some file =>
    refine ⟨0, fun fuel shielded => ?_⟩
    rw [plain.load fuel shielded noHelpPath, found]
    rfl

/-- Whether the history file can be written or not, writing it changes what is outside of the shell only. -/
theorem IsPlain.exists_write (plain : process.IsPlain) {history : String} (noHelpPath : history ≠ "--help") :
    ∃ status, ∀ fuel shielded, Process.runCommand (fuel + 2) shielded process (writeCommand history) =
      { process with
        system := (process.system.writeFile? history (HistoryList.write process.history)).getD process.system
        status } := by
  cases written : process.system.writeFile? history (HistoryList.write process.history) with
  | none =>
    refine ⟨1, fun fuel shielded => ?_⟩
    rw [plain.write fuel shielded noHelpPath, written]
    rfl
  | some system =>
    refine ⟨0, fun fuel shielded => ?_⟩
    rw [plain.write fuel shielded noHelpPath, written]
    rfl

/-- The line is empty before it is read. -/
theorem clear (process : Process) (fuel : Nat) (shielded : Bool) :
    Process.runCommand (fuel + 1) shielded process (.simple [bare "LINE=" ++ inDouble ""] []) =
      (process.setVariable "LINE" []).finish 0 := by
  rw [Process.runCommand]
  rfl

/-- Reading takes a line as it is and puts it into the variable, whatever the prompt is. -/
theorem IsPlain.read (plain : process.IsPlain) (fuel : Nat) (shielded : Bool) (prompt : String) :
    Process.runCommand (fuel + 2) shielded process (readCommandOf prompt) =
      process.readLine ⟨true, ["LINE"]⟩ := by
  have words : [bare "read", bare "-re", bare "-p", asWord prompt, bare "LINE"].flatMap
        (expand process.scope) =
      [ofText "read", ofText "-re", ofText "-p", ofText prompt, ofText "LINE"] := by
    simp only [List.flatMap_cons, List.flatMap_nil, asWord, expand_wordMarks]
    rfl
  rw [readCommandOf, plain.runCommand fuel shielded rfl words rfl, runOwn, plain.bash]
  simp only [readingOf, textOf_ofText, if_pos]
  rfl

/-- A number is compared with zero by its value. -/
theorem testStatus_eq (system : System) (value : Nat) :
    testStatus system [ofText value.repr, ofText "-eq", ofText "0"] = if value = 0 then 0 else 1 := by
  have number (value : Nat) : value.repr.toInt? = some (value : Int) :=
    String.toInt?_eq_some_iff.2 (.inl ⟨value, Nat.toNat?_repr value, rfl⟩)
  have zero : ("0" : String).toInt? = some 0 := number 0
  simp only [testStatus, textOf_ofText, number value, zero, compareNumbers]
  by_cases same : value = 0
  · simp [same]
  · simp [same]

/-- The test whether the last command succeeded ends as that command did, if it ended with success or with a
plain failure. -/
theorem IsPlain.test (plain : process.IsPlain) (fuel : Nat) (shielded : Bool)
    (known : process.status = 0 ∨ process.status = 1) :
    Process.runCommand (fuel + 2) shielded process
        (.simple [bare "[", bare "$?", bare "-eq", bare "0", bare "]"] []) = process := by
  have digit : joinParts none (splitValue (ofNat process.status)) = [ofNat process.status] := by
    rcases known with status | status <;> rw [status] <;> rfl
  have words : [bare "[", bare "$?", bare "-eq", bare "0", bare "]"].flatMap (expand process.scope) =
      [ofText "[", ofNat process.status, ofText "-eq", ofText "0", ofText "]"] := by
    have value : expand process.scope (bare "$?") = joinParts none (splitValue (ofNat process.status)) := by
      rw [← List.append_nil (splitValue (ofNat process.status))]
      rfl
    simp only [List.flatMap_cons, List.flatMap_nil, value, digit]
    rfl
  have closed : [ofNat process.status, ofText "-eq", ofText "0", ofText "]"].getLast? =
      some (encode [']']) := rfl
  have compared : testStatus process.system
      [ofNat process.status, ofText "-eq", ofText "0", ofText "]"].dropLast = process.status := by
    refine (testStatus_eq process.system process.status).trans ?_
    rcases known with status | status <;> rw [status] <;> rfl
  rw [plain.runCommand fuel shielded rfl words rfl, runOwn, if_pos closed, compared]
  rfl

/-- Leaving the shell. -/
theorem IsPlain.exit (plain : process.IsPlain) (fuel : Nat) (shielded : Bool) :
    Process.runCommand (fuel + 2) shielded process (.simple [bare "exit"] []) =
      process.leave process.status := by
  have words : [bare "exit"].flatMap (expand process.scope) = [ofText "exit"] := rfl
  rw [plain.runCommand fuel shielded rfl words rfl]
  rfl

/-- The line in double quotes is one word. -/
theorem expand_line (process : Process) :
    expand process.scope (inDouble "$LINE") = [process.value "LINE"] := rfl

/-- The line is handed over to the history as it is. -/
theorem IsPlain.appendLine (plain : process.IsPlain) (fuel : Nat) (shielded : Bool) :
    Process.runCommand (fuel + 2) shielded process appendCommand =
      process.runHistory [ofText "-s", process.value "LINE"] := by
  have words : [bare "history", bare "-s", inDouble "$LINE"].flatMap (expand process.scope) =
      [ofText "history", ofText "-s", process.value "LINE"] := by
    simp only [List.flatMap_cons, List.flatMap_nil, expand_line]
    rfl
  rw [appendCommand, plain.runCommand fuel shielded rfl words rfl, runOwn, if_pos plain.bash]

/-- A line that no dash starts is appended to the history. -/
theorem IsPlain.append (plain : process.IsPlain) (fuel : Nat) (shielded : Bool)
    (noDash : (process.value "LINE").head? ≠ some 0x2D) :
    Process.runCommand (fuel + 2) shielded process appendCommand =
      { process with history := process.history ++ [process.value "LINE"], status := 0 } := by
  have noHelp : [ofText "-s", process.value "LINE"].contains HistoryList.helpOption = false := by
    have other : process.value "LINE" ≠ HistoryList.helpOption := by
      intro same
      rw [same] at noDash
      exact noDash rfl
    have option : ofText "-s" ≠ HistoryList.helpOption := by decide
    simp [Ne.symm other, Ne.symm option]
  rw [plain.appendLine, Process.runHistory, noHelp, if_neg Bool.false_ne_true]
  simp only [textOf_ofText, HistoryList.push_of_noDash process.history noDash]

/-- Printing the line only writes to the output. -/
theorem IsPlain.print (plain : process.IsPlain) (fuel : Nat) (shielded : Bool) :
    Process.runCommand (fuel + 2) shielded process
        (.simple [bare "printf", inSingle "%s\\n", inDouble "$LINE"] []) =
      process.put (formatted [ofText "%s\\n", process.value "LINE"]) := by
  have words : [bare "printf", inSingle "%s\\n", inDouble "$LINE"].flatMap (expand process.scope) =
      [ofText "printf", ofText "%s\\n", process.value "LINE"] := by
    simp only [List.flatMap_cons, List.flatMap_nil, expand_line]
    rfl
  rw [plain.runCommand fuel shielded rfl words rfl]
  rfl

/-! ## The line that is read -/

/-- The line that a shell reads next into the variable of the script, if a line feed ends it. -/
def entered? (process : Process) : Option Bytes :=
  let read := process.readLine ⟨true, ["LINE"]⟩
  if read.status = 0 then some (read.value "LINE") else none

/-- A variable with a name of letters has the value it was last set to, or the one in the environment. -/
theorem value_eq (process : Process) {name : String} (noStatus : name ≠ "?") (noNumber : name ≠ "$")
    (noCount : name ≠ "#") (noPlace : name.toNat? = none) :
    process.value name =
      (process.bindings.lookup name).getD (ofText ((process.system.environment.get? name).getD "")) := by
  unfold value
  split
  · exact absurd rfl noStatus
  · exact absurd rfl noNumber
  · exact absurd rfl noCount
  · simp only [noPlace]
    cases process.bindings.lookup name <;> rfl

/-- The name of the variable of the script is no number. -/
theorem line_toNat? : ("LINE" : String).toNat? = none := by
  rw [String.toNat?_eq_none_iff, ← Bool.not_eq_true, String.isNat_iff]
  simp

/-- The name of the variable of the separators is no number. -/
theorem separatorVariable_toNat? : separatorVariable.toNat? = none := by
  rw [String.toNat?_eq_none_iff, ← Bool.not_eq_true, String.isNat_iff]
  simp [separatorVariable]

/-- The line has the value that it was set to. -/
theorem value_setVariable_line (process : Process) (line : Bytes) (status : Nat) :
    ((process.setVariable "LINE" line).finish status).value "LINE" = line := by
  rw [finish, value_eq _ (by decide) (by decide) (by decide) line_toNat?, setVariable,
    List.lookup_cons_self]
  rfl

/-- Setting the line leaves the separators as they are. -/
theorem separators_setVariable_line (process : Process) (line : Bytes) :
    (process.setVariable "LINE" line).value separatorVariable = process.value separatorVariable := by
  have kept (bindings : List (String × Bytes)) :
      (bindings.filter fun entry => entry.1 ≠ "LINE").lookup separatorVariable =
        bindings.lookup separatorVariable := by
    induction bindings with
    | nil => rfl
    | cons entry bindings ih =>
      obtain ⟨name, value⟩ := entry
      by_cases own : name = "LINE"
      · have other : (separatorVariable == name) = false := by rw [own]; decide
        rw [List.filter_cons_of_neg (by simpa using own), ih, List.lookup_cons, other]
      · rw [List.filter_cons_of_pos (by simpa using own), List.lookup_cons, List.lookup_cons, ih]
  rw [value_eq _ (by decide) (by decide) (by decide) separatorVariable_toNat?,
    value_eq _ (by decide) (by decide) (by decide) separatorVariable_toNat?, setVariable,
    List.lookup_cons, show (separatorVariable == "LINE") = false by decide, kept]

/-- What stands in the input up to the end of the line. -/
def inputLine (process : Process) : InputLine :=
  InputLine.take
    (if process.dialect = .bash ∧ hasWideCharacters process.system.environment then bytesBehind
      else fun _ => 0)
    0 process.system.input

/-- A text without the separators of a shell at its ends. -/
def stripped (process : Process) (text : Bytes) : Bytes :=
  ((text.dropWhile process.separates).reverse.dropWhile process.separates).reverse

/-- Reading a line takes it from the input and puts it into the variable, with success if a line feed ended
it; nothing else changes. -/
theorem readLine_eq (process : Process) :
    process.readLine ⟨true, ["LINE"]⟩ =
      (({ process with system := { process.system with input := process.inputLine.rest } } : Process).setVariable
        "LINE" (process.stripped process.inputLine.text)).finish
          (if process.inputLine.ended then 0 else 1) := rfl

/-- The line that was read is in the variable, without separators at its ends. -/
theorem value_readLine (process : Process) :
    (process.readLine ⟨true, ["LINE"]⟩).value "LINE" = process.stripped process.inputLine.text := by
  rw [readLine_eq, value_setVariable_line]

/-- What is entered is the line up to the line feed, without separators at its ends. -/
theorem entered?_eq (process : Process) :
    process.entered? =
      if process.inputLine.ended then some (process.stripped process.inputLine.text) else none := by
  have status : (process.readLine ⟨true, ["LINE"]⟩).status = if process.inputLine.ended then 0 else 1 := rfl
  rw [entered?, value_readLine, status]
  cases process.inputLine.ended <;> rfl

/-- Before its first command a shell separates words at blanks, tabs and line feeds. -/
theorem separates_start (system : System) (arguments : List Bytes) :
    (Process.start .bash system arguments).separates = isSeparator := by
  have value : (Process.start .bash system arguments).value separatorVariable = usualSeparators := by
    rw [value_eq _ (by decide) (by decide) (by decide) separatorVariable_toNat?]
    rfl
  funext byte
  rw [Process.separates, value, isSeparator, usualSeparators]
  by_cases blank : byte = 0x20
  · simp [blank]
  · by_cases tab : byte = 0x09
    · simp [tab]
    · simp [blank, tab]

/-- What is entered depends on the input, its language and the separators only. -/
theorem entered?_congr {process other : Process} (dialect : process.dialect = other.dialect)
    (environment : process.system.environment = other.system.environment)
    (input : process.system.input = other.system.input)
    (separators : process.value separatorVariable = other.value separatorVariable) :
    process.entered? = other.entered? := by
  have line : process.inputLine = other.inputLine := by
    rw [inputLine, inputLine, dialect, environment, input]
  have separates : process.separates = other.separates := by
    funext byte
    rw [Process.separates, Process.separates, separators]
  rw [entered?_eq, entered?_eq, line, stripped, stripped, separates]

end Process

end LiveConsole.Shell
