import LiveConsole.Proofs.Shell.Printing

/-!
# One run after another

The command that reads a line can be run again and again: it finds its shell on a path, and the only file that
the shell changes is the history file. So each run takes the next line that was typed, and prints it without
the blanks and tabs at its ends; when all lines are taken, every run fails.
-/
namespace LiveConsole.Shell

/-! ## Null characters -/

/-- Between quotes a text has a null character where it has one outside of them. -/
theorem null_mem_quotedBody (chars : List Char) : '\x00' ∈ quotedBody chars ↔ '\x00' ∈ chars := by
  induction chars with
  | nil => rfl
  | cons c chars ih =>
    rw [quotedBody]
    split
    · rename_i own
      rw [List.mem_append, ih, own]
      simp [quotedQuote]
    · rw [List.mem_cons, List.mem_cons, ih]

/-- So has a text that is written as one word. -/
theorem null_mem_quoteChars (chars : List Char) : '\x00' ∈ quoteChars chars ↔ '\x00' ∈ chars := by
  rw [quoteChars]
  split
  · rfl
  · rw [List.mem_append, List.mem_cons, null_mem_quotedBody]
    simp

/-- The command that reads a line can be handed to a program where its three texts can. -/
theorem isPassable_promptCommand (prompt history shell : String) :
    isPassable (promptCommand prompt history shell) = isPassable [prompt, history, shell] := by
  have fixed : ∀ text ∈ ["set -f; ", "history -r ", "; ", "LINE=\"\"; ", "read -re -p ", " LINE; ",
      "[ $? -eq 0 ] || exit; ", "history -s \"$LINE\"; ", "history -w ", "printf '%s\\n' \"$LINE\"; "],
      '\x00' ∉ text.toList := by decide
  simp only [List.forall_mem_cons] at fixed
  have script : '\x00' ∈ (promptScript prompt history).toList ↔
      '\x00' ∈ prompt.toList ∨ '\x00' ∈ history.toList := by
    have twice {asks loads : Prop} : loads ∨ asks ∨ loads ↔ asks ∨ loads := by tauto
    simp only [toList_promptScript, List.mem_append, null_mem_quoteChars, fixed, false_or, or_false, twice]
  have option : '\x00' ∉ "-c".toList := by decide
  rw [Bool.eq_iff_iff]
  simp only [isPassable, promptCommand, List.all_cons, List.all_nil, Bool.and_true, Bool.and_eq_true,
    Bool.not_eq_true', List.contains_eq_mem, decide_eq_false_iff_not, script, option, not_false_eq_true,
    true_and, not_or]
  exact and_rotate

/-! ## What is printed -/

/-- What a run that is handed a typed line prints, as a text: the line without the blanks and tabs at its ends and
a line feed behind it, and in front of it the help where it asks for that; all line ends are line feeds. -/
def printedText (line : String) : String :=
  let trimmed := trimGaps line.toList
  let help := if trimmed = "--help".toList then HistoryList.help.toList else []
  String.ofList (Text.unifyLineEnds (help ++ (trimmed ++ ['\n'])))

/-- Whether a typed line is printed as it was typed. -/
structure IsPrintedAsTyped (line : String) : Prop where
  /-- It has no blanks and tabs at its ends. -/
  trimmed : trimGaps line.toList = line.toList
  /-- It has no carriage return, which is taken for the end of a line. -/
  noReturn : '\r' ∉ line.toList
  /-- It does not ask for help. -/
  noHelp : line ≠ "--help"

/-- Different texts have different bytes. -/
theorem encode_inj {chars others : List Char} : encode chars = encode others ↔ chars = others := by
  refine ⟨fun same => ?_, congrArg encode⟩
  have texts := (Text.ofUtf8Lenient_encode chars).symm.trans
    ((congrArg Text.ofUtf8Lenient same).trans (Text.ofUtf8Lenient_encode others))
  simpa using congrArg String.toList texts

/-- The bytes that are printed for a typed line spell this text. -/
theorem outputText_printedFor (line : String) : outputText (Process.printedFor line.toList) = printedText line := by
  have feed : [0x0A] = encode ['\n'] := rfl
  have help : Process.printedHelp (encode (trimGaps line.toList)) =
      encode (if trimGaps line.toList = "--help".toList then HistoryList.help.toList else []) := by
    rw [Process.printedHelp, HistoryList.helpOption]
    simp only [encode_inj]
    split
    · rfl
    · rfl
  rw [Process.printedFor, help, feed, encode, encode, encode, ← List.flatMap_append, ← List.flatMap_append, outputText,
    Text.ofUtf8Lenient_encode, String.toList_ofList]
  rfl

/-- Trimming only takes characters away. -/
theorem trimGaps_sublist (chars : List Char) : (trimGaps chars).Sublist chars := by
  have shorter : (Text.dropEndWhile isGap (chars.dropWhile isGap)).Sublist (chars.dropWhile isGap) := by
    rw [Text.dropEndWhile, ← List.reverse_sublist, List.reverse_reverse]
    exact List.dropWhile_sublist isGap
  exact shorter.trans (List.dropWhile_sublist isGap)

/-- The help ends with the end of a line. -/
theorem feed_mem_help : '\n' ∈ HistoryList.help.toList := by
  obtain ⟨front, parted⟩ : ∃ front, HistoryList.help =
      front ++ "    Returns success unless an invalid option is given or an error occurs.\n" := ⟨_, rfl⟩
  rw [parted, String.toList_append]
  exact List.mem_append_right _ (by decide)

/-- A line is printed with nothing but a line feed behind it exactly where nothing of it is lost or taken for
something else. -/
theorem printedText_eq_iff {line : String} (single : '\n' ∉ line.toList) :
    printedText line = line ++ "\n" ↔ IsPrintedAsTyped line := by
  have feed : "\n".toList = ['\n'] := rfl
  rw [← String.toList_inj, String.toList_append, feed, printedText, String.toList_ofList]
  constructor
  · intro same
    have noReturn : '\r' ∉ line.toList := by
      have none := same ▸ Text.return_not_mem_unifyLineEnds _
      simpa using none
    by_cases asks : trimGaps line.toList = "--help".toList
    · have feeds := Text.count_unifyLineEnds_le
        (HistoryList.help.toList ++ (trimGaps line.toList ++ ['\n']))
      rw [if_pos asks] at same
      rw [same, List.count_append, List.count_append, List.count_append, List.count_eq_zero.2 single] at feeds
      have inside := List.count_pos_iff.2 feed_mem_help
      simp only [List.count_singleton_self] at feeds
      omega
    · rw [if_neg asks, List.nil_append] at same
      have length := Text.length_unifyLineEnds_le (trimGaps line.toList ++ ['\n'])
      rw [same, List.length_append, List.length_append] at length
      have trimmed := (trimGaps_sublist line.toList).eq_of_length_le (by omega)
      refine ⟨trimmed, noReturn, ?_⟩
      rintro rfl
      exact asks trimmed
  · rintro ⟨trimmed, noReturn, noHelp⟩
    have other : line.toList ≠ "--help".toList := fun same => noHelp (String.toList_inj.1 same)
    rw [trimmed, if_neg other, List.nil_append, Text.unifyLineEnds_append noReturn]
    rfl

/-! ## Finding the shell -/

/-- A path that leads to a program leads to its file. -/
theorem exists_of_launchable {system : System} {path : String} {found : Launchable}
    (launches : launchable system path = .ok found) :
    ∃ location spared entry, system.tree.locate system.directory path = .ok (location, spared) ∧
      system.tree.get? location = some entry := by
  unfold launchable at launches
  split at launches
  · cases launches
  · rename_i location spared led
    cases there : system.tree.get? location with
    | some entry => exact ⟨location, spared, entry, led, there⟩
    | none =>
      rw [there] at launches
      cases launches

/-- What a path leads to is launched as the file that is found there. -/
theorem launchable_congr {system later : System} {path : String} {location : Location} {spared : Nat}
    (led : system.tree.locate system.directory path = .ok (location, spared))
    (still : later.tree.locate later.directory path = .ok (location, spared))
    (same : later.tree.get? location = system.tree.get? location) :
    launchable later path = launchable system path := by
  rw [launchable, launchable, led, still]
  simp only [same]

/-- Whether runs of the command that reads a line are served: its shell is found on a path and is not the history
file, nothing in the environment changes how the shell runs commands, and neither path is taken for something
else. -/
structure IsServed (history shell : String) (system : System) : Prop where
  /-- The shell is given by a path, not by a name to look for. -/
  path : '/' ∈ shell.toList
  /-- The path leads to the shell. -/
  launches : launchable system shell = .ok (.known (.shell .bash))
  /-- The environment brings the shell nothing. -/
  nothing : Running.BringsNothing system.environment
  /-- The path of the history file does not ask for help. -/
  noHelpPath : history ≠ "--help"
  /-- Neither path has a null character. -/
  noNull : '\x00' ∉ history.toList ∧ '\x00' ∉ shell.toList
  /-- The history file is another file than the shell. -/
  apart : ∀ location spared left, system.tree.locate system.directory shell = .ok (location, spared) →
    system.tree.locate system.directory history ≠ .ok (location, left)

namespace IsServed

variable {history shell : String} {system : System}

/-- Runs are served whatever is typed. -/
theorem input (served : IsServed history shell system) (input : Bytes) :
    IsServed history shell { system with input } where
  path := served.path
  launches := served.launches
  nothing := served.nothing
  noHelpPath := served.noHelpPath
  noNull := served.noNull
  apart := served.apart

/-- Runs are served after the history file was written. -/
theorem write (served : IsServed history shell system) (entries : Bytes) :
    IsServed history shell ((system.writeFile? history entries).getD system) := by
  cases written : system.writeFile? history entries with
  | none => exact served
  | some later =>
    obtain ⟨location, spared, entry, led, there⟩ := exists_of_launchable served.launches
    obtain ⟨still, found, apart⟩ := System.writeFile?_apart written led there
      fun left => served.apart location spared left led
    have outside := System.writeFile?_eq written
    have directory : later.directory = system.directory := by rw [outside]
    have environment : later.environment = system.environment := by rw [outside]
    rw [← directory] at still apart
    refine ⟨served.path, ?_, ?_, served.noHelpPath, served.noNull, fun other any left leads => ?_⟩
    · exact (launchable_congr led still (found.trans there.symm)).trans served.launches
    · rw [Option.getD_some, environment]
      exact served.nothing
    · cases still.symm.trans leads
      exact apart left

/-- The command that reads a line runs its shell. -/
theorem launch (served : IsServed history shell system) {prompt : String} (speakable : '\x00' ∉ prompt.toList) :
    launch system (promptCommand prompt history shell) =
      .ok (runShell .bash system (ofText shell) [ofText "-c", ofText (promptScript prompt history)]) := by
  have passable : isPassable (promptCommand prompt history shell) = true := by
    rw [isPassable_promptCommand]
    simp [isPassable, speakable, served.noNull]
  have paths : searchPaths system shell = [shell] := by
    rw [searchPaths, if_pos (by simpa using served.path)]
  rw [promptCommand] at passable ⊢
  have found : search system 2 (searchPaths system shell) = .ok (shell, .known (.shell .bash)) := by
    rw [paths, search, served.launches]
  have launched : launchWithin launchDepth system shell [ofText "-c", ofText (promptScript prompt history)] =
      .ok (runShell .bash system (ofText shell) [ofText "-c", ofText (promptScript prompt history)]) := by
    rw [launchDepth]
    unfold launchWithin
    rw [found]
    rfl
  rw [Shell.launch, passable]
  simp only [List.map_cons, List.map_nil, launched]
  rfl

/-- Each run prints the next line that was typed, takes it from the input and lets further runs be served. -/
theorem exists_runCommandLine (served : IsServed history shell system) {prompt : String}
    (speakable : '\x00' ∉ prompt.toList) {line : String} (single : '\n' ∉ line.toList)
    (noNull : '\x00' ∉ line.toList) {rest : Bytes} (input : system.input = ofText line ++ 0x0A :: rest) :
    ∃ later, (IsServed history shell later ∧ later.input = rest) ∧
      runCommandLine system (promptCommand prompt history shell) = .ok ⟨some (printedText line), [], later⟩ := by
  obtain ⟨entries, ran⟩ := exists_runShell_line served.nothing (ofText shell) prompt served.noHelpPath single noNull
    input
  refine ⟨_, ⟨(served.input rest).write entries, ?_⟩, ?_⟩
  · rw [System.writeFile?_getD_eq]
  · rw [runCommandLine, served.launch speakable, ran, ← outputText_printedFor]
    rfl

/-- When all lines are taken, a run fails and changes nothing. -/
theorem runCommandLine_atEnd (served : IsServed history shell system) {prompt : String}
    (speakable : '\x00' ∉ prompt.toList) (input : system.input = []) :
    runCommandLine system (promptCommand prompt history shell) = .ok ⟨none, [], system⟩ := by
  rw [runCommandLine, served.launch speakable, runShell_atEnd served.nothing (ofText shell) prompt served.noHelpPath
    input]
  rfl

end IsServed

end LiveConsole.Shell
