import LiveConsole.Proofs.Shell.Running
import LiveConsole.Proofs.Shell.TypedLine

/-!
# What the script that reads a line prints

A shell that runs the script on a typed line prints the line and nothing else, but without the blanks and tabs
at its ends; only the line that is taken for a request for help is preceded by that help. The shell takes the
line from the input, and changes nothing else but the history file. At the end of the input it fails and prints
nothing.
-/
namespace LiveConsole.Shell

namespace Process

variable {process after : Process} {condition : Condition} {command : Command} {rest : Steps} {fuel : Nat}

/-! ## One command after another -/

/-- A command that leaves the shell plain is followed by the others. -/
theorem IsPlain.runSteps_cons (plain : process.IsPlain) (runs : runsAfter condition process.status = true)
    (effect : ∀ shielded, Process.runCommand (fuel + 2) shielded process command = after) (next : after.IsPlain) :
    runSteps (fuel + 3) false process ((condition, command) :: rest) = runSteps (fuel + 2) false after rest := by
  rw [runSteps, plain.isDone, if_neg Bool.false_ne_true, if_pos runs]
  simp only [effect, next.stopOnFailure]

/-- A command that is not to run is passed over. -/
theorem IsPlain.runSteps_skip (plain : process.IsPlain) (skips : runsAfter condition process.status = false) :
    runSteps (fuel + 3) false process ((condition, command) :: rest) = runSteps (fuel + 2) false process rest := by
  rw [runSteps, plain.isDone, if_neg Bool.false_ne_true, skips, if_neg Bool.false_ne_true]

/-- A failure before the command that leaves the shell is the end. -/
theorem IsPlain.runSteps_exit (plain : process.IsPlain) (failure : process.status = 1) :
    runSteps (fuel + 3) false process ((.onFailure, .simple [bare "exit"] []) :: rest) = process.leave 1 := by
  have runs : runsAfter .onFailure process.status = true := by
    rw [failure]
    rfl
  have leaves (shielded : Bool) : (process.leave 1).stopOnFailure shielded = process.leave 1 := by
    have goesOn : (process.leave 1).manner.stops = false := plain.goesOn
    rw [Process.stopOnFailure, goesOn]
    rfl
  have done : (process.leave 1).isDone = true := rfl
  rw [runSteps, plain.isDone, if_neg Bool.false_ne_true, if_pos runs]
  simp only [plain.exit, failure, leaves]
  exact Running.runSteps_of_isDone done _ rest

/-! ## Single commands -/

/-- What a command leaves behind that sets no variable: the shell is plain, and this is outside of it and in its
output. -/
structure Leaves (process after : Process) (system : System) (output : Bytes) : Prop where
  /-- The shell is plain. -/
  plain : after.IsPlain
  /-- The variables are the same. -/
  bindings : after.bindings = process.bindings
  /-- What is outside of the shell. -/
  system : after.system = system
  /-- What the shell has written. -/
  output : after.output = output

/-- Loading the history changes nothing outside of the shell. -/
theorem IsPlain.leaves_load (plain : process.IsPlain) {history : String} (noHelpPath : history ≠ "--help") :
    ∃ after, Leaves process after process.system process.output ∧
      ∀ fuel shielded, Process.runCommand (fuel + 2) shielded process (loadCommand history) = after := by
  obtain ⟨status, loads⟩ := plain.exists_load noHelpPath
  refine ⟨_, ?_, loads⟩
  exact ⟨plain.congr rfl, rfl, rfl, rfl⟩

/-- What appending a line prints: the help, where the line asks for it. -/
def printedHelp (line : Bytes) : Bytes := if line = HistoryList.helpOption then ofText HistoryList.help else []

/-- Appending a line to the history changes nothing outside of the shell, but it may print the help. -/
theorem IsPlain.leaves_append (plain : process.IsPlain) :
    ∃ after, Leaves process after process.system (process.output ++ printedHelp (process.value "LINE")) ∧
      ∀ fuel shielded, Process.runCommand (fuel + 2) shielded process appendCommand = after := by
  by_cases asks : process.value "LINE" = HistoryList.helpOption
  · have help : [ofText "-s", process.value "LINE"].contains HistoryList.helpOption = true := by
      simp [asks]
    refine ⟨(process.put (ofText HistoryList.help)).finish 2, ⟨plain.congr rfl, rfl, rfl, ?_⟩,
      fun fuel shielded => ?_⟩
    · rw [printedHelp, if_pos asks]
      rfl
    · rw [plain.appendLine, Process.runHistory, if_pos help]
  · have noHelp : ¬[ofText "-s", process.value "LINE"].contains HistoryList.helpOption = true := by
      have option : ofText "-s" ≠ HistoryList.helpOption := by decide
      simp [Ne.symm asks, Ne.symm option]
    refine ⟨{ process with
        history := (HistoryList.push process.history (process.value "LINE")).entries
        status := (HistoryList.push process.history (process.value "LINE")).status },
      ⟨plain.congr rfl, rfl, rfl, ?_⟩, fun fuel shielded => ?_⟩
    · rw [printedHelp, if_neg asks, List.append_nil]
    · rw [plain.appendLine, Process.runHistory, if_neg noHelp]
      simp only [textOf_ofText]

/-- Writing the history changes the history file, if that can be written. -/
theorem IsPlain.leaves_write (plain : process.IsPlain) {history : String} (noHelpPath : history ≠ "--help") :
    ∃ after, Leaves process after
        ((process.system.writeFile? history (HistoryList.write process.history)).getD process.system)
        process.output ∧
      ∀ fuel shielded, Process.runCommand (fuel + 2) shielded process (writeCommand history) = after := by
  obtain ⟨status, writes⟩ := plain.exists_write noHelpPath
  refine ⟨_, ?_, writes⟩
  exact ⟨plain.congr rfl, rfl, rfl, rfl⟩

/-- A line is printed with a line feed behind it. -/
theorem formatted_line (line : Bytes) : formatted [ofText "%s\\n", line] = line ++ [0x0A] := rfl

/-! ## The whole script -/

/-- The separators depend on the variables and the environment only. -/
theorem separators_congr {process other : Process} (bindings : other.bindings = process.bindings)
    (environment : other.system.environment = process.system.environment) :
    other.value separatorVariable = process.value separatorVariable := by
  rw [value_eq other (by decide) (by decide) (by decide) separatorVariable_toNat?,
    value_eq process (by decide) (by decide) (by decide) separatorVariable_toNat?, bindings, environment]

/-- The line depends on the variables and the environment only. -/
theorem line_congr {process other : Process} (bindings : other.bindings = process.bindings)
    (environment : other.system.environment = process.system.environment) :
    other.value "LINE" = process.value "LINE" := by
  rw [value_eq other (by decide) (by decide) (by decide) line_toNat?,
    value_eq process (by decide) (by decide) (by decide) line_toNat?, bindings, environment]

/-- A shell in front of the command that reads, as the commands before it leave it. -/
structure Readies (process after : Process) : Prop where
  /-- The shell is plain. -/
  plain : after.IsPlain
  /-- Nothing is changed outside of it. -/
  system : after.system = process.system
  /-- Nothing is printed. -/
  output : after.output = process.output
  /-- The same bytes separate words. -/
  separators : after.value separatorVariable = process.value separatorVariable

/-- The first three commands get the shell ready to read. -/
theorem IsPlain.exists_readies (plain : process.IsPlain) (fuel : Nat) (prompt : String) {history : String}
    (noHelpPath : history ≠ "--help") :
    ∃ after, Readies process after ∧
      runSteps (fuel + 6) false process (promptSteps prompt history) =
        runSteps (fuel + 3) false after ((promptSteps prompt history).drop 3) := by
  have begun : (process.finish 0).IsPlain := plain.congr rfl
  obtain ⟨loaded, leaves, loads⟩ := begun.leaves_load noHelpPath
  have cleared : ((loaded.setVariable "LINE" []).finish 0).IsPlain := leaves.plain.congr rfl
  have separators : ((loaded.setVariable "LINE" []).finish 0).value separatorVariable =
      process.value separatorVariable :=
    calc ((loaded.setVariable "LINE" []).finish 0).value separatorVariable
      _ = (loaded.setVariable "LINE" []).value separatorVariable := separators_congr rfl rfl
      _ = loaded.value separatorVariable := separators_setVariable_line loaded []
      _ = process.value separatorVariable :=
        separators_congr leaves.bindings (congrArg System.environment leaves.system)
  refine ⟨_, ⟨cleared, leaves.system, leaves.output, separators⟩, ?_⟩
  rw [promptSteps, plain.runSteps_cons rfl (fun shielded => plain.set _ shielded) begun,
    begun.runSteps_cons rfl (loads _) leaves.plain,
    leaves.plain.runSteps_cons rfl (fun shielded => clear loaded _ shielded) cleared]
  rfl

/-- A shell behind the command that reads and the test whether that succeeded. -/
structure HasRead (process after : Process) : Prop where
  /-- The shell is plain. -/
  plain : after.IsPlain
  /-- The line was read, without the separators at its ends. -/
  line : after.value "LINE" = process.stripped process.inputLine.text
  /-- Outside of the shell it was taken from the input. -/
  system : after.system = { process.system with input := process.inputLine.rest }
  /-- Nothing is printed. -/
  output : after.output = process.output
  /-- Reading succeeded if a line feed ended the line. -/
  status : after.status = if process.inputLine.ended then 0 else 1

/-- A shell that is ready reads, whether there is a line or not. -/
theorem IsPlain.exists_hasRead (plain : process.IsPlain) (fuel : Nat) (prompt history : String) :
    ∃ after, HasRead process after ∧
      runSteps (fuel + 9) false process ((promptSteps prompt history).drop 3) =
        runSteps (fuel + 7) false after ((promptSteps prompt history).drop 5) := by
  obtain ⟨after, read⟩ : ∃ after, process.readLine ⟨true, ["LINE"]⟩ = after := ⟨_, rfl⟩
  have line : after.value "LINE" = process.stripped process.inputLine.text := by
    rw [← read, value_readLine]
  rw [readLine_eq] at read
  have calm : after.IsPlain := by
    rw [← read]
    exact plain.congr rfl
  have status : after.status = if process.inputLine.ended then 0 else 1 := by
    rw [← read]
    rfl
  have known : after.status = 0 ∨ after.status = 1 := by
    rw [status]
    cases process.inputLine.ended with
    | true => exact .inl rfl
    | false => exact .inr rfl
  have reads (fuel : Nat) (shielded : Bool) :
      Process.runCommand (fuel + 2) shielded process (readCommandOf prompt) = after :=
    (plain.read fuel shielded prompt).trans read
  refine ⟨after, ⟨calm, line, ?_, ?_, status⟩, ?_⟩
  · rw [← read]
    rfl
  · rw [← read]
    rfl
  · rw [promptSteps, List.drop_succ_cons, List.drop_succ_cons, List.drop_succ_cons, List.drop_zero,
      plain.runSteps_cons rfl (reads _) calm,
      calm.runSteps_cons rfl (fun shielded => calm.test _ shielded known) calm]
    rfl

/-- A shell that is ready reads a line that is ended, prints it and ends with success. -/
theorem IsPlain.exists_prints (plain : process.IsPlain) (fuel : Nat) (prompt : String) {history : String}
    (noHelpPath : history ≠ "--help") (ended : process.inputLine.ended = true) :
    ∃ entries,
      let line := process.stripped process.inputLine.text
      let system := { process.system with input := process.inputLine.rest }
      (runSteps (fuel + 9) false process ((promptSteps prompt history).drop 3)).finished =
        ⟨0, process.output ++ printedHelp line ++ (line ++ [0x0A]),
          (system.writeFile? history entries).getD system⟩ := by
  obtain ⟨after, ⟨calm, line, system, output, status⟩, came⟩ := plain.exists_hasRead fuel prompt history
  have skips : runsAfter .onFailure after.status = false := by
    rw [status, ended]
    rfl
  obtain ⟨appended, appending, appends⟩ := calm.leaves_append
  obtain ⟨written, writing, writes⟩ := appending.plain.leaves_write noHelpPath
  have kept : written.value "LINE" = after.value "LINE" := by
    have outside : written.system.environment = appended.system.environment := by
      rw [writing.system, System.writeFile?_getD_eq]
    exact (line_congr writing.bindings outside).trans
      (line_congr appending.bindings (congrArg System.environment appending.system))
  have printed : (written.put (formatted [ofText "%s\\n", written.value "LINE"])).IsPlain :=
    writing.plain.congr rfl
  have ran : runSteps (fuel + 7) false after ((promptSteps prompt history).drop 5) =
      written.put (formatted [ofText "%s\\n", written.value "LINE"]) := by
    rw [promptSteps, List.drop_succ_cons, List.drop_succ_cons, List.drop_succ_cons, List.drop_succ_cons,
      List.drop_succ_cons, List.drop_zero, calm.runSteps_skip skips, calm.runSteps_cons rfl (appends _) appending.plain,
      appending.plain.runSteps_cons rfl (writes _) writing.plain,
      writing.plain.runSteps_cons rfl (fun shielded => writing.plain.print _ shielded) printed, runSteps]
    exact Nat.succ_ne_zero _
  refine ⟨HistoryList.write appended.history, ?_⟩
  rw [came, ran, finished, ending, put, formatted_line, kept, line, writing.output, appending.output, line, output,
    writing.system, appending.system, system]
  simp only [writing.plain.stays, Option.getD_none]

/-- A shell that is ready fails at the end of the input, and prints nothing. -/
theorem IsPlain.fails (plain : process.IsPlain) (fuel : Nat) (prompt history : String)
    (ended : process.inputLine.ended = false) :
    (runSteps (fuel + 9) false process ((promptSteps prompt history).drop 3)).finished =
      ⟨1, process.output, { process.system with input := process.inputLine.rest }⟩ := by
  obtain ⟨after, ⟨calm, -, system, output, status⟩, came⟩ := plain.exists_hasRead fuel prompt history
  have failure : after.status = 1 := by
    rw [status, ended]
    rfl
  have ran : runSteps (fuel + 7) false after ((promptSteps prompt history).drop 5) = after.leave 1 := by
    rw [promptSteps, List.drop_succ_cons, List.drop_succ_cons, List.drop_succ_cons, List.drop_succ_cons,
      List.drop_succ_cons, List.drop_zero, calm.runSteps_exit failure]
  rw [came, ran, finished, ending, leave, output, system]
  rfl

/-- A shell that an environment brings nothing separates words at blanks, tabs and line feeds. -/
theorem separates_prepare {system : System} (nothing : Running.BringsNothing system.environment)
    (arguments : List Bytes) : (Process.start .bash system arguments).prepare.separates = isSeparator := by
  have same : (Process.start .bash system arguments).prepare.value separatorVariable =
      (Process.start .bash system arguments).value separatorVariable := by
    rw [Running.prepare_eq nothing]
    exact separators_congr rfl rfl
  rw [← separates_start system arguments]
  funext byte
  rw [separates, separates, same]

/-- What is printed for a line that was typed: the line without the blanks and tabs at its ends, behind the help
where it asks for that. -/
def printedFor (typed : List Char) : Bytes :=
  printedHelp (encode (trimGaps typed)) ++ (encode (trimGaps typed) ++ [0x0A])

end Process

open Process

section Launched

variable {system : System} {history : String}

/-- A shell that is launched comes to the command that reads with nothing printed and nothing changed outside of
it, and separates words as usual. -/
theorem exists_runShell (nothing : Running.BringsNothing system.environment) (name : Bytes) (prompt : String)
    (noHelpPath : history ≠ "--help") :
    ∃ process : Process, (process.IsPlain ∧ process.system = system ∧ process.output = [] ∧
        process.separates = isSeparator) ∧
      runShell .bash system name [ofText "-c", ofText (promptScript prompt history)] =
        (runSteps (Process.enoughSteps - 3) false process ((promptSteps prompt history).drop 3)).finished := by
  have plain := (Running.isPlain_prepare nothing [name]).1
  have prepared := Running.prepare_eq nothing [name]
  obtain ⟨process, readies, same⟩ := plain.exists_readies (Process.enoughSteps - 6) prompt noHelpPath
  refine ⟨process, ⟨readies.plain, ?_, ?_, ?_⟩, ?_⟩
  · rw [readies.system, prepared]
    rfl
  · rw [readies.output, prepared]
    rfl
  · rw [← separates_prepare nothing [name]]
    funext byte
    rw [Process.separates, Process.separates, readies.separators]
  · rw [Running.runShell_script nothing, runScript, ofText_promptScript]
    exact congrArg finished same

/-- A shell that is launched on a typed line prints it and takes it from the input; nothing else changes but the
history file. -/
theorem exists_runShell_line (nothing : Running.BringsNothing system.environment) (name : Bytes) (prompt : String)
    (noHelpPath : history ≠ "--help") {typed : List Char} (single : '\n' ∉ typed) (noNull : '\x00' ∉ typed)
    {rest : Bytes} (input : system.input = encode typed ++ 0x0A :: rest) :
    ∃ entries,
      runShell .bash system name [ofText "-c", ofText (promptScript prompt history)] =
        ⟨0, printedFor typed,
          (({ system with input := rest } : System).writeFile? history entries).getD
            { system with input := rest }⟩ := by
  obtain ⟨process, ⟨plain, outside, silent, separates⟩, same⟩ := exists_runShell nothing name prompt noHelpPath
  have taken : process.inputLine = ⟨true, encode typed, rest⟩ := by
    rw [inputLine, outside, input]
    split
    · exact InputLine.take_encode (.inl rfl) single noNull rest
    · exact InputLine.take_encode (.inr rfl) single noNull rest
  have whole : process.inputLine.text = encode typed := by
    rw [taken, InputLine.text, List.takeWhile_eq_self_iff]
    intro byte member
    obtain ⟨c, inside, own⟩ := List.mem_flatMap.1 member
    have noFeed : c ≠ '\n' := fun feed => single (feed ▸ inside)
    have present : c ≠ '\x00' := fun null => noNull (null ▸ inside)
    simpa using (plain_of_mem_encodeChar noFeed present own).2
  have stripped : process.stripped process.inputLine.text = encode (trimGaps typed) := by
    rw [whole, Process.stripped, separates, ← trimSeparators_encode single]
    rfl
  obtain ⟨entries, printed⟩ := plain.exists_prints (Process.enoughSteps - 12) prompt noHelpPath
    (by rw [taken])
  refine ⟨entries, same.trans (printed.trans ?_)⟩
  rw [stripped, outside, silent, taken]
  rfl

/-- A shell that is launched at the end of the input fails and prints nothing. -/
theorem runShell_atEnd (nothing : Running.BringsNothing system.environment) (name : Bytes) (prompt : String)
    (noHelpPath : history ≠ "--help") (input : system.input = []) :
    runShell .bash system name [ofText "-c", ofText (promptScript prompt history)] = ⟨1, [], system⟩ := by
  obtain ⟨process, ⟨plain, outside, silent, -⟩, same⟩ := exists_runShell nothing name prompt noHelpPath
  have taken : process.inputLine = ⟨false, [], []⟩ := by
    rw [inputLine, outside, input]
    rfl
  refine (same.trans (plain.fails (Process.enoughSteps - 12) prompt history (by rw [taken]))).trans ?_
  rw [outside, silent, taken, ← input]

end Launched

end LiveConsole.Shell
