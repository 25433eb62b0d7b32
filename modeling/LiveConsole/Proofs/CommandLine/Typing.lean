import LiveConsole.CommandLine.Machine
import LiveConsole.Proofs.Reader
import LiveConsole.Proofs.Shell.Serving

/-!
# Reading what is typed

What is typed comes to the reader through the shell. Each run of the command that reads a line prints the next
line, without the blanks and tabs at its ends; the lines of a text come together as the reader puts results
together. So a text comes back as it was typed where each of its lines is printed as it was typed, and the blanks
at the start of a line that goes on are lost.
-/
namespace LiveConsole

/-- The results of calls one after another, each with its prompt, and the state behind them. -/
def Reader.inTurn {State Result : Type} (call : String → State → Result × State) :
    List String → State → List Result × State
  | [], state => ([], state)
  | prompt :: prompts, state =>
    let (result, state) := call prompt state
    let (results, state) := inTurn call prompts state
    (result :: results, state)

namespace Prompter

open Reader

/-- The bytes of typed lines, each with a line feed behind it. -/
def typed (lines : List String) : Shell.Bytes := lines.flatMap fun line => Shell.ofText (line ++ "\n")

/-- The first line stands in front of the others. -/
theorem typed_cons (line : String) (lines : List String) :
    typed (line :: lines) = Shell.ofText line ++ 0x0A :: typed lines := by
  have feed : Shell.encode ['\n'] = [0x0A] := rfl
  have ended : Shell.ofText (line ++ "\n") = Shell.ofText line ++ [0x0A] := by
    rw [Shell.ofText, String.toList_append, Shell.encode, List.flatMap_append, ← feed]
    rfl
  rw [typed, List.flatMap_cons, ended, List.append_assoc, List.singleton_append]
  rfl

/-- Whether these lines are still to be read: they are all that is left of the input, and runs of the command that
reads a line are served. -/
structure Awaits (prompter : Prompter) (lines : List String) (tape : Tape) : Prop where
  /-- Runs are served. -/
  served : Shell.IsServed prompter.history.text prompter.shell tape.system
  /-- The lines are what is left of the input. -/
  input : tape.system.input = typed lines
  /-- Each of them is a single line. -/
  single : ∀ line ∈ lines, '\n' ∉ line.toList
  /-- None has a null character. -/
  noNull : ∀ line ∈ lines, '\x00' ∉ line.toList

/-- The results of runs on typed lines. -/
def printed (lines : List String) : Chunks := lines.map fun line => some (Shell.printedText line)

/-- A text as it is typed: its fragments, behind each of which it goes on in the next line, and the last one. -/
structure Typing where
  /-- The fragments that a backslash is typed behind. -/
  fragments : List String
  /-- The last fragment. -/
  last : String
  deriving DecidableEq, Repr

namespace Typing

/-- The lines that are typed. -/
def lines (typing : Typing) : List String := typing.fragments.map (· ++ "\\") ++ [typing.last]

/-- The text. -/
def text (typing : Typing) : String := String.join typing.fragments ++ typing.last

/-- Whether the text comes back as it was typed: each line is printed as it was typed, and the last one ends the
text. -/
structure ComesBack (typing : Typing) : Prop where
  /-- The last fragment does not go on. -/
  settles : Settles typing.last
  /-- The lines are printed as they were typed. -/
  asTyped : ∀ line ∈ typing.lines, Shell.IsPrintedAsTyped line

end Typing

variable {prompter : Prompter} {lines : List String} {tape : Tape} {prompt : String}

namespace Awaits

/-! ## Single runs -/

/-- Each run gives what is printed for the next line, and awaits the others; when no line is left it fails. -/
theorem exists_source (awaits : Awaits prompter lines tape) (speakable : '\x00' ∉ prompt.toList) :
    ∃ after, Awaits prompter lines.tail after ∧
      prompter.source prompt tape = ((printed lines).head?.join, after) := by
  cases lines with
  | nil =>
    refine ⟨tape, awaits, ?_⟩
    rw [source, command, awaits.served.runCommandLine_atEnd speakable awaits.input]
    simp [printed]
  | cons line lines =>
    obtain ⟨later, ⟨served, rest⟩, ran⟩ := awaits.served.exists_runCommandLine speakable
      (awaits.single line List.mem_cons_self) (awaits.noNull line List.mem_cons_self)
      (awaits.input.trans (typed_cons line lines))
    refine ⟨⟨later, tape.log ++ [].map .record⟩, ⟨served, rest, ?_, ?_⟩, ?_⟩
    · exact fun other member => awaits.single other (List.mem_cons_of_mem line member)
    · exact fun other member => awaits.noNull other (List.mem_cons_of_mem line member)
    · rw [source, command, ran]
      rfl

/-- Successive runs give what is printed for the lines, and fail behind the last of them. -/
theorem inTurn_source (awaits : Awaits prompter lines tape) {prompts : List String}
    (speakable : ∀ prompt ∈ prompts, '\x00' ∉ prompt.toList) :
    (inTurn prompter.source prompts tape).1 = (printed lines).takeD prompts.length none := by
  induction prompts generalizing lines tape with
  | nil => rfl
  | cons prompt prompts ih =>
    obtain ⟨after, further, called⟩ := awaits.exists_source (speakable prompt List.mem_cons_self)
    have others := ih further fun other member => speakable other (List.mem_cons_of_mem prompt member)
    have tail : printed lines.tail = (printed lines).tail := List.map_tail
    have head : (printed lines).head?.join = (printed lines).head?.getD none := by
      cases (printed lines).head? <;> rfl
    rw [inTurn, called, List.length_cons, List.takeD_succ, ← tail, ← others, ← head]

/-! ## Single reads -/

/-- Successive runs give the results that stand in front, and await the lines behind them. -/
theorem exists_gives (awaits : Awaits prompter lines tape) (speakable : '\x00' ∉ prompt.toList)
    {group : List (Option String)} (first : group <+: printed lines ++ [none]) :
    ∃ after, Awaits prompter (lines.drop group.length) after ∧ Gives prompter.source prompt group tape after := by
  induction group generalizing lines tape prompt with
  | nil => exact ⟨tape, awaits, .nothing prompt tape⟩
  | cons result rest ih =>
    obtain ⟨after, further, called⟩ := awaits.exists_source speakable
    obtain ⟨rfl, behind⟩ := head_of_isPrefix first
    have tail : printed lines.tail = (printed lines).tail := List.map_tail
    rw [← tail] at behind
    obtain ⟨final, left, given⟩ := ih further (by decide : '\x00' ∉ Shell.continuationPrompt.toList) behind
    rw [List.drop_tail] at left
    exact ⟨final, left, .next called given⟩

/-- There are no more lines than bytes. -/
theorem length_le (awaits : Awaits prompter lines tape) : lines.length ≤ tape.system.input.length := by
  rw [awaits.input]
  clear awaits
  induction lines with
  | nil => exact Nat.zero_le _
  | cons line lines ih =>
    rw [typed_cons, List.length_append, List.length_cons, List.length_cons]
    omega

/-- A read takes the results of one line and gives that line. -/
theorem exists_read (awaits : Awaits prompter lines tape) (speakable : '\x00' ∉ prompt.toList)
    {group : List (Option String)} (complete : IsGroup group) (first : group <+: printed lines ++ [none]) :
    ∃ after, Awaits prompter (lines.drop group.length) after ∧
      prompter.read prompt tape = (.ok (lineOf group), after) := by
  obtain ⟨after, left, given⟩ := awaits.exists_gives speakable first
  have passable : Shell.isPassable (prompter.command prompt) = true := by
    rw [command, Shell.isPassable_promptCommand]
    simp [Shell.isPassable, speakable, awaits.served.noNull]
  have enough : group.length ≤ tape.system.input.length + 1 := by
    have short := first.length_le
    have bytes := awaits.length_le
    rw [List.length_append, List.length_singleton, printed, List.length_map] at short
    omega
  refine ⟨after, left, ?_⟩
  rw [read, passable, readLine_of_gives complete given enough]
  rfl

/-! ## Reads one after another -/

/-- Successive reads give the lines of the groups that the results fall into. -/
theorem inTurn_read (awaits : Awaits prompter lines tape) {prompts : List String}
    (speakable : ∀ prompt ∈ prompts, '\x00' ∉ prompt.toList) {groups : List (List (Option String))}
    (length : groups.length = prompts.length) (parted : IsParted (printed lines) groups) :
    (inTurn prompter.read prompts tape).1 = groups.map fun group => .ok (lineOf group) := by
  induction groups generalizing lines tape prompts with
  | nil =>
    obtain rfl := List.length_eq_zero_iff.1 length.symm
    rfl
  | cons group groups ih =>
    cases prompts with
    | nil => cases length
    | cons prompt prompts =>
      have complete := parted.complete group List.mem_cons_self
      obtain ⟨failures, whole⟩ := parted.inOrder
      have first := complete.isPrefix ((List.prefix_append group groups.flatten).trans whole)
      obtain ⟨after, left, taken⟩ := awaits.exists_read (speakable prompt List.mem_cons_self) complete first
      have others := ih left (fun other member => speakable other (List.mem_cons_of_mem prompt member))
        (Nat.succ_injective length) (by rw [printed, List.map_drop]; exact parted.tail)
      rw [inTurn, taken, List.map_cons, ← others]

end Awaits

/-! ## Texts in fragments -/

namespace Typing

/-- The results for a text whose lines are printed as they were typed are those of its fragments. -/
theorem ComesBack.printed_lines {typing : Typing} (back : typing.ComesBack)
    (single : ∀ line ∈ typing.lines, '\n' ∉ line.toList) :
    printed typing.lines = fragmentResults typing.fragments typing.last := by
  have each : printed typing.lines = typing.lines.map fun line => some (line ++ "\n") :=
    List.map_congr_left fun line member => by
      rw [(Shell.printedText_eq_iff (single line member)).2 (back.asTyped line member)]
  rw [each, Typing.lines, fragmentResults, List.map_append, List.map_map]
  simp [Function.comp_def, String.append_assoc]

/-- The results for texts that come back fall into the groups of these texts. -/
theorem isParted_printed {typings : List Typing} {others : List String}
    (front : typings.flatMap Typing.lines <+: others) (single : ∀ line ∈ others, '\n' ∉ line.toList)
    (back : ∀ typing ∈ typings, typing.ComesBack) :
    IsParted (printed others) (typings.map fun typing => fragmentResults typing.fragments typing.last) := by
  have same : (typings.map fun typing => fragmentResults typing.fragments typing.last) =
      typings.map fun typing => printed typing.lines :=
    List.map_congr_left fun typing member => ((back typing member).printed_lines fun line inside =>
      single line (front.subset (List.mem_flatMap_of_mem member inside))).symm
  refine ⟨List.forall_mem_map.2 fun typing member => ?_, 0, ?_⟩
  · exact isGroup_fragmentResults typing.fragments (back typing member).settles
  · have joined : printed (typings.flatMap Typing.lines) = (typings.map fun typing => printed typing.lines).flatten := by
      rw [printed, List.map_flatMap]
      rfl
    rw [same, ← joined, List.replicate_zero, List.append_nil]
    exact front.map _

end Typing

/-- Typed text comes through the shell line by line, trimmed. Successive runs of the command print the successive
lines without the blanks and tabs at their ends, and fail behind the last one; a line is printed as it was typed
exactly if it has no blank or tab at its ends and no carriage return in it, and is no request for help. Successive
reads give the lines that these results come to, group by group; so a text comes back as it was typed, in however
many fragments, if all its lines are printed as they were typed. -/
theorem delivers_trimmed (awaits : Awaits prompter lines tape) {prompts : List String}
    (speakable : ∀ prompt ∈ prompts, '\x00' ∉ prompt.toList) :
    (inTurn prompter.source prompts tape).1 = (printed lines).takeD prompts.length none ∧
      (∀ line ∈ lines, Shell.printedText line = line ++ "\n" ↔ Shell.IsPrintedAsTyped line) ∧
      (∃ groups, groups.length = prompts.length ∧ IsParted (printed lines) groups) ∧
      (∀ groups, groups.length = prompts.length → IsParted (printed lines) groups →
        (inTurn prompter.read prompts tape).1 = groups.map fun group => .ok (lineOf group)) ∧
      ∀ typings : List Typing, typings.length = prompts.length → typings.flatMap Typing.lines <+: lines →
        (∀ typing ∈ typings, typing.ComesBack) →
          (inTurn prompter.read prompts tape).1 = typings.map fun typing => .ok typing.text := by
  refine ⟨awaits.inTurn_source speakable, fun line member => Shell.printedText_eq_iff (awaits.single line member),
    exists_isParted prompts.length (printed lines), fun _ length parted => awaits.inTurn_read speakable length parted,
    fun typings length front back => ?_⟩
  have parted := Typing.isParted_printed front awaits.single back
  rw [awaits.inTurn_read speakable (by rw [List.length_map, length]) parted, List.map_map]
  exact List.map_congr_left fun typing member =>
    congrArg Except.ok (lineOf_fragmentResults typing.fragments (back typing member).settles)

/-- A prompter whose history file is missing. -/
def usual : Prompter := ⟨⟨"/", ["h"]⟩, Shell.usualShell⟩

/-- A text whose second line starts with blanks is typed, on a machine with nothing but a shell. -/
def indented : Tape where
  system :=
    { tree :=
        { entries :=
            [([], .directory FileTree.usualTime), (["bin"], .directory FileTree.usualTime),
              (["bin", "bash"], .file FileTree.usualTime Shell.programMark true)] }
      directory := []
      environment := ⟨[], none, []⟩
      input := typed ["x = [1,\\", "  2]"] }
  log := []

/-- Runs are served there. -/
theorem awaits_indented : Awaits usual ["x = [1,\\", "  2]"] indented where
  served :=
    { path := by decide
      launches := by rfl
      nothing := ⟨by simp [indented], rfl, rfl⟩
      noHelpPath := by decide
      noNull := by decide
      apart := by
        intro location spared left _ leads
        cases leads }
  input := rfl
  single := by decide
  noNull := by decide

/-- The blanks in front of the second line are lost. -/
theorem reads_unindented :
    Awaits usual ["x = [1,\\", "  2]"] indented ∧ (∀ prompt ∈ ["py> "], '\x00' ∉ prompt.toList) ∧
      (inTurn usual.source ["py> ", "--> "] indented).1 = [some "x = [1,\\\n", some "2]\n"] ∧
      (inTurn usual.read ["py> "] indented).1 = [.ok "x = [1,2]"] := by
  have speakable : ∀ prompt ∈ ["py> ", "--> "], '\x00' ∉ prompt.toList := by decide
  have early : ∀ prompt ∈ ["py> "], '\x00' ∉ prompt.toList := by decide
  have printing : printed ["x = [1,\\", "  2]"] = [some "x = [1,\\\n", some "2]\n"] := by decide +kernel
  obtain ⟨runs, -⟩ := delivers_trimmed awaits_indented speakable
  obtain ⟨-, -, -, reads, -⟩ := delivers_trimmed awaits_indented early
  have parted : IsParted (printed ["x = [1,\\", "  2]"]) [[some "x = [1,\\\n", some "2]\n"]] := by
    rw [printing]
    refine ⟨?_, 0, by simp⟩
    simp only [List.forall_mem_singleton]
    exact ⟨[some "x = [1,\\\n"], some "2]\n", rfl, by decide, by decide⟩
  refine ⟨awaits_indented, early, ?_, ?_⟩
  · rw [runs, printing]
    rfl
  · rw [reads _ rfl parted]
    rfl

end Prompter

end LiveConsole
