import LiveConsole.Proofs.Loop.Round
import LiveConsole.Proofs.Text.Blank

/-!
# The line protocol of the read loop

Without a path under watch, a run of the read loop is settled by the lines it is given. The lines before
the first one that ends the loop are worked off in order, each but the empty ones by one call, and every
call is reported by the text written for it. A run ends with the line that ends it, or with the first
call that comes to a fault: the code raised it, or the value to be shown cannot be written.
-/
namespace LiveConsole.Loop

/-! ## Lines given one after another -/

/-- Give the next line; behind the last one, the word that leaves the loop. -/
def nextLine (_prompt : String) : List String → Except Fault String × List String
  | [] => (.ok exitWord, [])
  | line :: rest => (.ok line, rest)

/-- Whether a line ends the loop. -/
def ends (line : String) : Bool := isWord exitWord line || isWord restartWord line

/-- The lines before the first one that ends the loop. -/
def worked (lines : List String) : List String := lines.takeWhile fun line => !ends line

/-- The line that ends the loop: the first one that does, or the word that leaves it behind the last
line. -/
def parting (lines : List String) : String := (lines.find? ends).getD exitWord

/-- How a line that ends the loop ends it. -/
def endingOf (line : String) : Ending := if isWord exitWord line then .left else .restart

/-- The lines that call for something to be run. -/
def demanded (lines : List String) : List String := (worked lines).filter (· ≠ "")

/-- The text written when a line ends the loop. -/
def farewell (quiet : Bool) (line : String) : String :=
  if quiet || isWord exitWord line then "" else restarting ++ "\n"

/-- The word that leaves the loop leaves it. -/
theorem endingOf_exitWord : endingOf exitWord = .left := by decide

/-- Leaving the loop writes nothing. -/
theorem farewell_exitWord (quiet : Bool) : farewell quiet exitWord = "" := by
  cases quiet <;> decide

/-! ## Reports of calls -/

/-- What came of one call: the text written for it, and the fault that it ended in, if it did. -/
structure Report where
  /-- The text written. -/
  text : String
  /-- The fault. -/
  fault : Option Fault
  deriving DecidableEq, Repr

/-- The report of a call with an outcome: its output, and behind it the dump of its value if one is asked
for. -/
def Report.of (showIdent : Ident → String) (quiet : Bool) (kind : Line.Kind)
    (outcome : Except Fault Program.Execution) : Report :=
  match outcome with
  | .error fault => ⟨"", some fault⟩
  | .ok execution =>
    if kind = .statement ∨ quiet then ⟨tidy execution.output, none⟩
    else
      match Dump.text? showIdent execution.value with
      | .ok dump => ⟨tidy execution.output ++ ("=> " ++ dump), none⟩
      | .error fault => ⟨tidy execution.output, some fault⟩

/-- How the loop goes on after a report. -/
def Report.turn (report : Report) : Turn :=
  match report.fault with
  | none => .again
  | some fault => .over (.error fault)

variable {State : Type} (around : Surroundings State) (showIdent : Ident → String) (quiet : Bool)

/-- Call for lines in order up to the first fault: the reports of the calls made. -/
def reportAll : List String → State → List Report × State
  | [], state => ([], state)
  | line :: rest, state =>
    let (outcome, state) := call around line state
    let found := Report.of showIdent quiet (kindOf line) outcome
    if found.fault.isSome then ([found], state)
    else
      let (others, state) := reportAll rest state
      (found :: others, state)

/-! ## What is written for a call -/

/-- Captured output is written in its tidy form. -/
theorem textOf_outputEvents (output : String) :
    textOf showIdent (outputEvents output) = tidy output := by
  unfold outputEvents
  split
  · rename_i empty
    rw [tidy, if_pos empty, textOf_nil]
  · rw [textOf_cons, Event.text, textOf_nil, String.append_empty]

/-- Tidy output is the output with the line feeds at its end replaced by one, unless there is none. -/
theorem tidy_eq (output : String) (present : output ≠ "") :
    ∃ kept : List Char, ∃ feeds : Nat,
      output.toList = kept ++ List.replicate feeds '\n' ∧ kept.getLast? ≠ some '\n' ∧
        (tidy output).toList = kept ++ ['\n'] := by
  obtain ⟨feeds, parted, last⟩ := Text.dropEndWhile_feeds output.toList
  refine ⟨Text.dropEndWhile (· == '\n') output.toList, feeds, parted, last, ?_⟩
  have full : output.isEmpty = false := by simpa using present
  rw [tidy, full]
  simp

/-- The account of a call goes on as its report says and writes the text of the report. -/
theorem account_eq_report (kind : Line.Kind) (outcome : Except Fault Program.Execution) :
    (account quiet kind outcome).1 = (Report.of showIdent quiet kind outcome).turn ∧
      textOf showIdent (account quiet kind outcome).2 =
        (Report.of showIdent quiet kind outcome).text := by
  cases outcome with
  | error fault => exact ⟨rfl, rfl⟩
  | ok execution =>
    cases kind with
    | statement =>
      exact ⟨by simp [account, Report.of, Report.turn],
        by simp [account, Report.of, textOf_outputEvents]⟩
    | expression =>
      cases quiet with
      | true =>
        exact ⟨by simp [account, shownEvents, Report.of, Report.turn],
          by simp [account, shownEvents, Report.of, textOf_outputEvents]⟩
      | false =>
        cases shown : Dump.lines? execution.value with
        | error fault =>
          simp [account, shownEvents, Report.of, Report.turn, Dump.text?, shown, Except.map,
            textOf_outputEvents]
        | ok dump =>
          simp [account, shownEvents, Report.of, Report.turn, Dump.text?, shown, Except.map,
            textOf_outputEvents, textOf_cons, Event.text]

/-! ## Single lines -/

/-- An empty line calls for nothing. -/
theorem respond_empty (state : State) : respond around quiet "" state = (.again, [], state) := by
  rw [respond, if_pos rfl]

/-- A line that ends the loop is not empty. -/
theorem ne_empty_of_ends {line : String} (closing : ends line = true) : line ≠ "" := by
  rintro rfl
  exact absurd closing (by decide)

/-- A line that ends the loop ends it as it says, with a farewell and nothing run. -/
theorem respond_ends {line : String} (closing : ends line = true) (state : State) :
    ∃ events, respond around quiet line state = (.over (.ok (endingOf line)), events, state) ∧
      (∀ event ∈ events, event.isWriting) ∧ textOf showIdent events = farewell quiet line := by
  rw [respond, if_neg (ne_empty_of_ends closing), endingOf, farewell]
  by_cases leaves : isWord exitWord line = true
  · exact ⟨[], by rw [if_pos leaves, if_pos leaves], by simp, by simp [leaves]⟩
  · have restarts : isWord restartWord line = true := by
      simpa [ends, leaves] using closing
    refine ⟨statusEvents quiet restarting, by rw [if_neg leaves, if_pos restarts, if_neg leaves],
      statusEvents_writing quiet restarting, ?_⟩
    cases quiet <;> simp [statusEvents, leaves, textOf_cons, Event.text]

/-- Any other line is called for, and the loop goes on as the report of the call says. -/
theorem respond_call {line : String} (present : line ≠ "") (staying : ends line = false)
    (state : State) :
    ∃ events, respond around quiet line state =
        ((Report.of showIdent quiet (kindOf line) (call around line state).1).turn,
          .ran (Line.code line) :: events, (call around line state).2) ∧
      (∀ event ∈ events, event.isWriting) ∧ textOf showIdent events =
        (Report.of showIdent quiet (kindOf line) (call around line state).1).text := by
  simp only [ends, Bool.or_eq_false_iff] at staying
  have report := account_eq_report showIdent quiet (kindOf line) (call around line state).1
  refine ⟨(account quiet (kindOf line) (call around line state).1).2, ?_,
    account_writing quiet _ _, report.2⟩
  rw [respond, if_neg present, if_neg (by simp [staying.1]), if_neg (by simp [staying.2]),
    evaluate_eq, report.1]

/-- A line that asks for a restart does not leave the loop. -/
theorem not_exit_of_restart {line : String} (asks : isWord restartWord line = true) :
    isWord exitWord line = false := by
  unfold isWord at asks ⊢
  rw [eq_of_beq asks]
  decide

/-- A line that leaves the loop does nothing else. -/
theorem respond_exit {line : String} (leaves : isWord exitWord line = true) (state : State) :
    respond around quiet line state = (.over (.ok .left), [], state) := by
  have present : line ≠ "" := ne_empty_of_ends (by simp [ends, leaves])
  rw [respond, if_neg present, if_pos leaves]

/-- A line that asks for a restart is answered with the status line. -/
theorem respond_restart {line : String} (asks : isWord restartWord line = true) (state : State) :
    respond around quiet line state = (.over (.ok .restart), statusEvents quiet restarting, state) := by
  have present : line ≠ "" := ne_empty_of_ends (by simp [ends, asks])
  rw [respond, if_neg present, if_neg (by simp [not_exit_of_restart asks]), if_pos asks]

/-- Only a line that asks for a restart brings one about. -/
theorem asks_of_respond {line : String} {state after : State} {events : List Event}
    (ended : respond around quiet line state = (.over (.ok .restart), events, after)) :
    isWord restartWord line = true := by
  by_cases closing : ends line = true
  · obtain ⟨_, responded, _⟩ := respond_ends around (fun _ => "") quiet closing state
    rw [responded, endingOf] at ended
    by_cases leaves : isWord exitWord line = true
    · rw [if_pos leaves] at ended
      cases ended
    · simpa [ends, leaves] using closing
  · by_cases present : line = ""
    · subst present
      rw [respond_empty] at ended
      cases ended
    · obtain ⟨_, responded, _⟩ := respond_call around (fun _ => "") quiet present
        (by simpa using closing) state
      rw [responded, Report.turn] at ended
      split at ended <;> cases ended

/-! ## Runs -/

variable (prompt : String) {rounds : Nat} {line : String} {rest : List String} {state after : State}
variable {events : List Event}

/-- The run of a loop that is given lines and watches no path. -/
abbrev runLines (rounds : Nat) (lines : List String) (state : State) :
    Except Fault Ending × List Event × List String × State :=
  run (around.readingFrom nextLine) ⟨prompt, quiet, none⟩ rounds (lines, state)

/-- A line that lets the loop go on is followed by the run over the lines behind it. -/
theorem runLines_again (again : respond around quiet line state = (.again, events, after)) :
    runLines around quiet prompt (rounds + 1) (line :: rest) state =
      ((runLines around quiet prompt rounds rest after).1,
        .read prompt line :: events ++ (runLines around quiet prompt rounds rest after).2.1,
        (runLines around quiet prompt rounds rest after).2.2) := by
  simp only [runLines, run, turn_readingFrom, look, nextLine, again]

/-- A line that ends the loop is the last one read. -/
theorem runLines_over {result : Except Fault Ending}
    (ended : respond around quiet line state = (.over result, events, after)) :
    runLines around quiet prompt (rounds + 1) (line :: rest) state =
      (result, .read prompt line :: events, rest, after) := by
  simp only [runLines, run, turn_readingFrom, look, nextLine, ended]

/-- Behind the last line the loop is left. -/
theorem runLines_nil : runLines around quiet prompt (rounds + 1) [] state =
    (.ok .left, [.read prompt exitWord], [], state) := by
  have leaving : respond around quiet exitWord state = (.over (.ok .left), [], state) := by
    rw [respond, if_neg (by decide), if_pos (by decide)]
  simp only [runLines, run, turn_readingFrom, look, nextLine, leaving]

/-! ## Lists of lines, line by line -/

/-- The lines before a line that ends the loop end there. -/
theorem worked_cons_of_ends (closing : ends line = true) : worked (line :: rest) = [] := by
  simp [worked, closing]

/-- The lines before the end go on behind any other line. -/
theorem worked_cons (staying : ends line = false) : worked (line :: rest) = line :: worked rest := by
  simp [worked, staying]

/-- The first line ends the loop if it can. -/
theorem parting_cons_of_ends (closing : ends line = true) : parting (line :: rest) = line := by
  simp [parting, closing]

/-- Any other line leaves the end to the lines behind it. -/
theorem parting_cons (staying : ends line = false) : parting (line :: rest) = parting rest := by
  simp [parting, staying]

/-- An empty line is worked off and calls for nothing. -/
theorem demanded_empty : demanded ("" :: rest) = demanded rest := by
  rw [demanded, worked_cons (by decide)]
  rfl

/-- Nothing behind a line that ends the loop is called for. -/
theorem demanded_cons_of_ends (closing : ends line = true) : demanded (line :: rest) = [] := by
  rw [demanded, worked_cons_of_ends closing]
  rfl

/-- Any other line is called for before the lines behind it. -/
theorem demanded_cons (present : line ≠ "") (staying : ends line = false) :
    demanded (line :: rest) = line :: demanded rest := by
  rw [demanded, worked_cons staying, List.filter_cons_of_pos (by simpa using present), demanded]

/-- The reports of lines: that of the first one alone if it ends in a fault, else with those behind it. -/
theorem reportAll_cons : reportAll around showIdent quiet (line :: rest) state =
    if (Report.of showIdent quiet (kindOf line) (call around line state).1).fault.isSome then
      ([Report.of showIdent quiet (kindOf line) (call around line state).1],
        (call around line state).2)
    else
      (Report.of showIdent quiet (kindOf line) (call around line state).1 ::
          (reportAll around showIdent quiet rest (call around line state).2).1,
        (reportAll around showIdent quiet rest (call around line state).2).2) := rfl

/-! ## The protocol -/

/-- When no call comes to a fault, every line up to the end of the loop is read, every line that calls for
something is run, and the text written is that of the reports with the farewell behind it. -/
theorem runLines_of_no_fault (spare : Nat) (lines : List String) (state : State)
    (fine : ∀ report ∈ (reportAll around showIdent quiet (demanded lines) state).1,
      report.fault = none) :
    let outcome := runLines around quiet prompt (lines.length + 1 + spare) lines state
    let reported := reportAll around showIdent quiet (demanded lines) state
    outcome.1 = .ok (endingOf (parting lines)) ∧
      reads outcome.2.1 = (worked lines ++ [parting lines]).map (prompt, ·) ∧
      codes outcome.2.1 = (demanded lines).map Line.code ∧
      textOf showIdent outcome.2.1 =
        String.join (reported.1.map Report.text) ++ farewell quiet (parting lines) ∧
      outcome.2.2 = (lines.drop ((worked lines).length + 1), reported.2) := by
  induction lines generalizing state with
  | nil =>
    rw [show ([] : List String).length + 1 + spare = spare + 1 by simp; omega, runLines_nil]
    exact ⟨congrArg Except.ok endingOf_exitWord.symm, rfl, rfl,
      (farewell_exitWord quiet).symm, rfl⟩
  | cons line rest ih =>
    rw [show (line :: rest).length + 1 + spare = (rest.length + 1 + spare) + 1 by simp; omega]
    by_cases closing : ends line = true
    · obtain ⟨events, responded, writing, text⟩ := respond_ends around showIdent quiet closing state
      rw [runLines_over around quiet prompt responded, worked_cons_of_ends closing,
        parting_cons_of_ends closing, demanded_cons_of_ends closing]
      refine ⟨rfl, ?_, ?_, ?_, rfl⟩
      · rw [reads_read, reads_of_writing writing]
        rfl
      · rw [codes_read, codes_of_writing writing]
        rfl
      · rw [textOf_read, text]
        simp [reportAll]
    · have staying : ends line = false := by simpa using closing
      rw [worked_cons staying, parting_cons staying]
      by_cases empty : line = ""
      · subst empty
        rw [demanded_empty] at fine ⊢
        obtain ⟨result, read, ran, text, left⟩ := ih state fine
        rw [runLines_again around quiet prompt (respond_empty around quiet state)]
        exact ⟨result, by simp [read], by simp [ran], by simp [text], by simp [left]⟩
      · rw [demanded_cons empty staying, reportAll_cons] at fine ⊢
        obtain ⟨events, responded, writing, text⟩ :=
          respond_call around showIdent quiet empty staying state
        generalize Report.of showIdent quiet (kindOf line) (call around line state).1 = found at *
        have sound : found.fault = none := by
          apply fine
          split <;> simp
        rw [if_neg (by simp [sound])] at fine ⊢
        simp only [Report.turn, sound] at responded
        obtain ⟨result, read, ran, texts, left⟩ :=
          ih (call around line state).2 fun report member => fine report (List.mem_cons_of_mem _ member)
        rw [runLines_again around quiet prompt responded]
        refine ⟨result, ?_, ?_, ?_, ?_⟩
        · simp [read, reads_of_writing writing]
        · simp [ran, codes_of_writing writing]
        · simp [texts, text, String.join_cons, String.append_assoc]
        · simp [left]

/-- When a call comes to a fault, that fault is the result; the line of the call is the last one read, its
code the last that is run, and the text written is that of the reports. -/
theorem runLines_of_fault (spare : Nat) (lines : List String) (state : State)
    {done : List Report} {text : String} {fault : Fault}
    (faulty : (reportAll around showIdent quiet (demanded lines) state).1 =
      done ++ [⟨text, some fault⟩]) :
    let outcome := runLines around quiet prompt (lines.length + 1 + spare) lines state
    let reported := reportAll around showIdent quiet (demanded lines) state
    outcome.1 = .error fault ∧
      textOf showIdent outcome.2.1 = String.join (reported.1.map Report.text) ∧
      ∃ before line behind, worked lines = before ++ line :: behind ∧ line ≠ "" ∧
        (before.filter (· ≠ "")).length = done.length ∧
        reads outcome.2.1 = (before ++ [line]).map (prompt, ·) ∧
        codes outcome.2.1 = (before.filter (· ≠ "") ++ [line]).map Line.code ∧
        outcome.2.2 = (lines.drop (before.length + 1), reported.2) := by
  induction lines generalizing state done with
  | nil => simp [demanded, worked, reportAll] at faulty
  | cons line rest ih =>
    rw [show (line :: rest).length + 1 + spare = (rest.length + 1 + spare) + 1 by simp; omega]
    by_cases closing : ends line = true
    · rw [demanded_cons_of_ends closing] at faulty
      simp [reportAll] at faulty
    · have staying : ends line = false := by simpa using closing
      rw [worked_cons staying]
      by_cases empty : line = ""
      · subst empty
        rw [demanded_empty] at faulty ⊢
        obtain ⟨result, text, before, last, behind, split, present, count, read, ran, left⟩ :=
          ih state faulty
        rw [runLines_again around quiet prompt (respond_empty around quiet state)]
        exact ⟨result, by simp [text], "" :: before, last, behind, by simp [split], present,
          by simpa using count, by simp [read], by simp [ran], by simp [left]⟩
      · rw [demanded_cons empty staying, reportAll_cons] at faulty ⊢
        obtain ⟨events, responded, writing, written⟩ :=
          respond_call around showIdent quiet empty staying state
        generalize Report.of showIdent quiet (kindOf line) (call around line state).1 = found at *
        cases broken : found.fault with
        | some raised =>
          rw [if_pos (by simp [broken])] at faulty ⊢
          obtain ⟨rfl, rfl⟩ : done = [] ∧ found = ⟨text, some fault⟩ := by
            cases done with
            | nil => simpa using faulty
            | cons first others => simp at faulty
          rw [runLines_over around quiet prompt responded]
          refine ⟨rfl, by simp [written], [], line, worked rest, rfl, empty, rfl, ?_, ?_, rfl⟩
          · simp [reads_of_writing writing]
          · simp [codes_of_writing writing]
        | none =>
          rw [if_neg (by simp [broken])] at faulty ⊢
          simp only [Report.turn, broken] at responded
          rcases List.cons_eq_append_iff.1 faulty with ⟨_, alone⟩ | ⟨others, rfl, later⟩
          · have same : found = ⟨text, some fault⟩ := (List.cons.inj alone).1.symm
            simp [same] at broken
          · obtain ⟨result, texts, before, last, behind, split, present, count, read, ran, left⟩ :=
              ih (call around line state).2 later
            rw [runLines_again around quiet prompt responded]
            refine ⟨result, ?_, line :: before, last, behind, by simp [split], present, ?_, ?_, ?_,
              by simp [left]⟩
            · simp [texts, written, String.join_cons]
            · simpa [empty] using count
            · simp [read, reads_of_writing writing]
            · simp [ran, codes_of_writing writing, empty]

/-- Reports that hold a fault end with it. -/
theorem reportAll_of_fault {lines : List String} {fault : Fault}
    (found : (reportAll around showIdent quiet lines state).1.findSome? Report.fault = some fault) :
    ∃ done text, (reportAll around showIdent quiet lines state).1 = done ++ [⟨text, some fault⟩] := by
  induction lines generalizing state with
  | nil => simp [reportAll] at found
  | cons line rest ih =>
    rw [reportAll_cons] at found ⊢
    generalize Report.of showIdent quiet (kindOf line) (call around line state).1 = first at *
    cases broken : first.fault with
    | some raised =>
      rw [if_pos (by simp [broken])] at found ⊢
      simp only [List.findSome?_cons, broken, Option.some.injEq] at found
      exact ⟨[], first.text, by rw [← found, ← broken]; rfl⟩
    | none =>
      rw [if_neg (by simp [broken])] at found ⊢
      simp only [List.findSome?_cons, broken] at found
      obtain ⟨done, text, later⟩ := ih found
      exact ⟨first :: done, text, by simp [later]⟩

/-- A run without a path under watch, over any lines and in any surroundings. Unless a call comes to a
fault, it ends as its first line that ends a loop says, having read the lines up to that one with the
prompt and run the code of each of them that calls for something, once and in order; it has written
what the reports say, and the farewell. If a call does come to a fault, that fault is the result, and
what was read, run and written stops with that call. -/
theorem run_follows_protocol (spare : Nat) (lines : List String) (state : State) :
    let outcome := run (around.readingFrom nextLine) ⟨prompt, quiet, none⟩
      (lines.length + 1 + spare) (lines, state)
    let reported := reportAll around showIdent quiet (demanded lines) state
    match reported.1.findSome? Report.fault with
    | none =>
      outcome.1 = .ok (endingOf (parting lines)) ∧
        reads outcome.2.1 = (worked lines ++ [parting lines]).map (prompt, ·) ∧
        codes outcome.2.1 = (demanded lines).map Line.code ∧
        textOf showIdent outcome.2.1 =
          String.join (reported.1.map Report.text) ++ farewell quiet (parting lines) ∧
        outcome.2.2 = (lines.drop ((worked lines).length + 1), reported.2)
    | some fault =>
      outcome.1 = .error fault ∧
        textOf showIdent outcome.2.1 = String.join (reported.1.map Report.text) ∧
        ∃ before line behind, worked lines = before ++ line :: behind ∧ line ≠ "" ∧
          (before.filter (· ≠ "")).length + 1 = reported.1.length ∧
          reads outcome.2.1 = (before ++ [line]).map (prompt, ·) ∧
          codes outcome.2.1 = (before.filter (· ≠ "") ++ [line]).map Line.code ∧
          outcome.2.2 = (lines.drop (before.length + 1), reported.2) := by
  intro outcome reported
  split
  · rename_i fine
    rw [List.findSome?_eq_none_iff] at fine
    exact runLines_of_no_fault around showIdent quiet prompt spare lines state fine
  · rename_i fault found
    obtain ⟨done, text, faulty⟩ := reportAll_of_fault around showIdent quiet found
    obtain ⟨result, texts, before, line, behind, split, present, count, rest⟩ :=
      runLines_of_fault around showIdent quiet prompt spare lines state faulty
    have length : reported.1.length = done.length + 1 := by simp [reported, faulty]
    exact ⟨result, texts, before, line, behind, split, present, by omega, rest⟩

/-- Surroundings in which all code gives an integer with one digit more than can be written. -/
def lavish : Surroundings Unit where
  read _ state := (.ok exitWord, state)
  announce _ _ state := state
  execute _ state := (.ok ⟨"", .scalar (.ofInt (Limit.pastDigits : Nat))⟩, state)
  changed _ state := (false, state)

/-- An integer with too many digits has no dump. -/
theorem lines?_of_tooLong {value : Int} (long : Limit.pastDigits ≤ value.natAbs) :
    Dump.lines? (.scalar (.ofInt value)) = .error Limit.tooManyDigits := by
  have obstacle : (Value.ofInt value).scalarObstacle? = some Limit.tooManyDigits := by
    rw [Value.ofInt, Value.scalarObstacle?, Value.isTooLong, if_pos (decide_eq_true long)]
  have surveyed : Dump.survey .empty (Dump.greatestDepth + 1) (Value.ofInt value) [] =
      .error Limit.tooManyDigits := by
    rw [Value.ofInt, Dump.survey, ← Value.ofInt, obstacle]
    intro identity same
    cases same
  rw [Dump.lines?, Graph.scalar, surveyed]
  rfl

/-- Code that raises nothing can still end a run in a fault: its value is to be shown, and cannot be
written. -/
theorem run_stops_at_unwritable_value :
    (∀ code, (lavish.execute code ()).1 =
        .ok ⟨"", .scalar (.ofInt (Limit.pastDigits : Nat))⟩) ∧
      parting ["x"] = exitWord ∧
      run (lavish.readingFrom nextLine) ⟨"py> ", false, none⟩ 2 (["x"], ()) =
        (.error Limit.tooManyDigits, [.read "py> " "x", .ran "return x;"], [], ()) := by
  refine ⟨fun code => rfl, by decide, ?_⟩
  have kind : kindOf "x" = .expression := by decide
  have code : Line.code "x" = "return x;" := by decide
  have shown : Dump.lines? (.scalar (.ofInt (Limit.pastDigits : Nat))) = .error Limit.tooManyDigits :=
    lines?_of_tooLong (Nat.le_of_eq (Int.natAbs_natCast Limit.pastDigits).symm)
  have called : (call lavish "x" ()).1 = .ok ⟨"", .scalar (.ofInt (Limit.pastDigits : Nat))⟩ := rfl
  have responded : respond lavish false "x" () =
      (.over (.error Limit.tooManyDigits), [.ran "return x;"], ()) := by
    rw [respond, if_neg (by decide), if_neg (by decide), if_neg (by decide), evaluate_eq, kind, code,
      called]
    simp only [account, shownEvents, shown]
    rfl
  exact runLines_over lavish false "py> " responded

end LiveConsole.Loop
