import LiveConsole.Proofs.Loop.Protocol
import LiveConsole.Proofs.Loop.Watching

/-!
# Quiet runs

A quiet loop leaves out the values and the status lines that it would show, and nothing else: it reads the
same lines, runs the same code and writes the same captured output as one that is not quiet. The two part
where a value cannot be written down. A loop that is not quiet ends there, in the fault of writing it; a
quiet one has nothing to write and goes on.
-/
namespace LiveConsole.Loop

/-! ## What is shown -/

/-- Whether an event is something shown, a value or a status line. -/
def Event.isDisplay : Event → Bool
  | shown _ | status _ => true
  | read .. | ran _ | output _ => false

/-- Events without the values and the status lines among them. -/
def withoutDisplay (events : List Event) : List Event := events.filter fun event => !event.isDisplay

/-- What is not shown before is followed by what is not shown later. -/
@[simp] theorem withoutDisplay_append (before after : List Event) :
    withoutDisplay (before ++ after) = withoutDisplay before ++ withoutDisplay after :=
  List.filter_append before after

/-- A line that is read is nothing shown. -/
@[simp] theorem withoutDisplay_read (prompt line : String) (events : List Event) :
    withoutDisplay (.read prompt line :: events) = .read prompt line :: withoutDisplay events := rfl

/-- Code that is run is nothing shown. -/
@[simp] theorem withoutDisplay_ran (code : String) (events : List Event) :
    withoutDisplay (.ran code :: events) = .ran code :: withoutDisplay events := rfl

/-- Captured output is nothing shown. -/
@[simp] theorem withoutDisplay_output (output : String) :
    withoutDisplay (outputEvents output) = outputEvents output := by
  unfold outputEvents
  split <;> rfl

/-- Lines are read all the same. -/
theorem reads_withoutDisplay (events : List Event) : reads (withoutDisplay events) = reads events := by
  induction events with
  | nil => rfl
  | cons event events ih => cases event <;> simpa [withoutDisplay, Event.isDisplay, reads] using ih

/-- Code is run all the same. -/
theorem codes_withoutDisplay (events : List Event) : codes (withoutDisplay events) = codes events := by
  induction events with
  | nil => rfl
  | cons event events ih => cases event <;> simpa [withoutDisplay, Event.isDisplay, codes] using ih

/-- Without what is shown, a status line is no event, quiet or not. -/
theorem withoutDisplay_status (quiet : Bool) (message : String) :
    withoutDisplay (statusEvents quiet message) = statusEvents true message := by
  cases quiet <;> rfl

/-! ## Obstacles -/

/-- The fault of writing down what a call came to, where that is to be shown and cannot be written. -/
def obstacleOf (kind : Line.Kind) (outcome : Except Fault Program.Execution) : Option Fault :=
  match kind, outcome with
  | .expression, .ok execution =>
    match Dump.lines? execution.value with
    | .ok _ => none
    | .error fault => some fault
  | _, _ => none

variable {State : Type} (around : Surroundings State)

/-- The fault of writing down what came of a line. -/
def lineObstacle (line : String) (state : State) : Option Fault :=
  if line = "" ∨ ends line then none else obstacleOf (kindOf line) (call around line state).1

/-- The fault of writing down what comes of the line that a round reads. -/
def roundObstacle (prompt : String) (watch : Option Watch) (state : State) : Option Fault :=
  match look around watch state with
  | (some _, _) => none
  | (none, state) =>
    match around.read prompt state with
    | (.error _, _) => none
    | (.ok line, state) => lineObstacle around line state

/-- The first round of a quiet run, among so many, that comes to something that cannot be written down,
with the fault of writing it. -/
def firstObstacle (prompt : String) (watch : Option Watch) : Nat → State → Option (Nat × Fault)
  | 0, _ => none
  | rounds + 1, state =>
    match roundObstacle around prompt watch state with
    | some fault => some (0, fault)
    | none =>
      match turn around ⟨prompt, true, watch⟩ state with
      | (.over _, _, _) => none
      | (.again, _, state) =>
        (firstObstacle prompt watch rounds state).map fun found => (found.1 + 1, found.2)

/-! ## Quiet calls, lines and rounds -/

/-- Where the value of a call can be written down, quiet and loud loops go on alike, and the quiet one does
what the loud one does without showing anything. -/
theorem account_quiet_of_writable {kind : Line.Kind} {outcome : Except Fault Program.Execution}
    (writable : obstacleOf kind outcome = none) :
    account true kind outcome =
      ((account false kind outcome).1, withoutDisplay (account false kind outcome).2) := by
  cases outcome with
  | error fault => rfl
  | ok execution =>
    cases kind with
    | statement => simp [account]
    | expression =>
      cases shown : Dump.lines? execution.value with
      | error fault => simp [obstacleOf, shown] at writable
      | ok dump =>
        have hidden : withoutDisplay [Event.shown dump] = [] := rfl
        simp [account, shownEvents, shown, Except.map, hidden]

/-- Where the value of a call cannot be written down, the loud loop ends in the fault of that; the quiet one
goes on. Both write the output of the call. -/
theorem account_quiet_of_obstacle {kind : Line.Kind} {outcome : Except Fault Program.Execution}
    {fault : Fault} (obstacle : obstacleOf kind outcome = some fault) :
    (account false kind outcome).1 = .over (.error fault) ∧
      account true kind outcome = (.again, withoutDisplay (account false kind outcome).2) := by
  cases outcome with
  | error fault => cases kind <;> cases obstacle
  | ok execution =>
    cases kind with
    | statement => cases obstacle
    | expression =>
      cases shown : Dump.lines? execution.value with
      | ok dump => simp [obstacleOf, shown] at obstacle
      | error found =>
        have same : found = fault := by simpa [obstacleOf, shown] using obstacle
        simp [account, shownEvents, shown, Except.map, same]

/-- A quiet loop responds to a line as a loud one does without showing anything, unless what comes of the
line cannot be written down. -/
theorem respond_quiet_of_writable {line : String} {state : State}
    (writable : lineObstacle around line state = none) :
    respond around true line state =
      ((respond around false line state).1, withoutDisplay (respond around false line state).2.1,
        (respond around false line state).2.2) := by
  unfold respond
  unfold lineObstacle ends at writable
  by_cases empty : line = ""
  · simp [empty, withoutDisplay]
  · by_cases leaves : isWord exitWord line = true
    · simp [empty, leaves, withoutDisplay]
    · by_cases asks : isWord restartWord line = true
      · simp [empty, leaves, asks, withoutDisplay_status]
      · rw [if_neg (by simp [empty, leaves, asks])] at writable
        simp only [if_neg empty, if_neg leaves, if_neg asks, evaluate_eq,
          account_quiet_of_writable writable, withoutDisplay_ran]

/-- At a line of which something comes that cannot be written down, a loud loop ends and a quiet one goes
on. -/
theorem respond_quiet_of_obstacle {line : String} {state : State} {fault : Fault}
    (obstacle : lineObstacle around line state = some fault) :
    (respond around false line state).1 = .over (.error fault) ∧
      respond around true line state =
        (.again, withoutDisplay (respond around false line state).2.1,
          (respond around false line state).2.2) := by
  unfold lineObstacle at obstacle
  split at obstacle
  · cases obstacle
  · rename_i called
    simp only [ends, Bool.or_eq_true, not_or] at called
    obtain ⟨present, leaves, asks⟩ := called
    obtain ⟨ended, quietly⟩ := account_quiet_of_obstacle obstacle
    simp only [respond, if_neg present, if_neg leaves, if_neg asks, evaluate_eq, quietly,
      withoutDisplay_ran]
    exact ⟨ended, trivial⟩

variable (prompt : String) (watch : Option Watch)

/-- A round of a quiet loop is one of a loud loop without anything shown, unless the round comes to something
that cannot be written down. -/
theorem turn_quiet_of_writable {state : State}
    (writable : roundObstacle around prompt watch state = none) :
    turn around ⟨prompt, true, watch⟩ state =
      ((turn around ⟨prompt, false, watch⟩ state).1,
        withoutDisplay (turn around ⟨prompt, false, watch⟩ state).2.1,
        (turn around ⟨prompt, false, watch⟩ state).2.2) := by
  rw [turn_eq, turn_eq]
  unfold roundObstacle at writable
  rcases looked : look around watch state with ⟨_ | found, seen⟩
  · simp only [looked] at writable ⊢
    rcases read : around.read prompt seen with ⟨fault | line, reached⟩
    · rfl
    · simp only [read] at writable ⊢
      rw [respond_quiet_of_writable around writable, withoutDisplay_read]
  · simp only [withoutDisplay_status]

/-- In a round that comes to something that cannot be written down, a loud loop ends and a quiet one goes
on. -/
theorem turn_quiet_of_obstacle {state : State} {fault : Fault}
    (obstacle : roundObstacle around prompt watch state = some fault) :
    (turn around ⟨prompt, false, watch⟩ state).1 = .over (.error fault) ∧
      turn around ⟨prompt, true, watch⟩ state =
        (.again, withoutDisplay (turn around ⟨prompt, false, watch⟩ state).2.1,
          (turn around ⟨prompt, false, watch⟩ state).2.2) := by
  rw [turn_eq, turn_eq]
  unfold roundObstacle at obstacle
  rcases looked : look around watch state with ⟨_ | found, seen⟩
  · simp only [looked] at obstacle ⊢
    rcases read : around.read prompt seen with ⟨failure | line, reached⟩
    · simp only [read] at obstacle
      cases obstacle
    · simp only [read] at obstacle ⊢
      obtain ⟨ended, quietly⟩ := respond_quiet_of_obstacle around obstacle
      rw [quietly, withoutDisplay_read]
      exact ⟨ended, rfl⟩
  · simp only [looked] at obstacle
    cases obstacle

/-! ## Quiet runs -/

/-- Runs that are quiet and runs that are not, round by round. -/
theorem run_quiet (rounds : Nat) (state : State) :
    let loud := run around ⟨prompt, false, watch⟩ rounds state
    let quiet := run around ⟨prompt, true, watch⟩ rounds state
    match firstObstacle around prompt watch rounds state with
    | none => quiet = (loud.1, withoutDisplay loud.2.1, loud.2.2)
    | some (round, fault) =>
      loud.1 = .error fault ∧
        begins around ⟨prompt, true, watch⟩ (round + 1) state =
          some (withoutDisplay loud.2.1, loud.2.2) ∧
        withoutDisplay loud.2.1 <+: quiet.2.1 := by
  induction rounds generalizing state with
  | zero => rfl
  | succ rounds ih =>
    dsimp only
    cases obstacle : roundObstacle around prompt watch state with
    | some fault =>
      obtain ⟨ended, quietly⟩ := turn_quiet_of_obstacle around prompt watch obstacle
      simp only [firstObstacle, obstacle]
      rcases loudly : turn around ⟨prompt, false, watch⟩ state with ⟨turned, events, after⟩
      rw [loudly] at ended quietly
      simp only at ended quietly
      refine ⟨?_, ?_, ?_⟩
      · simp only [run, loudly, ended]
      · simp only [run, loudly, ended, begins, quietly, Option.map_some, List.append_nil]
      · simp only [run, loudly, ended, quietly]
        exact List.prefix_append _ _
    | none =>
      have quietly := turn_quiet_of_writable around prompt watch obstacle
      simp only [firstObstacle, obstacle]
      rcases loudly : turn around ⟨prompt, false, watch⟩ state with ⟨again | result, events, after⟩
      · rw [loudly] at quietly
        simp only at quietly
        have rest := ih after
        dsimp only at rest
        cases found : firstObstacle around prompt watch rounds after with
        | none =>
          rw [found] at rest
          simp only at rest
          simp only [quietly, run, loudly, found, Option.map_none, rest, withoutDisplay_append]
        | some first =>
          rw [found] at rest
          obtain ⟨ended, begun, before⟩ := rest
          simp only [quietly, run, loudly, found, Option.map_some, withoutDisplay_append]
          refine ⟨ended, ?_, ?_⟩
          · rw [begins_of_again quietly, begun, Option.map_some]
          · exact (List.prefix_append_right_inj _).2 before
      · rw [loudly] at quietly
        simp only at quietly
        simp only [quietly, run, loudly]

/-- A quiet run and one that is not, in any surroundings, under a watch or without one. Where all that comes
of lines can be written down, the two read the same lines with the same prompts, run the same code, end
alike and leave the same behind, and the quiet one does what the loud one does but for the values and the
status lines that it shows. Else the loud one ends at the first line of which something comes that cannot be
written down, in the fault of that; up to there the quiet one has done the same, and it goes on. -/
theorem quiet_run_hides_display (rounds : Nat) (state : State) :
    let loud := run around ⟨prompt, false, watch⟩ rounds state
    let quiet := run around ⟨prompt, true, watch⟩ rounds state
    match firstObstacle around prompt watch rounds state with
    | none =>
      quiet.1 = loud.1 ∧ quiet.2.2 = loud.2.2 ∧ quiet.2.1 = withoutDisplay loud.2.1 ∧
        reads quiet.2.1 = reads loud.2.1 ∧ codes quiet.2.1 = codes loud.2.1
    | some (round, fault) =>
      loud.1 = .error fault ∧
        ∃ done, begins around ⟨prompt, true, watch⟩ (round + 1) state = some (done, loud.2.2) ∧
          done <+: quiet.2.1 ∧ done = withoutDisplay loud.2.1 ∧
          reads done = reads loud.2.1 ∧ codes done = codes loud.2.1 ∧
          (reads loud.2.1).length = round + 1 := by
  intro loud quiet
  have runs := run_quiet around prompt watch rounds state
  split
  · rename_i none
    rw [none] at runs
    have same : quiet = (loud.1, withoutDisplay loud.2.1, loud.2.2) := runs
    rw [same]
    exact ⟨rfl, rfl, rfl, reads_withoutDisplay _, codes_withoutDisplay _⟩
  · rename_i round fault found
    rw [found] at runs
    obtain ⟨ended, begun, before⟩ := runs
    refine ⟨ended, _, begun, before, rfl, reads_withoutDisplay _, codes_withoutDisplay _, ?_⟩
    rw [← reads_withoutDisplay]
    exact reads_of_begins begun

/-- Over a single line of which something comes that cannot be written down, a loud run ends with that line,
and a quiet one reads on. -/
theorem runLines_of_obstacle {line : String} {state : State} {fault : Fault}
    (obstacle : lineObstacle around line state = some fault) :
    let loud := runLines around false prompt 2 [line] state
    let quiet := runLines around true prompt 2 [line] state
    loud.1 = .error fault ∧ quiet.1 = .ok .left ∧
      reads loud.2.1 = [(prompt, line)] ∧ reads quiet.2.1 = [(prompt, line), (prompt, exitWord)] := by
  intro loud quiet
  obtain ⟨ended, quietly⟩ := respond_quiet_of_obstacle around obstacle
  have nothing := reads_respond around false line state
  rcases responded : respond around false line state with ⟨turned, events, after⟩
  rw [responded] at ended quietly nothing
  simp only at ended quietly nothing
  subst ended
  have loudly : loud = (.error fault, .read prompt line :: events, [], after) :=
    runLines_over around false prompt responded
  have again : quiet = (.ok .left, .read prompt line :: withoutDisplay events ++ [.read prompt exitWord],
      [], after) := by
    have first : runLines around true prompt (1 + 1) [line] state = _ :=
      runLines_again around true prompt quietly
    rwa [runLines_nil] at first
  rw [loudly, again]
  refine ⟨rfl, rfl, ?_, ?_⟩
  · rw [reads_read, nothing]
  · rw [List.cons_append, reads_read, reads_append, reads_withoutDisplay, nothing]
    rfl

/-- A quiet run goes on where one that is not quiet ends: at a value that is to be shown and cannot be
written. -/
theorem quiet_run_passes_unwritable_value :
    let loud := runLines lavish false "py> " 2 ["x"] ()
    let quiet := runLines lavish true "py> " 2 ["x"] ()
    loud.1 = .error Limit.tooManyDigits ∧ quiet.1 = .ok .left ∧
      reads loud.2.1 = [("py> ", "x")] ∧ reads quiet.2.1 = [("py> ", "x"), ("py> ", exitWord)] := by
  have unwritable : Dump.lines? (.scalar (.ofInt (Limit.pastDigits : Nat))) = .error Limit.tooManyDigits :=
    lines?_of_tooLong (Nat.le_of_eq (Int.natAbs_natCast Limit.pastDigits).symm)
  have obstacle : lineObstacle lavish "x" () = some Limit.tooManyDigits := by
    have kind : kindOf "x" = .expression := by decide
    rw [lineObstacle, if_neg (by decide), kind]
    simp only [obstacleOf, call, lavish, unwritable]
  exact runLines_of_obstacle lavish "py> " obstacle

end LiveConsole.Loop
