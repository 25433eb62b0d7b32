import LiveConsole.Proofs.Console.Course
import LiveConsole.Proofs.Loop.Protocol

/-!
# Restarts in the same process

A console whose process is never replaced answers each line that asks for a restart with a new read loop,
which goes on with the lines behind that one. Evaluated code cannot tell: without the lines that ask for
restarts it would have been run just the same, in one read loop, and only the status lines of the
restarts would be missing from what was written.
-/
namespace LiveConsole.Console

open Loop (exitWord restartWord isWord nextLine respond runLines statusEvents restarting codes textOf
  codes_append codes_flatMap codes_read textOf_nil textOf_cons textOf_append textOf_flatMap textOf_read
  not_exit_of_restart respond_exit respond_restart asks_of_respond)

/-! ## Lines without restarts -/

/-- The lines that are left when those that ask for a restart are taken out, up to the first line that
leaves the console. -/
def withoutRestarts (lines : List String) : List String :=
  (lines.takeWhile fun line => !isWord exitWord line).filter (fun line => !isWord restartWord line) ++
    lines.dropWhile fun line => !isWord exitWord line

/-- How many lines ask for a restart. -/
def restartCount (lines : List String) : Nat := lines.countP (isWord restartWord)

section Lines

variable {line : String} {rest : List String}

/-- A line that leaves the console stays, and so do the lines behind it. -/
theorem withoutRestarts_of_exit (leaves : isWord exitWord line = true) :
    withoutRestarts (line :: rest) = line :: rest := by
  simp [withoutRestarts, leaves]

/-- A line that asks for a restart is taken out. -/
theorem withoutRestarts_of_restart (asks : isWord restartWord line = true) :
    withoutRestarts (line :: rest) = withoutRestarts rest := by
  simp [withoutRestarts, asks, not_exit_of_restart asks]

/-- Any other line stays in front of what is left of the lines behind it. -/
theorem withoutRestarts_of_other (stays : isWord exitWord line = false)
    (goesOn : isWord restartWord line = false) :
    withoutRestarts (line :: rest) = line :: withoutRestarts rest := by
  simp [withoutRestarts, stays, goesOn]

end Lines

/-! ## What becomes of lines -/

/-- What became of the lines given to a console: what its read loops did, and what it all came to. -/
structure Progress (Memory : Type) where
  /-- What was done before the first restart. -/
  first : List Loop.Event
  /-- The lines that asked for a restart, each with what was done behind it. -/
  later : List (String × List Loop.Event)
  /-- What the console came to. -/
  result : Except Fault Nat
  /-- What evaluated code left behind. -/
  memory : Memory

namespace Progress

variable {Memory : Type}

/-- What was done, restarts and all. -/
def whole (prompt : String) (quiet : Bool) (progress : Progress Memory) : List Loop.Event :=
  progress.first ++ progress.later.flatMap fun sitting =>
    .read prompt sitting.1 :: statusEvents quiet restarting ++ sitting.2

/-- What was done apart from the restarts. -/
def bare (progress : Progress Memory) : List Loop.Event :=
  progress.first ++ progress.later.flatMap Prod.snd

/-- Put something that was done before in front. -/
def behind (events : List Loop.Event) (progress : Progress Memory) : Progress Memory :=
  { progress with first := events ++ progress.first }

/-- Put a line that asked for a restart in front. -/
def restartedBy (line : String) (progress : Progress Memory) : Progress Memory :=
  { progress with first := [], later := (line, progress.first) :: progress.later }

/-- The restarts run no code. -/
theorem codes_whole (progress : Progress Memory) (prompt : String) (quiet : Bool) :
    codes (progress.whole prompt quiet) = codes progress.bare := by
  have status := Loop.codes_of_writing (Loop.statusEvents_writing quiet restarting)
  rw [whole, bare, codes_append, codes_append, codes_flatMap, codes_flatMap]
  simp only [List.cons_append, codes_read, codes_append, status, List.nil_append]

/-- The text written for a restart in the same process. -/
def restartText (quiet : Bool) : String := if quiet then "" else restarting ++ "\n"

variable (showIdent : Ident → String)

/-- The status line of a restart is all that is written for it. -/
theorem textOf_restart (quiet : Bool) :
    textOf showIdent (statusEvents quiet restarting) = restartText quiet := by
  cases quiet with
  | true => rfl
  | false => rw [statusEvents, if_neg (by decide), textOf_cons, textOf_nil, String.append_empty]; rfl

/-- The text with restarts has that of a restart in front of what was written behind each one. -/
theorem textOf_whole (progress : Progress Memory) (prompt : String) (quiet : Bool) :
    textOf showIdent (progress.whole prompt quiet) =
      textOf showIdent progress.first ++ String.join (progress.later.map fun sitting =>
        restartText quiet ++ textOf showIdent sitting.2) := by
  rw [whole, textOf_append, textOf_flatMap]
  simp only [List.cons_append, textOf_read, textOf_append, textOf_restart]

/-- The text without restarts is what was written between them. -/
theorem textOf_bare (progress : Progress Memory) :
    textOf showIdent progress.bare =
      textOf showIdent progress.first ++ String.join (progress.later.map fun sitting =>
        textOf showIdent sitting.2) := by
  rw [bare, textOf_append, textOf_flatMap]

end Progress

section Progress

variable {Memory : Type} (evaluation : Loop.Surroundings Memory) (prompt : String) (quiet : Bool)

/-- Work off lines: a line that asks for a restart makes the rest go on in a new read loop, and the end of
the lines leaves the console. -/
def progress : List String → Memory → Progress Memory
  | [], memory => ⟨[.read prompt exitWord], [], .ok Ending.left.code, memory⟩
  | line :: rest, memory =>
    if isWord restartWord line then (progress rest memory).restartedBy line
    else
      match respond evaluation quiet line memory with
      | (.again, events, memory) => (progress rest memory).behind (.read prompt line :: events)
      | (.over result, events, memory) =>
        ⟨.read prompt line :: events, [], result.map Ending.code, memory⟩

variable {line : String} {rest : List String} {memory after : Memory} {events : List Loop.Event}
variable {result : Except Fault Ending}

/-- A line that asks for a restart leaves the rest to a new read loop. -/
theorem progress_restart (asks : isWord restartWord line = true) :
    progress evaluation prompt quiet (line :: rest) memory =
      (progress evaluation prompt quiet rest memory).restartedBy line := by
  rw [progress, if_pos asks]

/-- A line that lets the loop go on leaves the rest to the same one. -/
theorem progress_again (goesOn : isWord restartWord line = false)
    (again : respond evaluation quiet line memory = (.again, events, after)) :
    progress evaluation prompt quiet (line :: rest) memory =
      (progress evaluation prompt quiet rest after).behind (.read prompt line :: events) := by
  rw [progress, if_neg (by simp [goesOn]), again]

/-- A line that ends the loop otherwise is the last one. -/
theorem progress_over (goesOn : isWord restartWord line = false)
    (ended : respond evaluation quiet line memory = (.over result, events, after)) :
    progress evaluation prompt quiet (line :: rest) memory =
      ⟨.read prompt line :: events, [], result.map Ending.code, after⟩ := by
  rw [progress, if_neg (by simp [goesOn]), ended]

/-- Only lines that ask for a restart are counted as restarts. -/
theorem asks_of_mem_later (lines : List String) (memory : Memory) :
    ∀ sitting ∈ (progress evaluation prompt quiet lines memory).later,
      isWord restartWord sitting.1 = true := by
  fun_induction progress evaluation prompt quiet lines memory with
  | case1 memory => simp
  | case2 line rest memory asks ih =>
    intro sitting member
    rcases List.mem_cons.1 member with rfl | later
    · exact asks
    · exact ih sitting later
  | case3 line rest memory asks events after again ih => exact ih
  | case4 line rest memory asks result events after ended => simp

/-- There are at most as many restarts as lines that ask for one. -/
theorem length_later_le (lines : List String) (memory : Memory) :
    (progress evaluation prompt quiet lines memory).later.length ≤ restartCount lines := by
  fun_induction progress evaluation prompt quiet lines memory with
  | case1 memory => exact Nat.zero_le _
  | case2 line rest memory asks ih =>
    rw [restartCount, List.countP_cons_of_pos asks]
    exact Nat.succ_le_succ ih
  | case3 line rest memory asks events after again ih =>
    rw [restartCount, List.countP_cons_of_neg asks]
    exact ih
  | case4 line rest memory asks result events after ended => exact Nat.zero_le _

/-- Without the lines that ask for restarts, the same is done apart from the restarts, and it comes to the
same. -/
theorem progress_withoutRestarts (lines : List String) (memory : Memory) :
    let taken := progress evaluation prompt quiet lines memory
    progress evaluation prompt quiet (withoutRestarts lines) memory =
      ⟨taken.bare, [], taken.result, taken.memory⟩ := by
  induction lines generalizing memory with
  | nil => rfl
  | cons line rest ih =>
    intro taken
    by_cases asks : isWord restartWord line = true
    · have same : taken = (progress evaluation prompt quiet rest memory).restartedBy line :=
        progress_restart evaluation prompt quiet asks
      rw [withoutRestarts_of_restart asks, ih, same]
      rfl
    · have goesOn : isWord restartWord line = false := by simpa using asks
      rcases responded : respond evaluation quiet line memory with ⟨again | result, events, after⟩
      · have stays : isWord exitWord line = false := by
          cases leaves : isWord exitWord line with
          | false => rfl
          | true =>
            rw [respond_exit evaluation quiet leaves] at responded
            cases responded
        have same : taken =
            (progress evaluation prompt quiet rest after).behind (.read prompt line :: events) :=
          progress_again evaluation prompt quiet goesOn responded
        rw [withoutRestarts_of_other stays goesOn, same,
          progress_again evaluation prompt quiet goesOn responded, ih]
        simp only [Progress.behind, Progress.bare, List.append_assoc]
      · have same : taken = ⟨.read prompt line :: events, [], result.map Ending.code, after⟩ :=
          progress_over evaluation prompt quiet goesOn responded
        obtain ⟨others, left⟩ : ∃ others, withoutRestarts (line :: rest) = line :: others := by
          by_cases leaves : isWord exitWord line = true
          · exact ⟨rest, withoutRestarts_of_exit leaves⟩
          · exact ⟨_, withoutRestarts_of_other (by simpa using leaves) goesOn⟩
        rw [left, same, progress_over evaluation prompt quiet goesOn responded]
        simp [Progress.bare]

end Progress

/-! ## Consoles given their lines one after another -/

/-- What a console works on that is given its lines one after another. -/
structure Feed (Memory : Type) where
  /-- The lines that are left. -/
  lines : List String
  /-- What the read loops did so far. -/
  past : List Loop.Event
  /-- What evaluated code works on, its namespaces among it. -/
  memory : Memory

section Feed

variable {Executor Memory : Type}

/-- What a read loop needs around it to be given lines one after another. -/
def Feed.around (evaluation : Loop.Surroundings Memory) : Loop.Surroundings (Feed Memory) where
  read prompt feed :=
    ((nextLine prompt feed.lines).1, { feed with lines := (nextLine prompt feed.lines).2 })
  announce kind line feed := { feed with memory := evaluation.announce kind line feed.memory }
  execute code feed :=
    ((evaluation.execute code feed.memory).1,
      { feed with memory := (evaluation.execute code feed.memory).2 })
  changed watch feed :=
    ((evaluation.changed watch feed.memory).1,
      { feed with memory := (evaluation.changed watch feed.memory).2 })

/-- The read loops of a console that is given its lines one after another and whose process is never
replaced: an executor runs code as its evaluation says, and a loop may go round once for each line, once
more at their end, and some more times. -/
def feeding (evaluation : Executor → Loop.Surroundings Memory) (interpreter : String)
    (program : List String) (idle : Nat) : Parts Unit Executor (Feed Memory) where
  interpreter _ := interpreter
  program _ := program
  replace _ feed := (.ok (), feed)
  reader feed := (.ok (), feed)
  watch _ feed := (.error .unfinished, feed)
  around executor _ := Feed.around (evaluation executor)
  rounds feed := feed.lines.length + 1 + idle
  finish _ events feed := { feed with past := feed.past ++ events }

/-- A read loop that is given its lines one after another does what it does over those lines alone. -/
theorem run_feed (evaluation : Loop.Surroundings Memory) (prompt : String) (quiet : Bool) (rounds : Nat)
    (feed : Feed Memory) :
    Loop.run (Feed.around evaluation) ⟨prompt, quiet, none⟩ rounds feed =
      let ran := runLines evaluation quiet prompt rounds feed.lines feed.memory
      (ran.1, ran.2.1, ⟨ran.2.2.1, feed.past, ran.2.2.2⟩) := by
  have hosts : (evaluation.readingFrom nextLine).Hosts (Feed.around evaluation)
      (fun both => ⟨both.1, feed.past, both.2⟩) := by
    constructor <;> intros <;> rfl
  exact Loop.run_of_hosts hosts _ rounds (feed.lines, feed.memory)

variable (evaluation : Executor → Loop.Surroundings Memory) (interpreter : String)
variable (program : List String) (idle : Nat) (options : Options) (executor : Executor)

/-- The options without a path to watch. -/
def unwatched (options : Options) : Options := { options with watch := none }

/-- What a console does that is given its lines one after another and watches no path. -/
abbrev runFeed (loops : Nat) (feed : Feed Memory) :
    Except Fault Nat × List (Event Executor) × Feed Memory :=
  run (feeding evaluation interpreter program idle).surroundings (unwatched options) executor loops feed

/-- The command line of a restart of such a console. -/
def feedCommand (interpreter : String) (program : List String) (options : Options) : List String :=
  Options.restartCommand interpreter program (unwatched options)

section Lines

variable {loops : Nat} {line : String} {rest left : List String} {past events : List Loop.Event}
variable {memory after : Memory} {result : Except Fault Ending} {feed : Feed Memory}

/-- A read loop of such a console gets going, and does what it does over the lines that are left. -/
theorem runs_feed
    (ran : runLines (evaluation executor) options.quiet options.prompt (feed.lines.length + 1 + idle)
      feed.lines feed.memory = (result, events, left, after)) :
    Runs (feeding evaluation interpreter program idle).surroundings (unwatched options) executor feed
      (result.map Ending.code) ⟨left, feed.past ++ events, after⟩ := by
  refine .unwatched rfl rfl ?_
  simp only [feeding, Parts.surroundings, unwatched, run_feed, ran]

/-- A loop may go round once more where there is one more line. -/
theorem rounds_cons (line : String) (rest : List String) (idle : Nat) :
    (line :: rest).length + 1 + idle = rest.length + 1 + idle + 1 := by
  rw [List.length_cons]
  omega

/-- A line that ends the loop is the last one that the read loop does something with. -/
theorem runs_feed_over
    (ended : respond (evaluation executor) options.quiet line memory = (.over result, events, after)) :
    Runs (feeding evaluation interpreter program idle).surroundings (unwatched options) executor
      ⟨line :: rest, past, memory⟩ (result.map Ending.code)
      ⟨rest, past ++ .read options.prompt line :: events, after⟩ := by
  apply runs_feed
  rw [rounds_cons]
  exact Loop.runLines_over _ _ _ ended

variable {evaluation interpreter program idle options executor}

/-- Behind the last line the console is left. -/
theorem runFeed_nil :
    runFeed evaluation interpreter program idle options executor (loops + 1) ⟨[], past, memory⟩ =
      (.ok Ending.left.code, opening (unwatched options) executor,
        ⟨[], past ++ [.read options.prompt exitWord], memory⟩) := by
  have ran : runLines (evaluation executor) options.quiet options.prompt
      (([] : List String).length + 1 + idle) [] memory =
        (.ok .left, [.read options.prompt exitWord], [], memory) := by
    rw [List.length_nil, Nat.zero_add, Nat.add_comm]
    exact Loop.runLines_nil _ _ _
  have runs : Runs (feeding evaluation interpreter program idle).surroundings (unwatched options)
      executor ⟨[], past, memory⟩ (.ok Ending.left.code)
        ⟨[], past ++ [.read options.prompt exitWord], memory⟩ := by
    change Runs _ _ _ _ (Except.map Ending.code (.ok .left)) _
    exact runs_feed evaluation interpreter program idle options executor ran
  exact run_of_ends (.ended runs nofun) loops

/-- Behind a line that lets the loop go on, the console goes on with the lines behind that one. -/
theorem runFeed_again
    (again : respond (evaluation executor) options.quiet line memory = (.again, events, after)) :
    runFeed evaluation interpreter program idle options executor (loops + 1)
        ⟨line :: rest, past, memory⟩ =
      runFeed evaluation interpreter program idle options executor (loops + 1)
        ⟨rest, past ++ .read options.prompt line :: events, after⟩ := by
  rcases later : runLines (evaluation executor) options.quiet options.prompt (rest.length + 1 + idle)
    rest after with ⟨outcome, more, left, reached⟩
  have ran : runLines (evaluation executor) options.quiet options.prompt
      ((line :: rest).length + 1 + idle) (line :: rest) memory =
        (outcome, .read options.prompt line :: events ++ more, left, reached) := by
    rw [rounds_cons, Loop.runLines_again _ _ _ again, later]
  have one : runLoop (feeding evaluation interpreter program idle).surroundings (unwatched options)
      executor ⟨line :: rest, past, memory⟩ = (outcome.map Ending.code,
        opening (unwatched options) executor,
        ⟨left, past ++ (.read options.prompt line :: events ++ more), reached⟩) :=
    runLoop_of_runs (runs_feed evaluation interpreter program idle options executor ran)
  have other : runLoop (feeding evaluation interpreter program idle).surroundings (unwatched options)
      executor ⟨rest, past ++ .read options.prompt line :: events, after⟩ = (outcome.map Ending.code,
        opening (unwatched options) executor,
        ⟨left, past ++ .read options.prompt line :: events ++ more, reached⟩) :=
    runLoop_of_runs (runs_feed evaluation interpreter program idle options executor later)
  rw [List.append_assoc] at other
  simp only [run, one, other]

/-- A line that asks for a restart is followed by an attempt to replace the process and a new read loop. -/
theorem runFeed_restart (asks : isWord restartWord line = true) :
    runFeed evaluation interpreter program idle options executor (loops + 1)
        ⟨line :: rest, past, memory⟩ =
      let later := runFeed evaluation interpreter program idle options executor loops
        ⟨rest, past ++ .read options.prompt line :: statusEvents options.quiet restarting, memory⟩
      (later.1,
        restartEvents (unwatched options) executor (feedCommand interpreter program options) ++ later.2.1,
        later.2.2) := by
  have runs : Runs (feeding evaluation interpreter program idle).surroundings (unwatched options)
      executor ⟨line :: rest, past, memory⟩ (.ok Ending.restart.code)
        ⟨rest, past ++ .read options.prompt line :: statusEvents options.quiet restarting, memory⟩ :=
    runs_feed_over evaluation interpreter program idle options executor
      (respond_restart (evaluation executor) options.quiet asks memory)
  have restarts := run_of_restarts (.next runs rfl .none) loops
  rw [List.length_singleton, Nat.add_comm, List.flatMap_singleton] at restarts
  exact restarts

/-- A line that ends the loop otherwise ends the console. -/
theorem runFeed_over (goesOn : isWord restartWord line = false)
    (ended : respond (evaluation executor) options.quiet line memory = (.over result, events, after)) :
    runFeed evaluation interpreter program idle options executor (loops + 1)
        ⟨line :: rest, past, memory⟩ =
      (result.map Ending.code, opening (unwatched options) executor,
        ⟨rest, past ++ .read options.prompt line :: events, after⟩) := by
  have final : result.map Ending.code ≠ .ok Ending.restart.code := by
    intro asks
    rw [asks_of_respond (evaluation executor) options.quiet (restart_of_code asks ▸ ended)] at goesOn
    cases goesOn
  exact run_of_ends
    (.ended (runs_feed_over evaluation interpreter program idle options executor ended) final) loops

end Lines

/-- A console that is given its lines one after another does what becomes of them, with one attempt to
replace the process for each restart. -/
theorem runFeed_progress (spare : Nat) (lines : List String) (past : List Loop.Event)
    (memory : Memory) :
    let taken := progress (evaluation executor) options.prompt options.quiet lines memory
    ∃ left, runFeed evaluation interpreter program idle options executor
        (taken.later.length + spare + 1) ⟨lines, past, memory⟩ =
      (taken.result,
        (List.replicate taken.later.length (feedCommand interpreter program options)).flatMap
            (restartEvents (unwatched options) executor) ++ opening (unwatched options) executor,
        ⟨left, past ++ taken.whole options.prompt options.quiet, taken.memory⟩) := by
  fun_induction progress (evaluation executor) options.prompt options.quiet lines memory
      generalizing past with
  | case1 memory =>
    refine ⟨[], ?_⟩
    rw [runFeed_nil]
    simp [Progress.whole]
  | case2 line rest memory asks ih =>
    obtain ⟨left, ran⟩ := ih (past ++ .read options.prompt line :: statusEvents options.quiet restarting)
    refine ⟨left, ?_⟩
    rw [Progress.restartedBy, List.length_cons, Nat.add_right_comm _ 1, runFeed_restart asks, ran]
    simp [Progress.whole, List.replicate_succ]
  | case3 line rest memory asks events after again ih =>
    obtain ⟨left, ran⟩ := ih (past ++ .read options.prompt line :: events)
    refine ⟨left, ?_⟩
    simp only [Progress.behind]
    rw [runFeed_again again, ran]
    simp [Progress.whole]
  | case4 line rest memory asks result events after ended =>
    refine ⟨rest, ?_⟩
    rw [runFeed_over (by simpa using asks) ended]
    simp [Progress.whole]

end Feed

end LiveConsole.Console
