import LiveConsole.Proofs.Console.Watching

/-!
# The end of a console under a watch

A read loop under a watch ends with a word that asks for it, with a change that it finds, or with a fault of
the code that it ran or of the value that it is to show. A change that is found asks for a restart, and the
next read loop is to be pointed at the path again. So it is here that a path which is no longer there ends the
console: the change was found, but nothing can be pointed at the path.
-/
namespace LiveConsole.Console

open Loop (exitWord restartWord isWord respond)

variable {Executor Memory : Type} {shop : Workshop Executor Memory} {executor : Executor}
variable {prompt : String} {quiet : Bool} {watch : Watch} {desk after : Desk Memory}
variable {outcome : Except Fault Ending} {events : List Loop.Event}

/-! ## The end of a read loop -/

/-- Whether what came of running code is a fault for the read loop: the code raised it, or it stands in the way
of showing the value. -/
inductive Faulty (quiet : Bool) (kind : Line.Kind) : Except Fault Program.Execution → Fault → Prop
  /-- The code raised the fault. -/
  | raised {fault : Fault} : Faulty quiet kind (.error fault) fault
  /-- The value that is to be shown cannot be written. -/
  | unwritable {execution : Program.Execution} {fault : Fault} (asked : kind = .expression)
      (loud : quiet = false) (unwritable : Dump.lines? execution.value = .error fault) :
      Faulty quiet kind (.ok execution) fault

/-- Where a call ends the read loop, what came of it is a fault. -/
theorem faulty_of_account {kind : Line.Kind} {called : Except Fault Program.Execution}
    (ended : (Loop.account quiet kind called).1 = .over outcome) :
    ∃ fault, outcome = .error fault ∧ Faulty quiet kind called fault := by
  cases called with
  | error fault =>
    cases ended
    exact ⟨fault, rfl, .raised⟩
  | ok execution =>
    cases kind with
    | statement => cases ended
    | expression =>
      cases quiet with
      | true => cases ended
      | false =>
        cases written : Dump.lines? execution.value with
        | ok dump =>
          simp [Loop.account, Loop.shownEvents, written, Except.map] at ended
        | error fault =>
          simp only [Loop.account, Loop.shownEvents, written] at ended
          cases ended
          exact ⟨fault, rfl, .unwritable rfl rfl written⟩

/-- How a read loop under a watch comes to an outcome, told by what happened last. -/
inductive Closes (shop : Workshop Executor Memory) (executor : Executor) (quiet : Bool) :
    Except Fault Ending → Desk Memory → Prop
  /-- A line was read that asks to leave, or the word for it behind the last line. -/
  | left {desk : Desk Memory} {line : String} (asks : isWord exitWord line = true) :
      Closes shop executor quiet (.ok .left) (desk.note (.read line))
  /-- A line was read that asks for a restart. -/
  | asked {desk : Desk Memory} {line : String} (asks : isWord restartWord line = true) :
      Closes shop executor quiet (.ok .restart) (desk.note (.read line))
  /-- The path was found changed. -/
  | found {desk : Desk Memory} : Closes shop executor quiet (.ok .restart) (desk.note .found)
  /-- A line was read, and what came of its code is a fault. -/
  | faulty {desk : Desk Memory} {line : String} {called : Except Fault Program.Execution}
      {memory : Memory} {changes : List FileTree} {fault : Fault}
      (executed : shop.execute executor (Line.code line) desk.memory desk.tree = (called, memory, changes))
      (faulty : Faulty quiet (Loop.kindOf line) called fault) :
      Closes shop executor quiet (.error fault)
        (({ desk.note (.read line) with memory } : Desk Memory).pass changes)

/-- Whether nothing that happens in a read loop finds the path changed but the last thing, and that only where
the read loop asks for a restart. -/
structure FindsLast (outcome : Except Fault Ending) (happenings : List Happening) : Prop where
  /-- Only the last thing that happens may find the path changed. -/
  last : .found ∉ happenings.dropLast
  /-- Where the read loop asks for no restart, nothing does. -/
  only : outcome ≠ .ok .restart → .found ∉ happenings

/-- Nothing that happens finds the path changed only at the end. -/
theorem findsLast_of_not_mem {happenings : List Happening} (unfound : .found ∉ happenings) :
    FindsLast outcome happenings :=
  ⟨fun member => unfound (List.dropLast_subset happenings member), fun _ => unfound⟩

/-- What happens before may not find the path changed. -/
theorem FindsLast.append {before behind : List Happening} (unfound : .found ∉ before)
    (finds : FindsLast outcome behind) : FindsLast outcome (before ++ behind) := by
  refine ⟨?_, fun final => ?_⟩
  · cases behind with
    | nil => exact fun member => unfound (by simpa using List.dropLast_subset _ member)
    | cons first rest =>
      rw [List.dropLast_append_of_ne_nil (List.cons_ne_nil first rest), List.mem_append, not_or]
      exact ⟨unfound, finds.last⟩
  · rw [List.mem_append, not_or]
    exact ⟨unfound, finds.only final⟩

/-- What a round under a watch comes to: the read loop is over and ended as read loops do, or it goes on with
one line less, having found nothing. -/
inductive Rounds (shop : Workshop Executor Memory) (executor : Executor) (quiet : Bool)
    (desk : Desk Memory) : Loop.Turn → Desk Memory → Prop
  /-- The read loop is over. -/
  | ended {outcome : Except Fault Ending} {after : Desk Memory} {more : List Happening}
      (closes : Closes shop executor quiet outcome after) (trace : after.trace = desk.trace ++ more)
      (finds : FindsLast outcome more) : Rounds shop executor quiet desk (.over outcome) after
  /-- The read loop goes on. -/
  | again {after : Desk Memory} {more : List Happening}
      (taken : after.inputs.length + 1 = desk.inputs.length) (trace : after.trace = desk.trace ++ more)
      (unfound : .found ∉ more) : Rounds shop executor quiet desk .again after

/-- Changes and a line that is read find nothing. -/
theorem unfound_of_read (changes later : List FileTree) (line : String) :
    Happening.found ∉ changes.map .changed ++ [.read line] ++ later.map .changed := by
  simp

/-- What is done with a line that was read is what a round under a watch comes to. -/
theorem rounds_of_respond {reached : Desk Memory} {line : String} {changes : List FileTree}
    (trace : reached.trace = desk.trace ++ changes.map .changed)
    (staying : Loop.ends line = false → reached.inputs.length + 1 = desk.inputs.length) :
    Rounds shop executor quiet desk
      (respond (shop.around executor) quiet line (reached.note (.read line))).1
      (respond (shop.around executor) quiet line (reached.note (.read line))).2.2 := by
  have read : (reached.note (.read line)).trace = desk.trace ++ (changes.map .changed ++ [.read line]) := by
    rw [← List.append_assoc, ← trace]
    rfl
  have unfound : Happening.found ∉ changes.map .changed ++ [.read line] := by
    simp
  by_cases leaves : isWord exitWord line = true
  · rw [Loop.respond_exit _ _ leaves]
    exact .ended (.left leaves) read (findsLast_of_not_mem unfound)
  · by_cases asks : isWord restartWord line = true
    · rw [Loop.respond_restart _ _ asks]
      exact .ended (.asked asks) read (findsLast_of_not_mem unfound)
    · have goesOn : Loop.ends line = false := by simp [Loop.ends, leaves, asks]
      by_cases empty : line = ""
      · subst empty
        rw [Loop.respond_empty]
        exact .again (staying goesOn) read unfound
      · rw [respond, if_neg empty, if_neg leaves, if_neg asks, Loop.evaluate_eq]
        rcases executed : shop.execute executor (Line.code line) reached.memory reached.tree with
          ⟨called, memory, later⟩
        have call : Loop.call (shop.around executor) line (reached.note (.read line)) =
            (called, ({ reached.note (.read line) with memory } : Desk Memory).pass later) := by
          simp only [Loop.call, Workshop.around, Desk.note, executed]
        have passed : (({ reached.note (.read line) with memory } : Desk Memory).pass later).trace =
            desk.trace ++ (changes.map .changed ++ [.read line] ++ later.map .changed) := by
          rw [← List.append_assoc, ← read]
          rfl
        simp only [call]
        rcases turned : (Loop.account quiet (Loop.kindOf line) called).1 with again | outcome
        · exact .again (staying goesOn) passed (unfound_of_read changes later line)
        · obtain ⟨fault, rfl, faulty⟩ := faulty_of_account turned
          exact .ended (.faulty executed faulty) passed
            (findsLast_of_not_mem (unfound_of_read changes later line))

/-- What a round under a watch does. -/
theorem rounds_of_turn (shop : Workshop Executor Memory) (executor : Executor) (prompt : String)
    (quiet : Bool) (watch : Watch) (desk : Desk Memory) :
    Rounds shop executor quiet desk
      (Loop.turn (shop.around executor) ⟨prompt, quiet, some watch⟩ desk).1
      (Loop.turn (shop.around executor) ⟨prompt, quiet, some watch⟩ desk).2.2 := by
  by_cases changed : watch.hasChanged desk.tree (shop.directory desk.memory) = true
  · rw [turn_of_found executor prompt quiet changed]
    exact .ended .found rfl ⟨List.not_mem_nil, fun final => absurd rfl final⟩
  · rw [turn_of_unfound executor prompt quiet (by simpa using changed)]
    cases lines : desk.inputs with
    | nil =>
      have next : desk.next = (exitWord, desk.note (.read exitWord)) := by rw [Desk.next, lines]
      rw [next]
      dsimp only
      have nothing : desk.trace = desk.trace ++ ([] : List FileTree).map .changed := by simp
      exact rounds_of_respond nothing fun goesOn =>
        absurd goesOn (by decide : ¬Loop.ends exitWord = false)
    | cons input rest =>
      have next : desk.next = (input.line,
          (({ desk with inputs := rest } : Desk Memory).pass input.changes).note (.read input.line)) := by
        rw [Desk.next, lines]
      rw [next]
      dsimp only
      exact rounds_of_respond rfl fun _ => by simp [lines, Desk.pass]

/-- A read loop under a watch that may go round often enough ends as read loops do, and nothing that happens
finds the path changed but perhaps the last thing. -/
theorem closes_of_run {rounds : Nat} (enough : desk.inputs.length < rounds)
    (ran : Loop.run (shop.around executor) ⟨prompt, quiet, some watch⟩ rounds desk =
      (outcome, events, after)) :
    Closes shop executor quiet outcome after ∧
      ∃ more, after.trace = desk.trace ++ more ∧ FindsLast outcome more := by
  induction rounds generalizing desk events with
  | zero => exact absurd enough (Nat.not_lt_zero _)
  | succ rounds ih =>
    have step := rounds_of_turn shop executor prompt quiet watch desk
    rcases turned : Loop.turn (shop.around executor) ⟨prompt, quiet, some watch⟩ desk with
      ⟨turn, first, between⟩
    rw [turned] at step
    rw [Loop.run, turned] at ran
    cases step with
    | ended closes trace finds =>
      cases ran
      exact ⟨closes, _, trace, finds⟩
    | again taken trace unfound =>
      have fewer : between.inputs.length + 1 = desk.inputs.length := taken
      simp only at ran
      rcases later : Loop.run (shop.around executor) ⟨prompt, quiet, some watch⟩ rounds between with
        ⟨result, rest, last⟩
      rw [later] at ran
      cases ran
      obtain ⟨closes, more, traced, finds⟩ := ih (by omega) later
      refine ⟨closes, _ ++ more, ?_, finds.append unfound⟩
      rw [traced, trace, List.append_assoc]

/-! ## The end of a console -/

/-- Whether each change that is found is followed by pointing a read loop at the path, or is the last thing
that happens since that fails. -/
structure Answers (fails : Prop) (happenings : List Happening) : Prop where
  /-- What happens begins with pointing a read loop at the path, unless that fails. -/
  begins : (∃ rest, happenings = .armed :: rest) ∨ happenings = [] ∧ fails
  /-- Each change that is found is followed by that. -/
  answered : ∀ before behind, happenings = before ++ .found :: behind →
    (∃ rest, behind = .armed :: rest) ∨ behind = [] ∧ fails

/-- Where no read loop can be pointed at the path, there is nothing to be answered. -/
theorem answers_nil {fails : Prop} (holds : fails) : Answers fails [] :=
  ⟨.inr ⟨rfl, holds⟩, fun _ _ split => by simp at split⟩

/-- A read loop that asks for no restart leaves nothing to be answered. -/
theorem answers_of_final {fails : Prop} {more : List Happening} (finds : FindsLast outcome more)
    (final : outcome ≠ .ok .restart) : Answers fails (.armed :: more) := by
  refine ⟨.inl ⟨more, rfl⟩, fun before behind split => ?_⟩
  have member : Happening.found ∈ .armed :: more := by rw [split]; simp
  rcases List.mem_cons.1 member with same | inside
  · cases same
  · exact absurd inside (finds.only final)

/-- A read loop that asks for a restart is answered by what happens behind it. -/
theorem Answers.append {fails : Prop} {more later : List Happening} (finds : FindsLast outcome more)
    (answers : Answers fails later) : Answers fails (.armed :: more ++ later) := by
  refine ⟨.inl ⟨more ++ later, rfl⟩, fun before behind split => ?_⟩
  rcases List.append_eq_append_iff.1 split with ⟨middle, _, parted⟩ | ⟨middle, parted, rest⟩
  · exact answers.answered middle behind parted
  · cases middle with
    | nil => exact answers.answered [] behind rest.symm
    | cons head tail =>
      obtain ⟨rfl, _⟩ := List.cons.inj rest
      have joined : behind = tail ++ later := (List.cons.inj rest).2
      -- The change that is found is the last thing that happens in its read loop.
      have nothing : tail = [] := by
        by_contra some
        apply finds.last
        cases before with
        | nil => cases parted
        | cons first others =>
          have own : more = others ++ .found :: tail := (List.cons.inj parted).2
          rw [own, List.dropLast_append_of_ne_nil (List.cons_ne_nil _ _),
            List.dropLast_cons_of_ne_nil some]
          simp
      rw [joined, nothing, List.nil_append]
      exact answers.begins

/-- How a console that watches a path comes to its end. -/
inductive Parting (shop : Workshop Executor Memory) (executor : Executor) (quiet : Bool) (path : String) :
    Except Fault Nat → Desk Memory → Prop
  /-- A line asked to leave, or the lines have come to their end. -/
  | left {desk : Desk Memory} (closes : Closes shop executor quiet (.ok .left) desk) :
      Parting shop executor quiet path (.ok 0) desk
  /-- What came of the code of a line is a fault. -/
  | faulty {desk : Desk Memory} {fault : Fault} (closes : Closes shop executor quiet (.error fault) desk) :
      Parting shop executor quiet path (.error fault) desk
  /-- No read loop can be pointed at the path as the files are. -/
  | unarmed {desk : Desk Memory} {fault : Fault}
      (unarmed : Watch.arm (shop.environment desk.memory) desk.tree (shop.directory desk.memory) path =
        .error fault) :
      Parting shop executor quiet path (.error fault) desk

/-- Whether a console ended since no read loop could be pointed at the path. -/
def Unarmable (shop : Workshop Executor Memory) (path : String) (outcome : Except Fault Nat)
    (desk : Desk Memory) : Prop :=
  ∃ fault, outcome = .error fault ∧
    Watch.arm (shop.environment desk.memory) desk.tree (shop.directory desk.memory) path = .error fault

/-- A read loop that asks for no restart ends the console. -/
theorem Closes.parting {path : String} (closes : Closes shop executor quiet outcome after)
    (final : outcome ≠ .ok .restart) :
    Parting shop executor quiet path (outcome.map Ending.code) after := by
  cases closes with
  | left asks => exact .left (.left asks)
  | asked _ | found => exact absurd rfl final
  | faulty executed faulty => exact .faulty (.faulty executed faulty)

variable (shop executor) (interpreter : String) (program : List String) {options : Options} {path : String}

/-- A console that watches a path finishes, and comes to its end in one of the ways there are. -/
theorem exists_parting (watched : options.watch = some path) (desk : Desk Memory) :
    ∃ final outcome done more restarts,
      Finishes shop interpreter program options executor desk final outcome done more restarts ∧
        Parting shop executor options.quiet path outcome final ∧
        Answers (Unarmable shop path outcome final) more := by
  induction size : desk.inputs.length using Nat.strongRecOn generalizing desk with
  | ind count ih =>
    cases armed : Watch.arm (shop.environment desk.memory) desk.tree (shop.directory desk.memory)
        path with
    | error fault =>
      exact ⟨_, _, _, _, _, finishes_of_unarmed watched armed, .unarmed armed,
        answers_nil ⟨fault, rfl, armed⟩⟩
    | ok watch =>
      have steady : Steady watch [] (desk.note .armed).tree := fun _ => Watch.unchanged_of_arm armed
      obtain ⟨outcome, events, after, more, ran, sits⟩ : Settles shop executor
          ⟨options.prompt, options.quiet, some watch⟩ [] (desk.note .armed) :=
        settles_of_steady .nothing steady
      have runs (idle : Nat) : Runs (shop.parts interpreter program idle).surroundings options executor
          desk (outcome.map Ending.code) after := runs_of_settles watched armed idle (ran idle)
      obtain ⟨closes, same, trace, finds⟩ := closes_of_run (by omega) (ran 0)
      cases List.append_cancel_left (trace.symm.trans sits.trace)
      by_cases asks : outcome = .ok .restart
      · subst asks
        have fewer : after.inputs.length < count := size ▸ sits.fewer
        obtain ⟨final, result, done, later, restarts, finishes, parting, answers⟩ := ih _ fewer after rfl
        exact ⟨_, _, _, _, _, finishes_of_restart runs sits finishes, parting, answers.append finds⟩
      · exact ⟨_, _, _, _, _, finishes_of_over runs sits asks, closes.parting asks,
          answers_of_final finds asks⟩

/-- Two lines: the file is removed while the first one is read. -/
def goneLines : List Input := [⟨"pass", [{ entries := [([], .directory 0)] }]⟩, ⟨"pass", []⟩]

/-- What a console does with these lines. -/
def goneRun : Except Fault Nat × List (Event Unit) × Desk Unit :=
  runShop idleShop "python3" ["shell.py"] agingOptions () 0 3
    ⟨goneLines, (), fileTree 2000000000, []⟩

end LiveConsole.Console
