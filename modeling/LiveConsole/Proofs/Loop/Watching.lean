import LiveConsole.Proofs.Loop.Round

/-!
# Runs under a watch

A watch is looked at once a round, before a line is read. Whatever happens to the files meanwhile, a run
under a watch does what the same run without one does, up to the first round that begins with the watched
path changed; there it ends and asks for a restart. So a change that comes while a line is read or run
never keeps that line from being run, and is acted on before the next one is read.
-/
namespace LiveConsole.Loop

/-- Where the files are in a state of the surroundings: anything that is read or run may change them. -/
structure Files (State : Type) where
  /-- The file tree. -/
  tree : State → FileTree
  /-- The working directory. -/
  directory : State → Location

variable {State : Type} (around : Surroundings State) (files : Files State)

/-- Whether the path under watch has changed in a state. -/
def Files.differ (watch : Watch) (state : State) : Bool :=
  watch.hasChanged (files.tree state) (files.directory state)

/-- The same surroundings, where a look at a path under watch is a look into the files; every watch looked
at is written down. -/
def Surroundings.lookingInto : Surroundings (State × List Watch) where
  read prompt both := ((around.read prompt both.1).1, (around.read prompt both.1).2, both.2)
  announce kind line both := (around.announce kind line both.1, both.2)
  execute code both := ((around.execute code both.1).1, (around.execute code both.1).2, both.2)
  changed watch both := (files.differ watch both.1, both.1, both.2 ++ [watch])

/-- The state in which a round begins, counted from zero, and what was done before it; nothing when the
loop is over by then. -/
def begins (manner : Manner) : Nat → State → Option (List Event × State)
  | 0, state => some ([], state)
  | round + 1, state =>
    match turn around manner state with
    | (.over _, _, _) => none
    | (.again, events, state) =>
      (begins manner round state).map fun begun => (events ++ begun.1, begun.2)

/-- Whether the path under watch has changed when a round begins. -/
def changedAt (manner : Manner) (watch : Watch) (state : State) (round : Nat) : Bool :=
  (begins around manner round state).any fun begun => files.differ watch begun.2

/-- The first round, among so many, that begins with the path under watch changed. -/
def firstChange (manner : Manner) (watch : Watch) (rounds : Nat) (state : State) : Option Nat :=
  (List.range rounds).find? (changedAt around files manner watch state)

/-! ## What rounds do to a run -/

section Rounds

variable {around files} {manner : Manner} {watch : Watch} {state after : State} {events : List Event}
variable {round rounds : Nat} {done : List Event}

/-- A round that lets the loop go on has read one line. -/
theorem reads_of_again (again : turn around manner state = (.again, events, after)) :
    (reads events).length = 1 := by
  rw [turn_eq] at again
  rcases looked : look around manner.watch state with ⟨_ | watch, seen⟩
  · rcases found : around.read manner.prompt seen with ⟨fault | line, reached⟩
    · simp only [looked, found] at again
      cases again
    · simp only [looked, found, Prod.mk.injEq] at again
      obtain ⟨_, rfl, _⟩ := again
      rw [reads_read, reads_respond, List.length_singleton]
  · simp only [looked] at again
    cases again

/-- Behind a round that ends the loop no round begins. -/
theorem begins_of_over {result : Except Fault Ending}
    (ended : turn around manner state = (.over result, events, after)) :
    begins around manner (round + 1) state = none := by
  rw [begins, ended]

/-- Behind a round that lets the loop go on, rounds begin as they do from there. -/
theorem begins_of_again (again : turn around manner state = (.again, events, after)) :
    begins around manner (round + 1) state =
      (begins around manner round after).map fun begun => (events ++ begun.1, begun.2) := by
  rw [begins, again]

/-- As many lines are read before a round as there are rounds before it. -/
theorem reads_of_begins (begun : begins around manner round state = some (done, after)) :
    (reads done).length = round := by
  induction round generalizing state done with
  | zero =>
    cases begun
    rfl
  | succ round ih =>
    rcases outcome : turn around manner state with ⟨again | result, events, next⟩
    · rw [begins_of_again outcome] at begun
      obtain ⟨⟨later, reached⟩, found, same⟩ := Option.map_eq_some_iff.1 begun
      cases same
      rw [reads_append, List.length_append, reads_of_again outcome, ih found, Nat.add_comm]
    · rw [begins_of_over outcome] at begun
      cases begun

/-- The path under watch has changed when the first round begins if it has changed in the first state. -/
theorem changedAt_zero : changedAt around files manner watch state 0 = files.differ watch state := by
  rw [changedAt, begins, Option.any_some]

/-- Behind a round that lets the loop go on, changes are met as they are from there. -/
theorem changedAt_of_again (again : turn around manner state = (.again, events, after)) :
    changedAt around files manner watch state (round + 1) =
      changedAt around files manner watch after round := by
  rw [changedAt, begins_of_again again, changedAt]
  cases begins around manner round after <;> rfl

/-- A change that is there at once is met by the first round. -/
theorem firstChange_of_changed (changed : files.differ watch state = true) :
    firstChange around files manner watch (rounds + 1) state = some 0 := by
  rw [firstChange, List.range_succ_eq_map, List.find?_cons, changedAt_zero, changed]

/-- Behind a round that ends the loop no change is met. -/
theorem firstChange_of_over (unchanged : files.differ watch state = false)
    {result : Except Fault Ending} (ended : turn around manner state = (.over result, events, after)) :
    firstChange around files manner watch (rounds + 1) state = none := by
  rw [firstChange, List.range_succ_eq_map, List.find?_cons, changedAt_zero, unchanged,
    List.find?_map, Option.map_eq_none_iff, List.find?_eq_none]
  intro round _
  rw [Function.comp_apply, changedAt, Nat.succ_eq_add_one, begins_of_over ended]
  simp

/-- Behind a round that lets the loop go on, the first change is met as it is from there. -/
theorem firstChange_of_again (unchanged : files.differ watch state = false)
    (again : turn around manner state = (.again, events, after)) :
    firstChange around files manner watch (rounds + 1) state =
      (firstChange around files manner watch rounds after).map Nat.succ := by
  have shifted : changedAt around files manner watch state ∘ Nat.succ =
      changedAt around files manner watch after := by
    funext round
    exact changedAt_of_again again
  rw [firstChange, List.range_succ_eq_map, List.find?_cons, changedAt_zero, unchanged,
    List.find?_map, shifted, firstChange]

end Rounds

/-! ## Runs with and without a watch -/

variable (prompt : String) (quiet : Bool) (watch : Watch)

/-- Under a watch, a path that has changed ends the loop before a line is read. -/
theorem turn_of_changed {state : State} (changed : files.differ watch state = true)
    (looks : List Watch) :
    turn (around.lookingInto files) ⟨prompt, quiet, some watch⟩ (state, looks) =
      (.over (.ok .restart), statusEvents quiet (changeDetected watch.path), state,
        looks ++ [watch]) := by
  simp [turn_eq, look, Surroundings.lookingInto, changed]

/-- Under a watch, a path that has not changed makes no difference to a round. -/
theorem turn_of_unchanged {state : State} (unchanged : files.differ watch state = false)
    (looks : List Watch) :
    turn (around.lookingInto files) ⟨prompt, quiet, some watch⟩ (state, looks) =
      ((turn around ⟨prompt, quiet, none⟩ state).1, (turn around ⟨prompt, quiet, none⟩ state).2.1,
        (turn around ⟨prompt, quiet, none⟩ state).2.2, looks ++ [watch]) := by
  have looked : look (around.lookingInto files) (some watch) (state, looks) =
      (none, state, looks ++ [watch]) := by
    simp [look, Surroundings.lookingInto, unchanged]
  have responded (line : String) (state : State) :=
    respond_of_call around (around.lookingInto files) (·, looks ++ [watch]) (fun _ _ => rfl)
      quiet line state
  rw [turn_eq, turn_eq, looked]
  simp only [look]
  rcases found : around.read prompt state with ⟨fault | line, reached⟩
  · have read : (around.lookingInto files).read prompt (state, looks ++ [watch]) =
        (.error fault, reached, looks ++ [watch]) := by
      simp only [Surroundings.lookingInto, found]
    simp only [read]
  · have read : (around.lookingInto files).read prompt (state, looks ++ [watch]) =
        (.ok line, reached, looks ++ [watch]) := by
      simp only [Surroundings.lookingInto, found]
    simp only [read, responded]

/-- Runs under a watch and without one, with any watches looked at before. -/
theorem run_lookingInto (rounds : Nat) (state : State) (looks : List Watch) :
    let plain := run around ⟨prompt, quiet, none⟩ rounds state
    let watched := run (around.lookingInto files) ⟨prompt, quiet, some watch⟩ rounds (state, looks)
    match firstChange around files ⟨prompt, quiet, none⟩ watch rounds state with
    | none =>
      ∃ count, watched = (plain.1, plain.2.1, plain.2.2, looks ++ List.replicate count watch)
    | some round =>
      ∃ done reached, begins around ⟨prompt, quiet, none⟩ round state = some (done, reached) ∧
        done <+: plain.2.1 ∧
        watched = (.ok .restart, done ++ statusEvents quiet (changeDetected watch.path), reached,
          looks ++ List.replicate (round + 1) watch) := by
  induction rounds generalizing state looks with
  | zero => exact ⟨0, by simp [run]⟩
  | succ rounds ih =>
    dsimp only
    by_cases changed : files.differ watch state = true
    · rw [firstChange_of_changed changed]
      refine ⟨[], state, rfl, List.nil_prefix, ?_⟩
      simp [run, turn_of_changed around files prompt quiet watch changed]
    · have unchanged : files.differ watch state = false := by simpa using changed
      have round := turn_of_unchanged around files prompt quiet watch unchanged looks
      rcases outcome : turn around ⟨prompt, quiet, none⟩ state with ⟨again | result, events, after⟩
      · have rest := ih after (looks ++ [watch])
        dsimp only at rest
        rw [firstChange_of_again unchanged outcome]
        cases found : firstChange around files ⟨prompt, quiet, none⟩ watch rounds after with
        | none =>
          rw [found] at rest
          obtain ⟨count, same⟩ := rest
          refine ⟨count + 1, ?_⟩
          simp only [run, round, outcome]
          rw [same, List.replicate_succ, List.append_assoc, List.singleton_append]
        | some later =>
          rw [found] at rest
          obtain ⟨done, reached, begun, first, same⟩ := rest
          refine ⟨events ++ done, reached, ?_, ?_, ?_⟩
          · rw [Nat.succ_eq_add_one, begins_of_again outcome, begun, Option.map_some]
          · simpa only [run, outcome, List.prefix_append_right_inj] using first
          · have once : List.replicate (later.succ + 1) watch =
                [watch] ++ List.replicate (later + 1) watch := rfl
            simp only [run, round, outcome]
            rw [same, once, List.append_assoc, List.append_assoc]
      · rw [firstChange_of_over unchanged outcome]
        refine ⟨1, ?_⟩
        simp [run, round, outcome]

/-- A run under a watch does what the run without one does, up to the first round that begins with the
path changed; when there is none the runs are the same. That round, before which as many lines were read
as there were rounds, ends the run with a restart: it reads nothing, and it writes nothing but the
status line. All looks are at the watch that the run was given. -/
theorem watched_run_is_prefix (rounds : Nat) (state : State) :
    let plain := run around ⟨prompt, quiet, none⟩ rounds state
    let watched := run (around.lookingInto files) ⟨prompt, quiet, some watch⟩ rounds (state, [])
    match firstChange around files ⟨prompt, quiet, none⟩ watch rounds state with
    | none => ∃ looks, watched = (plain.1, plain.2.1, plain.2.2, List.replicate looks watch)
    | some round =>
      ∃ done reached, begins around ⟨prompt, quiet, none⟩ round state = some (done, reached) ∧
        (reads done).length = round ∧ done <+: plain.2.1 ∧
        watched = (.ok .restart, done ++ statusEvents quiet (changeDetected watch.path), reached,
          List.replicate (round + 1) watch) := by
  intro plain watched
  have runs := run_lookingInto around files prompt quiet watch rounds state []
  split
  · rename_i same
    rw [same] at runs
    obtain ⟨count, runs⟩ := runs
    exact ⟨count, runs⟩
  · rename_i round found
    rw [found] at runs
    obtain ⟨done, reached, begun, first, runs⟩ := runs
    exact ⟨done, reached, begun, reads_of_begins begun, first, runs⟩

end LiveConsole.Loop
