import LiveConsole.Proofs.Loop.Protocol
import LiveConsole.Proofs.Reader

/-!
# Read loops over physical lines

A read loop whose lines are put together from the results of runs takes these results group by group, one
group a line, and does with the lines what it does when it is given them one after another. It comes to
an end by itself: a group that nothing could be read for leaves the loop, and so at most two results
beyond the ones to come are asked for.
-/
namespace LiveConsole.Loop

open Reader (Feed IsGroup lineOf callsOf fromFeed readLine_group)

/-- Read a line from a feed, with so many runs allowed for it. -/
def fromGroups (history shell : String) (runs : Nat) (prompt : String) (feed : Feed) :
    Except Fault String × Feed :=
  let (line, feed) := Reader.readLine (fromFeed history shell) prompt runs feed
  (Reader.orUnfinished line, feed)

/-- Whether a loop comes to its end by itself within so many rounds. -/
def finishes {State : Type} (around : Surroundings State) (manner : Manner) : Nat → State → Bool
  | 0, _ => false
  | rounds + 1, state =>
    match turn around manner state with
    | (.over _, _, _) => true
    | (.again, _, state) => finishes around manner rounds state

/-- What can follow the results to come: a failed run that ends a line begun before, and one that leaves
the loop. -/
def behind (results : List (Option String)) : List (Option String) :=
  if results.isEmpty then [none] else [none, none]

/-- A loop that comes to its end does not need any more rounds. -/
theorem run_of_finishes {State : Type} (around : Surroundings State) (manner : Manner) {rounds : Nat}
    {state : State} (done : finishes around manner rounds state = true) (spare : Nat) :
    run around manner (rounds + spare) state = run around manner rounds state := by
  induction rounds generalizing state with
  | zero => cases done
  | succ rounds ih =>
    rw [show rounds + 1 + spare = (rounds + spare) + 1 by omega]
    rcases outcome : turn around manner state with ⟨again | result, events, after⟩
    · simp only [finishes, outcome] at done
      simp only [run, outcome, ih done]
    · simp only [run, outcome]

/-! ## Groups and what is left -/

/-- A group takes one result at most behind those to come, and that can follow them. -/
theorem prefix_behind_of_group {results group : List (Option String)}
    (first : group <+: results ++ [none]) : group <+: results ++ behind results := by
  have one : [none] <+: behind results := by
    unfold behind
    split
    · exact List.prefix_rfl
    · exact ⟨[none], rfl⟩
  exact first.trans ((List.prefix_append_right_inj results).2 one)

/-- A group that stands in front of the results to come is followed by groups that stand in front of what
it leaves. -/
theorem flatten_prefix_of_group {results group : List (Option String)}
    {groups : List (List (Option String))} (present : results ≠ [])
    (first : group <+: results ++ [none])
    (others : groups.flatten <+: results.drop group.length ++ behind (results.drop group.length)) :
    (group :: groups).flatten <+: results ++ behind results := by
  have two : behind results = [none, none] := by simp [behind, present]
  rw [List.flatten_cons, two]
  rcases List.prefix_concat_iff.1 first with whole | inside
  · have nothing : results.drop group.length = [] := by simp [whole]
    rw [nothing] at others
    rw [whole, show ([none, none] : List (Option String)) = [none] ++ [none] from rfl,
      ← List.append_assoc, List.prefix_append_right_inj]
    exact others
  · obtain ⟨rest, rfl⟩ := inside
    rw [List.append_assoc, List.prefix_append_right_inj]
    rw [List.drop_left] at others
    refine others.trans ((List.prefix_append_right_inj rest).2 ?_)
    unfold behind
    split
    · exact ⟨[none], rfl⟩
    · exact List.prefix_rfl

/-- A line that does not leave the loop was read from a result that was still to come. -/
theorem ne_nil_of_lineOf {results group : List (Option String)} (complete : IsGroup group)
    (first : group <+: results ++ [none]) (staying : lineOf group ≠ exitWord) : results ≠ [] := by
  rintro rfl
  rcases List.prefix_concat_iff.1 first with whole | inside
  · subst whole
    exact staying rfl
  · have nothing : group = [] := List.prefix_nil.1 inside
    have positive := complete.length_pos
    rw [nothing] at positive
    cases positive

/-- There are as many calls for groups as the groups have results. -/
theorem length_flatMap_callsOf (history shell prompt : String)
    {groups : List (List (Option String))} (complete : ∀ group ∈ groups, IsGroup group) :
    (groups.flatMap (callsOf history shell prompt)).length = groups.flatten.length := by
  induction groups with
  | nil => rfl
  | cons group groups ih =>
    rw [List.flatMap_cons, List.flatten_cons, List.length_append, List.length_append,
      Reader.length_callsOf history shell prompt (complete group List.mem_cons_self),
      ih fun other member => complete other (List.mem_cons_of_mem _ member)]

/-! ## Runs -/

variable {State : Type} (around : Surroundings State) (history shell : String)

/-- A response that lets the loop go on is not one to the word that leaves it. -/
theorem ne_exitWord_of_again {quiet : Bool} {line : String} {state after : State}
    {events : List Event} (again : respond around quiet line state = (.again, events, after)) :
    line ≠ exitWord := by
  rintro rfl
  rw [respond, if_neg (by decide), if_pos (by decide)] at again
  cases again

/-- A round that finds the path under watch unchanged takes one group off the feed, and does with its
line what a round does that is given that line. -/
theorem turn_fromGroups (manner : Manner) {runs : Nat} (results : List (Option String))
    (calls : List (List String)) {state seen : State}
    (unchanged : look around manner.watch state = (none, seen)) (enoughRuns : results.length < runs) :
    ∃ group, IsGroup group ∧ group <+: results ++ [none] ∧
      (let response := respond around manner.quiet (lineOf group) seen
      turn (around.readingFrom (fromGroups history shell runs)) manner (⟨results, calls⟩, state) =
        (response.1, .read manner.prompt (lineOf group) :: response.2.1,
          ⟨results.drop group.length, calls ++ callsOf history shell manner.prompt group⟩,
          response.2.2) ∧
      ∀ rest, turn (around.readingFrom nextLine) manner (lineOf group :: rest, state) =
        (response.1, .read manner.prompt (lineOf group) :: response.2.1, rest, response.2.2)) := by
  obtain ⟨group, complete, first, read⟩ :=
    readLine_group history shell manner.prompt ⟨results, calls⟩ enoughRuns
  have given : fromGroups history shell runs manner.prompt ⟨results, calls⟩ =
      (.ok (lineOf group), ⟨results.drop group.length,
        calls ++ callsOf history shell manner.prompt group⟩) := by
    rw [fromGroups, read]
    rfl
  refine ⟨group, complete, first, ?_, fun rest => ?_⟩
  · rw [turn_readingFrom, unchanged]
    simp only [given]
  · rw [turn_readingFrom, unchanged]
    rfl

/-- Runs over any feed, with any calls made before. -/
theorem run_fromGroups (manner : Manner) (runs : Nat) {rounds : Nat} (results : List (Option String))
    (calls : List (List String)) (state : State) (enoughRuns : results.length < runs)
    (enough : results.length < rounds) :
    ∃ (groups : List (List (Option String))) (result : Except Fault Ending) (events : List Event)
        (reached : State),
      (∀ group ∈ groups, IsGroup group) ∧
      groups.flatten <+: results ++ behind results ∧
      reads events = groups.map (fun group => (manner.prompt, lineOf group)) ∧
      finishes (around.readingFrom (fromGroups history shell runs)) manner rounds
        (⟨results, calls⟩, state) = true ∧
      run (around.readingFrom (fromGroups history shell runs)) manner rounds
        (⟨results, calls⟩, state) =
          (result, events, ⟨results.drop groups.flatten.length,
            calls ++ groups.flatMap (callsOf history shell manner.prompt)⟩, reached) ∧
      run (around.readingFrom nextLine) manner rounds (groups.map lineOf, state) =
        (result, events, [], reached) := by
  induction rounds generalizing results calls state with
  | zero => omega
  | succ rounds ih =>
    rcases looked : look around manner.watch state with ⟨_ | watch, seen⟩
    · obtain ⟨group, complete, first, feeds, lines⟩ :=
        turn_fromGroups around history shell manner results calls looked enoughRuns
      have response := reads_respond around manner.quiet (lineOf group) seen
      rcases responded : respond around manner.quiet (lineOf group) seen with
        ⟨again | result, events, after⟩
      all_goals rw [responded] at feeds lines response
      · have staying := ne_exitWord_of_again around responded
        have present : results ≠ [] := ne_nil_of_lineOf complete first staying
        have positive := complete.length_pos
        have shorter : (results.drop group.length).length < results.length := by
          rw [List.length_drop]
          have some := List.length_pos_iff.2 present
          omega
        obtain ⟨groups, result, more, reached, sound, inFront, readMore, finished, ran, direct⟩ :=
          ih (results.drop group.length) (calls ++ callsOf history shell manner.prompt group) after
            (by omega) (by omega)
        refine ⟨group :: groups, result, .read manner.prompt (lineOf group) :: events ++ more,
          reached, List.forall_mem_cons.2 ⟨complete, sound⟩,
          flatten_prefix_of_group present first inFront, ?_, ?_, ?_, ?_⟩
        · simp [response, readMore]
        · simp only [finishes, feeds, finished]
        · simp only [run, feeds, ran]
          simp
        · simp only [List.map_cons, run, lines, direct]
      · refine ⟨[group], result, .read manner.prompt (lineOf group) :: events, after,
          List.forall_mem_singleton.2 complete, ?_, ?_, ?_, ?_, ?_⟩
        · rw [List.flatten_singleton]
          exact prefix_behind_of_group first
        · simp [response]
        · simp only [finishes, feeds]
        · simp [run, feeds]
        · simp only [List.map_cons, List.map_nil, run, lines]
    · have feeds := turn_readingFrom around (fromGroups history shell runs) manner
        ⟨results, calls⟩ state
      have lines := turn_readingFrom around nextLine manner [] state
      simp only [looked] at feeds lines
      refine ⟨[], .ok .restart, statusEvents manner.quiet (changeDetected watch.path), seen, by simp,
        by simp, reads_of_writing (statusEvents_writing _ _), ?_, ?_, ?_⟩
      · simp only [finishes, feeds]
      · simp [run, feeds]
      · simp only [List.map_nil, run, lines]

/-- A read loop over any results of runs, behind which every run fails. The results that it takes are
groups in their order, one for each line that it reads; the first call for a group is made with the
prompt of the loop and the others with that of a line that goes on. The loop does what it does when it
is given the lines of the groups one after another, and it comes to its end by itself after at most two
more calls than there are results. -/
theorem run_reads_groups (manner : Manner) (spareRuns spare : Nat) (results : List (Option String))
    (state : State) :
    let read := fromGroups history shell (results.length + 1 + spareRuns)
    let outcome := run (around.readingFrom read) manner (results.length + 1 + spare)
      (⟨results, []⟩, state)
    finishes (around.readingFrom read) manner (results.length + 1) (⟨results, []⟩, state) = true ∧
      outcome.2.2.1.calls.length ≤ results.length + 2 ∧
      ∃ groups : List (List (Option String)), (∀ group ∈ groups, IsGroup group) ∧
        groups.flatten <+: results ++ behind results ∧
        reads outcome.2.1 = groups.map (fun group => (manner.prompt, lineOf group)) ∧
        outcome.2.2.1 = ⟨results.drop groups.flatten.length,
          groups.flatMap (callsOf history shell manner.prompt)⟩ ∧
        run (around.readingFrom nextLine) manner (results.length + 1 + spare)
            (groups.map lineOf, state) = (outcome.1, outcome.2.1, [], outcome.2.2.2) ∧
        ∀ group ∈ groups, lineOf group = exitWord ↔
          group.head?.all Reader.isBlank = true ∨
            String.ofList (group.flatMap Reader.piece) = exitWord := by
  intro read outcome
  obtain ⟨_, _, _, _, _, _, _, finished, _⟩ := run_fromGroups around history shell manner
    (results.length + 1 + spareRuns) results [] state (by omega) (Nat.lt_succ_self results.length)
  obtain ⟨groups, result, events, reached, complete, inFront, wereRead, _, ran, direct⟩ :=
    run_fromGroups around history shell manner (results.length + 1 + spareRuns) results [] state
      (by omega) (by omega : results.length < results.length + 1 + spare)
  have same : outcome = (result, events, ⟨results.drop groups.flatten.length,
      groups.flatMap (callsOf history shell manner.prompt)⟩, reached) := ran
  have bound : groups.flatten.length ≤ results.length + 2 := by
    have most := inFront.length_le
    rw [List.length_append] at most
    have two : (behind results).length ≤ 2 := by
      unfold behind
      split <;> simp
    omega
  refine ⟨finished, ?_, groups, complete, inFront, ?_, ?_, ?_, ?_⟩
  · rw [same]
    dsimp only
    rw [length_flatMap_callsOf history shell manner.prompt complete]
    exact bound
  · rw [same]
    exact wereRead
  · rw [same]
  · rw [same]
    exact direct
  · intro group _
    exact Reader.lineOf_eq_exitWord group

end LiveConsole.Loop
