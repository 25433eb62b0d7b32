import LiveConsole.Proofs.Console.Course
import LiveConsole.Proofs.Console.Happening
import LiveConsole.Proofs.FileTree.Reach
import LiveConsole.Proofs.FileTree.Real
import LiveConsole.Proofs.FileTree.Time
import LiveConsole.Proofs.Loop.Protocol
import LiveConsole.Proofs.Options.Build

/-!
# Restarts under a watch

A console that watches a path points every new read loop at it, and a read loop that was just pointed at a
path finds it unchanged. So a restart for a change comes only after the files have changed since then:
there are no more of them than changes. The lines and changes that a console is given bound its read loops,
and it comes to its end by itself.
-/
namespace LiveConsole

/-! ## Watches on files that do not change -/

/-- The canonical form of a path is that of a location. -/
theorem Watch.exists_location_of_resolve {environment : Environment} {tree : FileTree}
    {directory : Location} {text : String} {path : PurePath}
    (resolved : Watch.resolve environment tree directory text = .ok path) :
    ∃ location, path = .ofLocation location := by
  obtain ⟨-, expanded, -, -, canonical⟩ := resolve_ok_iff.1 resolved
  exact ⟨_, FileTree.resolve_ok canonical⟩

/-- A watch that was set up knows the snapshot of its path, which starts at the root. -/
theorem Watch.stamp_of_arm {environment : Environment} {tree : FileTree} {directory : Location}
    {text : String} {watch : Watch} (armed : Watch.arm environment tree directory text = .ok watch) :
    FileTree.IsRooted watch.path.text ∧ watch.stamp = tree.snapshot directory watch.path.text := by
  cases resolved : resolve environment tree directory text with
  | error fault =>
    simp only [arm, resolved] at armed
    cases armed
  | ok path =>
    simp only [arm, resolved] at armed
    cases armed
    obtain ⟨location, rfl⟩ := exists_location_of_resolve resolved
    refine ⟨?_, rfl⟩
    rw [PurePath.text_ofLocation]
    exact FileTree.isRooted_text location

/-- A path under watch has changed just if its snapshot has another number. -/
theorem Watch.hasChanged_iff {watch : Watch} {tree : FileTree} {elsewhere : Location} :
    watch.hasChanged tree elsewhere = true ↔
      (tree.snapshot elsewhere watch.path.text).number ≠ watch.stamp.number := by
  rw [hasChanged, Bool.not_eq_true', ← Bool.not_eq_true, Time.isSame_iff]

/-- A path that was just put under watch has not changed, wherever it is looked at from. -/
theorem Watch.unchanged_of_arm {environment : Environment} {tree : FileTree} {directory : Location}
    {text : String} {watch : Watch} (armed : Watch.arm environment tree directory text = .ok watch)
    (elsewhere : Location) : watch.hasChanged tree elsewhere = false := by
  obtain ⟨rooted, stamp⟩ := stamp_of_arm armed
  rw [← Bool.not_eq_true, hasChanged_iff, stamp, rooted.snapshot elsewhere directory, not_not]

namespace Console

open Loop (exitWord restartWord isWord respond)

/-! ## Lines that carry changes -/

/-- A line given to a console, and the trees that the files become, one after another, while it is read. -/
structure Input where
  /-- The line. -/
  line : String
  /-- The trees that the files become. -/
  changes : List FileTree

/-- What a console works on that watches a path. -/
structure Desk (Memory : Type) where
  /-- The lines that are left. -/
  inputs : List Input
  /-- What evaluated code works on. -/
  memory : Memory
  /-- The files. -/
  tree : FileTree
  /-- What has happened so far. -/
  trace : List Happening

namespace Desk

variable {Memory : Type}

/-- Note that something happens. -/
def note (happening : Happening) (desk : Desk Memory) : Desk Memory :=
  { desk with trace := desk.trace ++ [happening] }

/-- Let the files become trees, one after another. -/
def pass (changes : List FileTree) (desk : Desk Memory) : Desk Memory :=
  { desk with tree := changes.getLastD desk.tree, trace := desk.trace ++ changes.map .changed }

/-- Passing through no trees changes nothing. -/
theorem pass_nil (desk : Desk Memory) : desk.pass [] = desk := by
  simp [pass]

/-- Read the next line, while the files change; behind the last one, the word that leaves the console. -/
def next (desk : Desk Memory) : String × Desk Memory :=
  match desk.inputs with
  | [] => (exitWord, desk.note (.read exitWord))
  | input :: rest =>
    (input.line, ({ desk with inputs := rest }.pass input.changes).note (.read input.line))

/-- Reading the next of the lines that are left. -/
theorem next_of_cons {desk : Desk Memory} {input : Input} {rest : List Input}
    (lines : desk.inputs = input :: rest) :
    desk.next = (input.line, ⟨rest, desk.memory, input.changes.getLastD desk.tree,
      desk.trace ++ (input.changes.map .changed ++ [.read input.line])⟩) := by
  rw [next, lines]
  simp only [pass, note, List.append_assoc]

end Desk

/-- What evaluated code does, and what it has to do with files. -/
structure Workshop (Executor Memory : Type) where
  /-- Run code: what came of it, and the trees that the files became meanwhile. -/
  execute : Executor → String → Memory → FileTree →
    Except Fault Program.Execution × Memory × List FileTree
  /-- The variables and home directories. -/
  environment : Memory → Environment
  /-- The working directory. -/
  directory : Memory → Location

namespace Workshop

variable {Executor Memory : Type} (shop : Workshop Executor Memory)

/-- What a read loop needs around it that is given lines with changes, and looks at the files. -/
def around (executor : Executor) : Loop.Surroundings (Desk Memory) where
  read _ desk := (.ok desk.next.1, desk.next.2)
  announce _ _ desk := desk
  execute code desk :=
    let (outcome, memory, changes) := shop.execute executor code desk.memory desk.tree
    (outcome, { desk with memory }.pass changes)
  changed watch desk :=
    if watch.hasChanged desk.tree (shop.directory desk.memory) then (true, desk.note .found)
    else (false, desk)

/-- The read loops of a console that watches a path and whose process is never replaced: a loop may go
round once for each line, once more at their end, and some more times. -/
def parts (interpreter : String) (program : List String) (idle : Nat) :
    Parts Unit Executor (Desk Memory) where
  interpreter _ := interpreter
  program _ := program
  replace _ desk := (.ok (), desk)
  reader desk := (.ok (), desk)
  watch path desk :=
    match Watch.arm (shop.environment desk.memory) desk.tree (shop.directory desk.memory) path with
    | .ok watch => (.ok watch, desk.note .armed)
    | .error fault => (.error fault, desk)
  around executor _ := shop.around executor
  rounds desk := desk.inputs.length + 1 + idle
  finish _ _ desk := desk

end Workshop

/-! ## Read loops under a watch -/

section Loop

variable {Executor Memory : Type} {shop : Workshop Executor Memory} (executor : Executor)
variable (prompt : String) (quiet : Bool) {watch : Watch} {desk after : Desk Memory}

/-- A read loop that finds the path changed ends there. -/
theorem turn_of_found (found : watch.hasChanged desk.tree (shop.directory desk.memory) = true) :
    Loop.turn (shop.around executor) ⟨prompt, quiet, some watch⟩ desk =
      (.over (.ok .restart), Loop.statusEvents quiet (Loop.changeDetected watch.path),
        desk.note .found) := by
  simp [Loop.turn_eq, Loop.look, Workshop.around, found]

/-- A read loop that does not find the path changed reads the next line and responds to it. -/
theorem turn_of_unfound (unfound : watch.hasChanged desk.tree (shop.directory desk.memory) = false) :
    Loop.turn (shop.around executor) ⟨prompt, quiet, some watch⟩ desk =
      ((respond (shop.around executor) quiet desk.next.1 desk.next.2).1,
        .read prompt desk.next.1 ::
          (respond (shop.around executor) quiet desk.next.1 desk.next.2).2.1,
        (respond (shop.around executor) quiet desk.next.1 desk.next.2).2.2) := by
  have looked : Loop.look (shop.around executor) (some watch) desk = (none, desk) := by
    simp [Loop.look, Workshop.around, unfound]
  rw [Loop.turn_eq, looked]
  rfl

/-- Responding to a line changes the memory and the files, and nothing else. -/
theorem respond_passes (shop : Workshop Executor Memory) (line : String) (desk : Desk Memory) :
    ∃ memory changes, (respond (shop.around executor) quiet line desk).2.2 =
      { desk with memory }.pass changes := by
  by_cases closing : Loop.ends line = true
  · obtain ⟨_, responded, _⟩ :=
      Loop.respond_ends (shop.around executor) (fun _ => "") quiet closing desk
    exact ⟨desk.memory, [], by rw [responded, Desk.pass_nil]⟩
  · by_cases present : line = ""
    · subst present
      exact ⟨desk.memory, [], by rw [Loop.respond_empty, Desk.pass_nil]⟩
    · obtain ⟨_, responded, _⟩ := Loop.respond_call (shop.around executor) (fun _ => "") quiet present
        (by simpa using closing) desk
      rw [responded]
      exact ⟨_, _, rfl⟩

variable {executor prompt quiet}

/-- Whether the path under watch is found unchanged, from wherever it is looked at, unless the files have
changed since it was put under watch. -/
def Steady (watch : Watch) (since : List Happening) (tree : FileTree) : Prop :=
  (∀ tree, .changed tree ∉ since) → ∀ elsewhere, watch.hasChanged tree elsewhere = false

/-- A line that is read does not change the files. -/
theorem Steady.read {since : List Happening} {tree : FileTree} (steady : Steady watch since tree)
    (line : String) : Steady watch (since ++ [.read line]) tree :=
  fun none => steady fun tree member => none tree (List.mem_append_left _ member)

/-- Trees that the files become are changes, if there are any. -/
theorem Steady.pass {since : List Happening} {tree : FileTree} (steady : Steady watch since tree)
    (changes : List FileTree) :
    Steady watch (since ++ changes.map .changed) (changes.getLastD tree) := by
  intro none
  cases changes with
  | nil => exact steady fun tree member => none tree (List.mem_append_left _ member)
  | cons first others => exact absurd (by simp) (none first)

/-- How many of the lines that are left ask for a restart. -/
def pending (inputs : List Input) : Nat := inputs.countP fun input => isWord restartWord input.line

/-- How many restarts the outcome of a read loop asks for. -/
def restartsOf : Except Fault Ending → Nat
  | .ok .restart => 1
  | .ok .left | .error _ => 0

/-- An outcome that asks for no restart counts for none. -/
theorem restartsOf_eq_zero {outcome : Except Fault Ending} (final : outcome ≠ .ok .restart) :
    restartsOf outcome = 0 := by
  unfold restartsOf
  split
  · exact absurd rfl final
  · rfl
  · rfl

/-- What a read loop makes of a desk before it comes to an outcome, with what happened since it was pointed
at the path, and what happens more. -/
structure Sits (since more : List Happening) (desk after : Desk Memory)
    (outcome : Except Fault Ending) : Prop where
  /-- What happens is added to the trace. -/
  trace : after.trace = desk.trace ++ more
  /-- What happens accounts for the restart that is asked for, if one is. -/
  accounts : Accounts (.armed :: since ++ more) (restartsOf outcome)
  /-- Lines that ask for a restart are among those that are left. -/
  requested : requests more + pending after.inputs ≤ pending desk.inputs
  /-- No lines are added. -/
  noLonger : after.inputs.length ≤ desk.inputs.length
  /-- A restart takes a line, unless the files have changed already. -/
  shorter : outcome = .ok .restart →
    after.inputs.length < desk.inputs.length ∨ ∃ tree, .changed tree ∈ since

/-- A restart takes a line where nothing has happened since the read loop was pointed at the path. -/
theorem Sits.fewer {more : List Happening} (sits : Sits [] more desk after (.ok .restart)) :
    after.inputs.length < desk.inputs.length := by
  rcases sits.shorter rfl with fewer | ⟨tree, none⟩
  · exact fewer
  · cases none

/-- Whether a read loop under a watch comes to an outcome by itself, however often it may go round. -/
def Settles (shop : Workshop Executor Memory) (executor : Executor) (manner : Loop.Manner)
    (since : List Happening) (desk : Desk Memory) : Prop :=
  ∃ outcome events after more,
    (∀ idle, Loop.run (shop.around executor) manner (desk.inputs.length + 1 + idle) desk =
      (outcome, events, after)) ∧
    Sits since more desk after outcome

section Rounds

variable {manner : Loop.Manner} {since more : List Happening} {outcome : Except Fault Ending}
variable {events : List Loop.Event}

/-- A round that ends the loop settles it. -/
theorem settles_of_over
    (ended : Loop.turn (shop.around executor) manner desk = (.over outcome, events, after))
    (sits : Sits since more desk after outcome) : Settles shop executor manner since desk := by
  refine ⟨outcome, events, after, more, fun idle => ?_, sits⟩
  rw [Nat.add_right_comm]
  simp only [Loop.run, ended]

/-- A round that takes a line and lets the loop go on leaves it to the rounds behind it to settle it. -/
theorem settles_of_again
    (again : Loop.turn (shop.around executor) manner desk = (.again, events, after))
    (trace : after.trace = desk.trace ++ more)
    (taken : after.inputs.length + 1 = desk.inputs.length)
    (requested : requests more + pending after.inputs ≤ pending desk.inputs)
    (settles : Settles shop executor manner (since ++ more) after) :
    Settles shop executor manner since desk := by
  obtain ⟨outcome, later, last, others, ran, sits⟩ := settles
  refine ⟨outcome, events ++ later, last, more ++ others, fun idle => ?_, ?_⟩
  · rw [← taken, Nat.add_right_comm]
    simp only [Loop.run, again, ran]
  · constructor
    · rw [sits.trace, trace, List.append_assoc]
    · have accounts := sits.accounts
      rwa [← List.cons_append, List.append_assoc] at accounts
    · have behind := sits.requested
      rw [requests_append]
      omega
    · have behind := sits.noLonger
      omega
    · intro _
      have behind := sits.noLonger
      left
      omega

end Rounds

/-- A read loop that finds the path changed settles there: the files have changed. -/
theorem settles_of_found {since : List Happening} (plain : Plain since)
    (steady : Steady watch since desk.tree)
    (found : watch.hasChanged desk.tree (shop.directory desk.memory) = true) :
    Settles shop executor ⟨prompt, quiet, some watch⟩ since desk := by
  obtain ⟨tree, changed⟩ : ∃ tree, .changed tree ∈ since := by
    apply Classical.byContradiction
    intro none
    rw [steady (fun tree member => none ⟨tree, member⟩)] at found
    cases found
  have sits : Sits since [.found] desk (desk.note .found) (.ok .restart) :=
    ⟨rfl, plain.accounts_of_finding changed, Nat.le_of_eq (Nat.zero_add _), Nat.le_refl _,
      fun _ => .inr ⟨tree, changed⟩⟩
  exact settles_of_over (turn_of_found executor prompt quiet found) sits

/-- Behind the last line a read loop settles. -/
theorem settles_of_nil {since : List Happening} (plain : Plain since) (last : desk.inputs = [])
    (unfound : watch.hasChanged desk.tree (shop.directory desk.memory) = false) :
    Settles shop executor ⟨prompt, quiet, some watch⟩ since desk := by
  have next : desk.next = (exitWord, desk.note (.read exitWord)) := by
    rw [Desk.next, last]
  have ended := turn_of_unfound executor prompt quiet unfound
  simp only [next] at ended
  rw [Loop.respond_exit _ _ (by decide)] at ended
  have sits : Sits since [.read exitWord] desk (desk.note (.read exitWord)) (.ok .left) :=
    ⟨rfl, (plain.append (plain_read (by decide))).accounts, Nat.le_of_eq (Nat.zero_add _),
      Nat.le_refl _, nofun⟩
  exact settles_of_over ended sits

/-- One line more is left before it is read. -/
theorem pending_of_cons {input : Input} {rest : List Input} (lines : desk.inputs = input :: rest) :
    pending desk.inputs = pending rest + if isWord restartWord input.line then 1 else 0 := by
  rw [lines, pending, List.countP_cons, pending]

/-- A read loop settles with a line that asks for a restart. -/
theorem settles_of_request {since : List Happening} {input : Input} {rest : List Input}
    (plain : Plain since) (lines : desk.inputs = input :: rest)
    (unfound : watch.hasChanged desk.tree (shop.directory desk.memory) = false)
    (asks : isWord restartWord input.line = true) :
    Settles shop executor ⟨prompt, quiet, some watch⟩ since desk := by
  have ended := turn_of_unfound executor prompt quiet unfound
  simp only [Desk.next_of_cons lines, Loop.respond_restart _ _ asks] at ended
  have accounts := (plain.append (plain_changes input.changes)).accounts_of_request asks
  rw [← List.cons_append, List.append_assoc] at accounts
  have fewer : rest.length < desk.inputs.length := by simp [lines]
  refine settles_of_over ended
    ⟨rfl, accounts, Nat.le_of_eq ?_, Nat.le_of_lt fewer, fun _ => .inl fewer⟩
  rw [pending_of_cons lines, requests_append, (plain_changes _).no_requests, requests_read, Nat.zero_add,
    Nat.add_comm]

/-- A read loop settles with a line that asks for no restart, if it does with the lines behind that one. -/
theorem settles_of_line {since : List Happening} {input : Input} {rest : List Input}
    (plain : Plain since) (steady : Steady watch since desk.tree) (lines : desk.inputs = input :: rest)
    (unfound : watch.hasChanged desk.tree (shop.directory desk.memory) = false)
    (goesOn : isWord restartWord input.line = false)
    (later : ∀ {desk : Desk Memory} {since : List Happening}, Plain since →
      Steady watch since desk.tree → desk.inputs = rest →
        Settles shop executor ⟨prompt, quiet, some watch⟩ since desk) :
    Settles shop executor ⟨prompt, quiet, some watch⟩ since desk := by
  have turn := turn_of_unfound executor prompt quiet unfound
  simp only [Desk.next_of_cons lines] at turn
  let reached : Desk Memory := ⟨rest, desk.memory, input.changes.getLastD desk.tree,
    desk.trace ++ (input.changes.map .changed ++ [.read input.line])⟩
  obtain ⟨memory, changes, passed⟩ := respond_passes executor quiet shop input.line reached
  rcases responded : respond (shop.around executor) quiet input.line reached with
    ⟨turned, events, after⟩
  rw [responded] at turn passed
  simp only at turn passed
  let more : List Happening :=
    input.changes.map .changed ++ [.read input.line] ++ changes.map .changed
  have trace : after.trace = desk.trace ++ more := by
    rw [passed]
    exact List.append_assoc _ _ _
  have left : after.inputs = rest := by rw [passed]; rfl
  have plainMore : Plain more :=
    ((plain_changes input.changes).append (plain_read goesOn)).append (plain_changes changes)
  have requested : requests more + pending after.inputs ≤ pending desk.inputs := by
    rw [plainMore.no_requests, left, pending_of_cons lines, Nat.zero_add]
    exact Nat.le_add_right _ _
  have fewer : after.inputs.length + 1 = desk.inputs.length := by simp [left, lines]
  rcases turned with again | outcome
  · refine settles_of_again turn trace fewer requested (later (plain.append plainMore) ?_ left)
    have steadyMore := ((steady.pass input.changes).read input.line).pass changes
    rw [passed]
    simpa [more, Desk.pass, reached] using steadyMore
  · have final : outcome ≠ .ok .restart := by
      rintro rfl
      rw [Loop.asks_of_respond _ _ responded] at goesOn
      cases goesOn
    have accounts : Accounts (.armed :: since ++ more) (restartsOf outcome) := by
      rw [restartsOf_eq_zero final]
      exact (plain.append plainMore).accounts
    exact settles_of_over turn ⟨trace, accounts, requested, by omega, fun _ => .inl (by omega)⟩

/-- A read loop that was pointed at a path settles. -/
theorem settles_of_steady {since : List Happening} (plain : Plain since)
    (steady : Steady watch since desk.tree) :
    Settles shop executor ⟨prompt, quiet, some watch⟩ since desk := by
  induction lines : desk.inputs generalizing desk since with
  | nil =>
    by_cases found : watch.hasChanged desk.tree (shop.directory desk.memory) = true
    · exact settles_of_found plain steady found
    · exact settles_of_nil plain lines (by simpa using found)
  | cons input rest ih =>
    by_cases found : watch.hasChanged desk.tree (shop.directory desk.memory) = true
    · exact settles_of_found plain steady found
    · have unfound : watch.hasChanged desk.tree (shop.directory desk.memory) = false := by
        simpa using found
      by_cases asks : isWord restartWord input.line = true
      · exact settles_of_request plain lines unfound asks
      · exact settles_of_line plain steady lines unfound (by simpa using asks) ih

end Loop

/-! ## Consoles under a watch -/

section Course

variable {Executor Memory : Type} (shop : Workshop Executor Memory) (interpreter : String)
variable (program : List String) (options : Options) (executor : Executor)

/-- What a console does that watches a path and whose process is never replaced. -/
abbrev runShop (idle loops : Nat) (desk : Desk Memory) :
    Except Fault Nat × List (Event Executor) × Desk Memory :=
  run (shop.parts interpreter program idle).surroundings options executor loops desk

/-- What a console makes of a desk before it comes to an outcome. -/
structure Finishes (desk final : Desk Memory) (outcome : Except Fault Nat)
    (done : List (Event Executor)) (more : List Happening) (restarts : Nat) : Prop where
  /-- It does so if it may run one read loop for each line and one more, however many more that may be and
  however often they may go round. -/
  ran : ∀ idle spare, runShop shop interpreter program options executor idle
    (desk.inputs.length + spare + 1) desk = (outcome, done, final)
  /-- What happens is added to the trace. -/
  trace : final.trace = desk.trace ++ more
  /-- What happens accounts for the restarts. -/
  accounts : Accounts more restarts
  /-- There is one read loop more than there are restarts. -/
  built : (done.filter Event.isBuilding).length = restarts + 1
  /-- Lines that ask for a restart are among those that were given. -/
  requested : requests more ≤ pending desk.inputs

variable {shop interpreter program options executor} {path : String} {desk after : Desk Memory}
variable {outcome : Except Fault Ending} {watch : Watch}

/-- A read loop that settles under the watch that was set up for it gets going. -/
theorem runs_of_settles (watched : options.watch = some path) {events : List Loop.Event}
    (armed : Watch.arm (shop.environment desk.memory) desk.tree (shop.directory desk.memory) path =
      .ok watch) (idle : Nat)
    (ran : Loop.run (shop.around executor) ⟨options.prompt, options.quiet, some watch⟩
      ((desk.note .armed).inputs.length + 1 + idle) (desk.note .armed) = (outcome, events, after)) :
    Runs (shop.parts interpreter program idle).surroundings options executor desk
      (outcome.map Ending.code) after := by
  have pointed : (shop.parts interpreter program idle).watch path desk =
      (.ok watch, desk.note .armed) := by
    simp only [Workshop.parts, armed]
  refine .watched watched rfl (by simp only [Parts.surroundings, pointed]; rfl) ?_
  simp only [Parts.surroundings, Workshop.parts, ran]

/-- A console finishes with a path that cannot be put under watch. -/
theorem finishes_of_unarmed (watched : options.watch = some path) {fault : Fault}
    (unarmed : Watch.arm (shop.environment desk.memory) desk.tree (shop.directory desk.memory) path =
      .error fault) :
    Finishes shop interpreter program options executor desk desk (.error fault)
      [building options executor, .armed path] [] 0 where
  ran idle spare := by
    have pointed : (shop.parts interpreter program idle).watch path desk = (.error fault, desk) := by
      simp only [Workshop.parts, unarmed]
    refine run_of_ends (.unarmed watched rfl ?_) _
    simp only [Parts.surroundings, pointed]
    rfl
  trace := (List.append_nil _).symm
  accounts := .nothing
  built := rfl
  requested := Nat.zero_le _

/-- A read loop takes no account of being pointed at the path. -/
theorem Sits.requested_armed {more : List Happening}
    (sits : Sits [] more (desk.note .armed) after outcome) :
    requests (.armed :: more) + pending after.inputs ≤ pending desk.inputs := by
  rw [requests_armed]
  exact sits.requested

/-- A console finishes with a read loop that asks for no restart. -/
theorem finishes_of_over {more : List Happening}
    (runs : ∀ idle, Runs (shop.parts interpreter program idle).surroundings options executor desk
      (outcome.map Ending.code) after)
    (sits : Sits [] more (desk.note .armed) after outcome) (final : outcome ≠ .ok .restart) :
    Finishes shop interpreter program options executor desk after (outcome.map Ending.code)
      (opening options executor) (.armed :: more) 0 where
  ran idle spare := run_of_ends (.ended (runs idle) fun asks => final (restart_of_code asks)) _
  trace := by
    rw [sits.trace]
    exact List.append_assoc _ _ _
  accounts := by
    have accounts := sits.accounts
    rwa [restartsOf_eq_zero final] at accounts
  built := by rw [builds_opening]; rfl
  requested := Nat.le_trans (Nat.le_add_right _ _) sits.requested_armed

/-- A console finishes that goes on after a restart, if it does from there. -/
theorem finishes_of_restart {last : Desk Memory} {result : Except Fault Nat}
    {more later : List Happening} {done : List (Event Executor)} {restarts : Nat}
    (runs : ∀ idle, Runs (shop.parts interpreter program idle).surroundings options executor desk
      (.ok Ending.restart.code) after)
    (sits : Sits [] more (desk.note .armed) after (.ok .restart))
    (finishes :
      Finishes shop interpreter program options executor after last result done later restarts) :
    Finishes shop interpreter program options executor desk last result
      (restartEvents options executor (Options.restartCommand interpreter program options) ++ done)
      (.armed :: more ++ later) (1 + restarts) where
  ran idle spare := by
    have fewer : after.inputs.length < desk.inputs.length := sits.fewer
    have loops : desk.inputs.length + spare + 1 =
        1 + (after.inputs.length + (desk.inputs.length - after.inputs.length - 1 + spare) + 1) := by
      omega
    have restarted := run_of_restarts (.next (runs idle) rfl .none)
      (after.inputs.length + (desk.inputs.length - after.inputs.length - 1 + spare) + 1)
    rw [List.length_singleton, ← loops, List.flatMap_singleton] at restarted
    have behind : run (shop.parts interpreter program idle).surroundings options executor
        (after.inputs.length + (desk.inputs.length - after.inputs.length - 1 + spare) + 1) after =
          (result, done, last) := finishes.ran idle _
    rw [behind] at restarted
    exact restarted
  trace := by
    rw [finishes.trace, sits.trace]
    simp [Desk.note]
  accounts := Accounts.append sits.accounts finishes.accounts
  built := by
    rw [List.filter_append, List.length_append, finishes.built, restartEvents, List.filter_append,
      builds_opening]
    exact (Nat.add_assoc 1 restarts 1).symm
  requested := by
    have before := sits.requested_armed
    have behind := finishes.requested
    rw [requests_append]
    omega

variable (shop interpreter program executor)

/-- A console that watches a path finishes. -/
theorem exists_finishes (watched : options.watch = some path) (desk : Desk Memory) :
    ∃ final outcome done more restarts,
      Finishes shop interpreter program options executor desk final outcome done more restarts := by
  induction size : desk.inputs.length using Nat.strongRecOn generalizing desk with
  | ind count ih =>
    cases armed : Watch.arm (shop.environment desk.memory) desk.tree (shop.directory desk.memory)
        path with
    | error fault => exact ⟨_, _, _, _, _, finishes_of_unarmed watched armed⟩
    | ok watch =>
      have steady : Steady watch [] (desk.note .armed).tree := fun _ => Watch.unchanged_of_arm armed
      obtain ⟨outcome, events, after, more, ran, sits⟩ : Settles shop executor
          ⟨options.prompt, options.quiet, some watch⟩ [] (desk.note .armed) :=
        settles_of_steady .nothing steady
      have runs (idle : Nat) : Runs (shop.parts interpreter program idle).surroundings options executor
          desk (outcome.map Ending.code) after := runs_of_settles watched armed idle (ran idle)
      by_cases asks : outcome = .ok .restart
      · subst asks
        have fewer : after.inputs.length < count := size ▸ sits.fewer
        obtain ⟨final, result, done, later, restarts, finishes⟩ := ih _ fewer after rfl
        exact ⟨_, _, _, _, _, finishes_of_restart runs sits finishes⟩
      · exact ⟨_, _, _, _, _, finishes_of_over runs sits asks⟩

/-- Restarts for changes are bounded by changes. A console that watches a path is given lines, during
which the files may become any trees, and it may run any code, which may change the files as well; its
process is never replaced. Each time that a read loop finds the path changed, the files have changed since
that loop was pointed at the path. So there are no more such restarts than changes, and no more read loops
than one for each of the changes and of the lines that ask for a restart, and one more. The console comes
to its end by itself: however many read loops it may run beyond one for each line, and however often they
may go round beyond once for each line, it does the same. -/
theorem restarts_le_changes (watched : options.watch = some path) (inputs : List Input)
    (memory : Memory) (tree : FileTree) :
    ∃ outcome done final,
      (∀ idle loops, inputs.length < loops →
        runShop shop interpreter program options executor idle loops ⟨inputs, memory, tree, []⟩ =
          (outcome, done, final)) ∧
      Grounded final.trace ∧ findings final.trace ≤ changes final.trace ∧
      (done.filter Event.isBuilding).length = 1 + requests final.trace + findings final.trace ∧
      (done.filter Event.isBuilding).length ≤ 1 + pending inputs + changes final.trace := by
  obtain ⟨final, outcome, done, more, restarts, finishes⟩ :=
    exists_finishes shop interpreter program executor watched ⟨inputs, memory, tree, []⟩
  have trace : final.trace = more := finishes.trace
  have built := finishes.built
  have requested : requests more ≤ pending inputs := finishes.requested
  obtain ⟨grounded, bounded, balanced⟩ := finishes.accounts
  refine ⟨outcome, done, final, fun idle loops enough => ?_, ?_, ?_, ?_, ?_⟩
  · obtain ⟨spare, rfl⟩ := Nat.exists_eq_add_of_lt enough
    exact finishes.ran idle spare
  · rw [trace]
    exact grounded
  · rw [trace]
    exact bounded
  · rw [trace]
    omega
  · rw [trace]
    omega

end Course

/-! ## A path that changes once -/

/-- Code that does nothing. -/
def idleShop : Workshop Unit Unit where
  execute _ _ _ _ := (.ok ⟨"", .scalar .nothing⟩, (), [])
  environment _ := ⟨[], none, []⟩
  directory _ := []

/-- A tree with one file, last changed at a time. -/
def fileTree (modified : Time) : FileTree where
  entries := [([], .directory 0), (["app.py"], .file modified [] false)]

/-- Two lines: the file grows older while the first one is read, and the second one asks for a restart. -/
def agingLines : List Input := [⟨"pass", [fileTree 1000000000]⟩, ⟨" restart", []⟩]

/-- Options that name the file to watch. -/
def agingOptions : Options := { Options.usual with watch := some "/app.py" }

/-- What a console does with these lines. -/
def agingRun : Except Fault Nat × List (Event Unit) × Desk Unit :=
  runShop idleShop "python3" ["shell.py"] agingOptions () 0 3
    ⟨agingLines, (), fileTree 2000000000, []⟩

/-- The file is found changed once, by the first of three read loops, though its time has fallen; the second
one is ended by the line that asks for it, and the third one by the end of the lines. -/
theorem restarts_once_for_change :
    agingOptions.watch = some "/app.py" ∧ agingRun.1.toOption = some 0 ∧
      findings agingRun.2.2.trace = 1 ∧ changes agingRun.2.2.trace = 1 ∧
      (agingRun.2.1.filter Event.isBuilding).length = 3 ∧ Grounded agingRun.2.2.trace ∧
      (agingRun.2.1.filter Event.isBuilding).length ≤ 1 + pending agingLines +
        changes agingRun.2.2.trace := by
  have watched : agingOptions.watch = some "/app.py" := rfl
  obtain ⟨outcome, done, final, ran, grounded, _, _, few⟩ := restarts_le_changes idleShop "python3"
    ["shell.py"] () watched agingLines () (fileTree 2000000000)
  have same : agingRun = (outcome, done, final) := by
    unfold agingRun
    exact ran 0 3 (by decide)
  have code : agingRun.1.toOption = some 0 := by decide +kernel
  refine ⟨watched, code, by decide +kernel, by decide +kernel, by decide +kernel, ?_, ?_⟩
  · rw [same]
    exact grounded
  · rw [same]
    exact few

end Console
end LiveConsole
