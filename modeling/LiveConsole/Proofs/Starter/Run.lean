import LiveConsole.Proofs.Console.Course
import LiveConsole.Proofs.Host.Import
import LiveConsole.Starter.Run

/-!
# Runs of a starter

A starter that runs the basic console does so in one namespace, whatever becomes of the read loops. When
the console ends by itself its exit code is that of the run, and is kept; when it ends in a fault, the run
ends in that fault and does nothing more.
-/
namespace LiveConsole.Starter

open Console (Restarts Ends Event building opening restartEvents)

variable {Reader Outside ReadLoop : Type} (around : Surroundings Reader Outside)
variable (call : Step Outside Unit)
variable (console : Console.Surroundings String ReadLoop (Everything Outside))

/-- The exit code that a starter keeps. -/
def exitCodeOf (store : Everything Outside) : Option Nat := store.world.outside.exitCode

/-- Keep the exit code of a run that ended by itself; a fault leaves everything as it is. -/
def keepOutcome (outcome : Except Fault Nat) (store : Everything Outside) : Everything Outside :=
  match outcome with
  | .error _ => store
  | .ok code =>
    let host := store.world
    { store with world := { host with outside := { host.outside with exitCode := some code } } }

/-- What is done before the read loops of the basic console: the choice is noted, and the namespace is
found. -/
def prepareBasic : Step Outside String := do
  note around .debug ("Using " ++ Implementation.basic.name ++ " console")
  namespaceKey around call

/-! ## The exit code before the console runs -/

section Leaves

/-- Taking note of something keeps the exit code. -/
theorem note_leaves (level : Level) (message : String) :
    Host.Leaves State.exitCode (note around level message) := fun _ => rfl

/-- Finding the namespace keeps the exit code where the answers to the requests of modules do. -/
theorem namespaceKey_leaves (kept : Host.Leaves State.exitCode call) :
    Host.Leaves State.exitCode (namespaceKey around call) := by
  refine (Host.Leaves.current.bind fun _ => .pure _).bind fun state => ?_
  cases state.space with
  | some space => exact .pure space
  | none =>
    refine Host.Leaves.bind ?_ fun space => Host.Leaves.bind (fun _ => rfl) fun _ => .pure space
    unfold findSpace
    cases bootstrap? around with
    | none => exact (Host.bindAll_leaves _ _).bind fun _ => .pure freshSpace
    | some name =>
      refine Host.Leaves.current.bind fun host => ?_
      cases host.loaded.lookup name with
      | some space => exact .pure space
      | none => exact Host.importModule_leaves kept name

/-- What is done before the read loops keeps the exit code where the answers to the requests of modules
do. -/
theorem prepareBasic_leaves (kept : Host.Leaves State.exitCode call) :
    Host.Leaves State.exitCode (prepareBasic around call) :=
  (note_leaves around _ _).bind fun _ => namespaceKey_leaves around call kept

end Leaves

section Basic

variable {store begun last after : Everything Outside} {space : String} {outcome : Except Fault Nat}
variable {commands : List (List String)} {events : List (Event String)}

/-- The basic console gives what its read loops come to in the namespace that was found. -/
theorem perform_runBasic (found : perform (namespaceKey around call) store = (.ok space, begun))
    (ran : Console.run console around.options space (around.loops (outsideOf begun)) begun =
      (outcome, events, after)) :
    perform (runBasic around call console) store = (outcome, after) := by
  have here : perform (get : Step Outside (Everything Outside)) begun = (.ok begun, begun) := rfl
  have moved : perform (set after : Step Outside PUnit) begun = (.ok (), after) := rfl
  unfold perform at found here moved ⊢
  rw [runBasic, Host.run_bind, found]
  simp only
  rw [Host.run_bind, here]
  simp only [ran]
  rw [Host.run_bind, moved]
  cases outcome <;> rfl

/-- A run of the basic console keeps what its read loops come to. -/
theorem perform_runOnce (basic : implementation around = .basic)
    (prepared : perform (prepareBasic around call) store = (.ok space, begun))
    (ran : Console.run console around.options space (around.loops (outsideOf begun)) begun =
      (outcome, events, after)) :
    perform (runOnce around call console) store = (outcome, keepOutcome outcome after) := by
  rw [perform, prepareBasic, Host.run_bind] at prepared
  rw [perform, runOnce, basic]
  simp only
  rw [Host.run_bind]
  rcases noted : ExceptT.run (note around .debug ("Using " ++ Implementation.basic.name ++ " console"))
    store with ⟨fault | value, next⟩
  · rw [noted] at prepared
    cases prepared
  · rw [noted] at prepared
    have gone := perform_runBasic around call console prepared ran
    unfold perform at gone
    simp only
    rw [Host.run_bind, gone]
    cases outcome <;> rfl

/-- A run of the basic console over any read loops, with any attempts at replacing the process. When some
read loops in a row ask for a restart, the process being still there after each attempt, and the console
then comes to its end, it has done for each restart what gets a read loop going, followed by one attempt
with the command line that carries the flags of the options, and behind that what it does last. So one
read loop more is built than there are restarts, all with the same prompt, namespace and manner. The run
gives the outcome of the end: an exit code is kept, a fault changes nothing any more, so that the exit code
is still the one from before the run where none of the calls has changed it. -/
theorem runOnce_pairs_restarts (basic : implementation around = .basic)
    (prepared : perform (prepareBasic around call) store = (.ok space, begun))
    (restarts : Restarts console around.options space commands begun last)
    (ends : Ends console around.options space last outcome events after)
    (enough : commands.length < around.loops (outsideOf begun)) :
    let ran := Console.run console around.options space (around.loops (outsideOf begun)) begun
    ran = (outcome, commands.flatMap (restartEvents around.options space) ++ events, after) ∧
      ran.2.1.filter Event.isBuilding =
        List.replicate (commands.length + 1) (building around.options space) ∧
      perform (runOnce around call console) store = (outcome, keepOutcome outcome after) ∧
      (console.Keeps exitCodeOf → Host.Leaves State.exitCode call →
        exitCodeOf after = exitCodeOf store) := by
  intro ran
  have course : ran = (outcome, commands.flatMap (restartEvents around.options space) ++ events, after) :=
    Console.run_of_course restarts ends enough
  refine ⟨course, ?_, perform_runOnce around call console basic prepared course,
    fun keeps leaves => ?_⟩
  · rw [course]
    exact Console.builds_of_course ends
  · have before := prepareBasic_leaves around call leaves store
    rw [perform] at prepared
    rw [prepared] at before
    rw [ends.keeps keeps, restarts.keeps keeps]
    exact before

end Basic

/-! ## A console that is restarted once -/

/-- A starter that watches a path and stays quiet, whose process is never replaced. -/
def watchfulStarter : Surroundings Unit Nat where
  options := { Options.usual with watch := some "/project", quiet := true }
  installed := []
  build count := (.ok (), count)
  arm path count := (.ok ⟨.ofText path, 0⟩, count)
  read _ _ count := (.ok Loop.exitWord, count)
  changed _ count := (false, count)
  interpreter _ := "python3"
  program _ := ["-m", "live_shell"]
  replace _ count := (.ok (), count)
  note _ count := count
  present _ _ _ count := count
  finish _ _ count := count
  sharesOutput := true
  showIdent _ := ""
  rounds _ := 1
  loops _ := 5

/-- Read loops that count themselves: the first one asks for a restart, the second one leaves with
another code. -/
def countedLoops : Console.Surroundings String Unit (Everything Nat) where
  toRenewal := renewal watchfulStarter
  build _ _ _ store := (.ok (), store)
  arm _ loop store := (.ok loop, store)
  start _ store := (.ok (if outsideOf store = 0 then 10 else 3), withOutside (outsideOf store + 1) store)

/-- What a starter finds whose process has just been started, with the exit code of an earlier run. -/
def freshStore : Everything Nat :=
  ⟨.empty, [], "", .ofModules [] ⟨none, some 7, none, 0⟩⟩

/-- Two loops are built, armed and started, the process is asked to be replaced in between, and the exit
code of the second loop takes the place of an earlier one. -/
theorem runOnce_restarts_once :
    ∃ begun after,
      Console.run countedLoops watchfulStarter.options "__console__" 5 begun =
        (.ok 3,
          [.built "py> " "__console__" true, .armed "/project", .started,
            .replaced ["python3", "-m", "live_shell", "--quiet", "--watch=/project"],
            .built "py> " "__console__" true, .armed "/project", .started], after) ∧
      exitCodeOf after = some 7 ∧
      (perform (runOnce watchfulStarter (return ()) countedLoops) freshStore).1 = .ok 3 ∧
      exitCodeOf (perform (runOnce watchfulStarter (return ()) countedLoops) freshStore).2 = some 3 := by
  let begun := (perform (prepareBasic watchfulStarter (return ())) freshStore).2
  have prepared : perform (prepareBasic watchfulStarter (return ())) freshStore =
      (.ok "__console__", begun) := rfl
  have first : Console.Runs countedLoops watchfulStarter.options "__console__" begun (.ok 10)
      (withOutside 1 begun) := .watched rfl rfl rfl rfl
  have restarts : Restarts countedLoops watchfulStarter.options "__console__"
      [["python3", "-m", "live_shell", "--quiet", "--watch=/project"]] begun (withOutside 1 begun) :=
    .next first rfl .none
  have ends : Ends countedLoops watchfulStarter.options "__console__" (withOutside 1 begun) (.ok 3)
      (opening watchfulStarter.options "__console__") (withOutside 2 begun) :=
    .ended (.watched rfl rfl rfl rfl) nofun
  have keeps : countedLoops.Keeps exitCodeOf := by
    constructor
    · rintro _ _ _ _ _ _ ⟨⟩
      rfl
    · rintro _ _ _ _ _ ⟨⟩
      rfl
    · rintro _ _ _ _ ⟨⟩
      rfl
    · rintro _ _ _ _ ⟨⟩
      rfl
  obtain ⟨course, _, performed, kept⟩ := runOnce_pairs_restarts watchfulStarter (return ()) countedLoops
    rfl prepared restarts ends (by decide)
  refine ⟨begun, _, course, kept keeps (Host.Leaves.pure ()), congrArg Prod.fst performed, ?_⟩
  rw [performed]
  rfl

end LiveConsole.Starter
