import LiveConsole.Console

/-!
# The course of a console

A console runs one read loop after another until one of them does not ask for a restart, or one of its
calls comes to a fault. Between two read loops there is one attempt to replace the process, and no other.
What a console did, and in which order, follows from what its calls came to: the outcomes of its loops,
whatever they were, and the states that the calls left behind.
-/
namespace LiveConsole.Console

section Course

variable {Executor ReadLoop State : Type} (around : Surroundings Executor ReadLoop State)
variable (options : Options) (executor : Executor)

/-- The event of building a read loop. -/
def building : Event Executor := .built options.prompt executor options.quiet

/-- What is done to get a read loop going: it is built, pointed at the path to watch, and started. -/
def opening : List (Event Executor) :=
  building options executor :: (options.watch.map .armed).toList ++ [.started]

/-- Whether a read loop gets going and comes to an outcome. -/
inductive Runs : State → Except Fault Nat → State → Prop
  /-- Where no path is watched, the loop that was built is started. -/
  | unwatched {state next after : State} {loop : ReadLoop} {outcome : Except Fault Nat}
      (unwatched : options.watch = none)
      (built : around.build options.prompt executor options.quiet state = (.ok loop, next))
      (started : around.start loop next = (outcome, after)) :
      Runs state outcome after
  /-- Where a path is watched, the loop that was built is pointed at it before it is started. -/
  | watched {state next reached after : State} {loop pointed : ReadLoop} {path : String}
      {outcome : Except Fault Nat} (watched : options.watch = some path)
      (built : around.build options.prompt executor options.quiet state = (.ok loop, next))
      (armed : around.arm path loop next = (.ok pointed, reached))
      (started : around.start pointed reached = (outcome, after)) :
      Runs state outcome after

/-- Whether read loops that ask for a restart lead from a state to another one, the process being still
there after each attempt to replace it by one of the command lines. -/
inductive Restarts : List (List String) → State → State → Prop
  /-- There may be none. -/
  | none {state : State} : Restarts [] state state
  /-- A loop asks for a restart, and the process is still there after the attempt to replace it. -/
  | next {state ended stayed last : State} {commands : List (List String)}
      (runs : Runs around options executor state (.ok Ending.restart.code) ended)
      (replaced : around.replace (restartCommand around.toRenewal options ended) ended =
        (.ok (), stayed))
      (rest : Restarts commands stayed last) :
      Restarts (restartCommand around.toRenewal options ended :: commands) state last

/-- Whether a console comes to its end with what it does last, in a state and with a result. -/
inductive Ends : State → Except Fault Nat → List (Event Executor) → State → Prop
  /-- A read loop cannot be built. -/
  | unbuilt {state after : State} {fault : Fault}
      (unbuilt : around.build options.prompt executor options.quiet state = (.error fault, after)) :
      Ends state (.error fault) [building options executor] after
  /-- A read loop cannot be pointed at the path to watch. -/
  | unarmed {state next after : State} {loop : ReadLoop} {path : String} {fault : Fault}
      (watched : options.watch = some path)
      (built : around.build options.prompt executor options.quiet state = (.ok loop, next))
      (unarmed : around.arm path loop next = (.error fault, after)) :
      Ends state (.error fault) [building options executor, .armed path] after
  /-- A read loop comes to a fault, or to an exit code that asks for no restart. -/
  | ended {state after : State} {outcome : Except Fault Nat}
      (runs : Runs around options executor state outcome after)
      (final : outcome ≠ .ok Ending.restart.code) :
      Ends state outcome (opening options executor) after
  /-- A read loop asks for a restart, and the attempt to replace the process comes to a fault. -/
  | unreplaced {state ended after : State} {fault : Fault}
      (runs : Runs around options executor state (.ok Ending.restart.code) ended)
      (unreplaced : around.replace (restartCommand around.toRenewal options ended) ended =
        (.error fault, after)) :
      Ends state (.error fault)
        (opening options executor ++ [.replaced (restartCommand around.toRenewal options ended)]) after

/-- What is done for one restart. -/
def restartEvents (command : List String) : List (Event Executor) :=
  opening options executor ++ [.replaced command]

section Steps

variable {around options executor} {state last after : State} {outcome : Except Fault Nat}
variable {commands : List (List String)} {events : List (Event Executor)}

/-- A read loop that gets going is built, armed and started. -/
theorem runLoop_of_runs (runs : Runs around options executor state outcome after) :
    runLoop around options executor state = (outcome, opening options executor, after) := by
  cases runs with
  | unwatched unwatched built started =>
    simp only [runLoop, built, armed, unwatched, started, opening, building]
    rfl
  | watched watched built pointed started =>
    simp only [runLoop, built, armed, watched, pointed, started, opening, building]
    rfl

/-- A console that comes to its end does so within one read loop. -/
theorem run_of_ends (ends : Ends around options executor state outcome events after) (loops : Nat) :
    run around options executor (loops + 1) state = (outcome, events, after) := by
  cases ends with
  | unbuilt unbuilt => simp only [run, runLoop, unbuilt, building]
  | unarmed watched built unarmed => simp only [run, runLoop, built, armed, watched, unarmed, building]
  | ended runs final =>
    simp only [run, runLoop_of_runs runs]
    cases outcome with
    | error fault => rfl
    | ok code =>
      have other : code ≠ Ending.restart.code := by
        rintro rfl
        exact final rfl
      simp only [if_neg other]
  | unreplaced runs unreplaced => simp only [run, runLoop_of_runs runs, unreplaced, if_true]

/-- Read loops that ask for a restart are followed by what the console does from there. -/
theorem run_of_restarts (restarts : Restarts around options executor commands state last)
    (loops : Nat) :
    run around options executor (commands.length + loops) state =
      ((run around options executor loops last).1,
        commands.flatMap (restartEvents options executor) ++ (run around options executor loops last).2.1,
        (run around options executor loops last).2.2) := by
  induction restarts with
  | none => simp
  | next runs replaced rest ih =>
    rw [List.length_cons, Nat.add_right_comm]
    simp only [run, runLoop_of_runs runs, replaced, if_true, ih]
    simp [restartEvents]

/-- A console does what its course says: for each restart a read loop and one attempt to replace the
process, and then what it does last. -/
theorem run_of_course (restarts : Restarts around options executor commands state last)
    (ends : Ends around options executor last outcome events after) {loops : Nat}
    (enough : commands.length < loops) :
    run around options executor loops state =
      (outcome, commands.flatMap (restartEvents options executor) ++ events, after) := by
  obtain ⟨spare, rfl⟩ : ∃ spare, loops = commands.length + (spare + 1) :=
    ⟨loops - commands.length - 1, by omega⟩
  rw [run_of_restarts restarts, run_of_ends ends]

end Steps

/-- Only a read loop that asks for a restart ends with the exit code of one. -/
theorem restart_of_code {ending : Except Fault Ending}
    (asks : ending.map Ending.code = .ok Ending.restart.code) : ending = .ok .restart := by
  cases ending with
  | error fault => cases asks
  | ok ending =>
    cases ending with
    | left => cases asks
    | restart => rfl

/-! ## Read loops counted -/

/-- Whether an event is the building of a read loop. -/
def Event.isBuilding : Event Executor → Bool
  | built .. => true
  | armed _ | started | replaced _ => false

section Counting

variable {around options executor} {state last after : State} {outcome : Except Fault Nat}
variable {commands : List (List String)} {events : List (Event Executor)}

/-- One read loop is built to get one going. -/
theorem builds_opening :
    (opening options executor).filter Event.isBuilding = [building options executor] := by
  unfold opening building
  cases options.watch <;> rfl

/-- One read loop is built for each restart. -/
theorem builds_restarts :
    (commands.flatMap (restartEvents options executor)).filter Event.isBuilding =
      List.replicate commands.length (building options executor) := by
  induction commands with
  | nil => rfl
  | cons command commands ih =>
    rw [List.flatMap_cons, List.filter_append, ih, restartEvents, List.filter_append, builds_opening]
    rfl

/-- One read loop is built at the end of a console. -/
theorem Ends.builds (ends : Ends around options executor state outcome events after) :
    events.filter Event.isBuilding = [building options executor] := by
  cases ends with
  | unbuilt _ => rfl
  | unarmed _ _ _ => rfl
  | ended _ _ => exact builds_opening
  | unreplaced _ _ =>
    rw [List.filter_append, builds_opening]
    rfl

/-- A console builds one read loop more than there are restarts, all of them alike. -/
theorem builds_of_course (ends : Ends around options executor last outcome events after) :
    (commands.flatMap (restartEvents options executor) ++ events).filter Event.isBuilding =
      List.replicate (commands.length + 1) (building options executor) := by
  rw [List.filter_append, builds_restarts, ends.builds, List.replicate_succ']

end Counting

/-! ## What calls leave alone -/

/-- Whether the calls of a console leave something of the state alone. -/
structure Surroundings.Keeps {View : Type} (view : State → View) : Prop where
  /-- Building a read loop leaves it alone. -/
  build : ∀ {prompt executor quiet state loop after},
    around.build prompt executor quiet state = (loop, after) → view after = view state
  /-- Pointing a read loop at a path leaves it alone. -/
  arm : ∀ {path loop state pointed after},
    around.arm path loop state = (pointed, after) → view after = view state
  /-- Starting a read loop leaves it alone. -/
  start : ∀ {loop state outcome after},
    around.start loop state = (outcome, after) → view after = view state
  /-- Trying to replace the process leaves it alone. -/
  replace : ∀ {command state outcome after},
    around.replace command state = (outcome, after) → view after = view state

section Keeps

variable {around options executor} {View : Type} {view : State → View} {state last after : State}
variable {outcome : Except Fault Nat} {commands : List (List String)} {events : List (Event Executor)}

/-- A read loop that gets going leaves alone what the calls leave alone. -/
theorem Runs.keeps (keeps : around.Keeps view)
    (runs : Runs around options executor state outcome after) : view after = view state := by
  cases runs with
  | unwatched _ built started => rw [keeps.start started, keeps.build built]
  | watched _ built armed started =>
    rw [keeps.start started, keeps.arm armed, keeps.build built]

/-- Restarts leave alone what the calls leave alone. -/
theorem Restarts.keeps (keeps : around.Keeps view)
    (restarts : Restarts around options executor commands state last) : view last = view state := by
  induction restarts with
  | none => rfl
  | next runs replaced _ ih => rw [ih, keeps.replace replaced, runs.keeps keeps]

/-- The end of a console leaves alone what the calls leave alone. -/
theorem Ends.keeps (keeps : around.Keeps view)
    (ends : Ends around options executor state outcome events after) : view after = view state := by
  cases ends with
  | unbuilt unbuilt => exact keeps.build unbuilt
  | unarmed _ built unarmed => rw [keeps.arm unarmed, keeps.build built]
  | ended runs _ => exact runs.keeps keeps
  | unreplaced runs unreplaced => rw [keeps.replace unreplaced, runs.keeps keeps]

end Keeps

end Course

end LiveConsole.Console
