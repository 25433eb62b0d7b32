import LiveConsole.Console

/-!
# What read loops and consoles keep

A read loop and a console change nothing by themselves: what is changed is changed by what is around them.
So they keep every property of the state that all of that keeps.
-/
namespace LiveConsole

namespace Loop

variable {State : Type} {kept : State → Prop} {around : Surroundings State}

/-- Whether everything around a read loop keeps a property of the state. -/
structure Surroundings.Preserves (kept : State → Prop) (around : Surroundings State) : Prop where
  /-- Reading a line keeps it. -/
  read : ∀ prompt state, kept state → kept (around.read prompt state).2
  /-- Taking note of a line keeps it. -/
  announce : ∀ kind line state, kept state → kept (around.announce kind line state)
  /-- Running code keeps it. -/
  execute : ∀ code state, kept state → kept (around.execute code state).2
  /-- Looking at the path under watch keeps it. -/
  changed : ∀ watch state, kept state → kept (around.changed watch state).2

section Rounds

variable (preserves : around.Preserves kept)
include preserves

/-- Running a line keeps what is kept around the loop. -/
theorem evaluate_preserves (quiet : Bool) (line : String) {state : State} (held : kept state) :
    kept (evaluate around quiet line state).2.2 := by
  have executed := fun code kind line =>
    preserves.execute code _ (preserves.announce kind line state held)
  unfold evaluate
  dsimp only
  repeat' split
  all_goals exact executed _ _ _

/-- A round keeps what is kept around the loop. -/
theorem turn_preserves (manner : Manner) {state : State} (held : kept state) :
    kept (turn around manner state).2.2 := by
  have looked : kept (look around manner.watch state).2 := by
    unfold look
    cases manner.watch with
    | none => exact held
    | some watch => exact preserves.changed watch state held
  unfold turn
  generalize look around manner.watch state = view at looked ⊢
  rcases view with ⟨_ | watch, seen⟩
  · have read := preserves.read manner.prompt seen looked
    dsimp only
    split
    · exact read
    · split
      · exact read
      · split
        · exact read
        · split
          · exact read
          · dsimp only
            exact evaluate_preserves preserves manner.quiet _ read
  · exact looked

/-- A read loop keeps what is kept around it. -/
theorem run_preserves (manner : Manner) (rounds : Nat) {state : State} (held : kept state) :
    kept (run around manner rounds state).2.2 := by
  induction rounds generalizing state with
  | zero => exact held
  | succ rounds ih =>
    have turned := turn_preserves preserves manner held
    unfold run
    generalize turn around manner state = outcome at turned ⊢
    rcases outcome with ⟨_ | result, events, after⟩
    · exact ih turned
    · exact turned

end Rounds

end Loop

namespace Console

variable {Reader Executor ReadLoop State : Type} {kept : State → Prop}

/-- Whether everything around a console keeps a property of the state. -/
structure Surroundings.Preserves (kept : State → Prop) (around : Surroundings Executor ReadLoop State) :
    Prop where
  /-- Building a read loop keeps it. -/
  build : ∀ prompt executor quiet state, kept state → kept (around.build prompt executor quiet state).2
  /-- Pointing a read loop at a path keeps it. -/
  arm : ∀ path loop state, kept state → kept (around.arm path loop state).2
  /-- Running a read loop keeps it. -/
  start : ∀ loop state, kept state → kept (around.start loop state).2
  /-- Trying to replace the process keeps it. -/
  replace : ∀ command state, kept state → kept (around.replace command state).2

section Loops

variable {around : Surroundings Executor ReadLoop State} (preserves : around.Preserves kept)
include preserves

/-- Pointing a read loop at the path to watch keeps what is kept around the console. -/
theorem armed_preserves (options : Options) (loop : ReadLoop) {state : State} (held : kept state) :
    kept (armed around options loop state : _ × List (Event Executor) × State).2.2 := by
  unfold armed
  cases options.watch with
  | none => exact held
  | some path => exact preserves.arm path loop state held

/-- Running one read loop keeps what is kept around the console. -/
theorem runLoop_preserves (options : Options) (executor : Executor) {state : State} (held : kept state) :
    kept (runLoop around options executor state).2.2 := by
  have built := preserves.build options.prompt executor options.quiet state held
  have pointed := fun loop => armed_preserves preserves options loop built
  unfold runLoop
  dsimp only
  split
  · exact built
  · split
    · exact pointed _
    · exact preserves.start _ _ (pointed _)

/-- A console keeps what is kept around it. -/
theorem run_preserves (options : Options) (executor : Executor) (loops : Nat) {state : State}
    (held : kept state) : kept (run around options executor loops state).2.2 := by
  induction loops generalizing state with
  | zero => exact held
  | succ loops ih =>
    have ended := runLoop_preserves preserves options executor held
    unfold run
    generalize runLoop around options executor state = outcome at ended ⊢
    rcases outcome with ⟨_ | code, events, after⟩
    · exact ended
    · have replaced := fun command => preserves.replace command after ended
      dsimp only
      split
      · split
        · exact replaced _
        · exact ih (replaced _)
      · exact ended

end Loops

/-- Whether the parts of read loops keep a property of the state. -/
structure Parts.Preserves (kept : State → Prop) (parts : Parts Reader Executor State) : Prop where
  /-- Building what lines are read from keeps it. -/
  reader : ∀ state, kept state → kept (parts.reader state).2
  /-- Setting up a watch keeps it. -/
  watch : ∀ path state, kept state → kept (parts.watch path state).2
  /-- What is around each read loop keeps it. -/
  around : ∀ executor reader, (parts.around executor reader).Preserves kept
  /-- Taking note of the end of a read loop keeps it. -/
  finish : ∀ code events state, kept state → kept (parts.finish code events state)
  /-- Trying to replace the process keeps it. -/
  replace : ∀ command state, kept state → kept (parts.replace command state).2

/-- A console over read loops keeps what the parts of these keep. -/
theorem Parts.Preserves.surroundings {parts : Parts Reader Executor State} (preserves : parts.Preserves kept) :
    parts.surroundings.Preserves kept where
  build _ _ _ state held := preserves.reader state held
  arm path _ state held := preserves.watch path state held
  start loop _ held :=
    preserves.finish _ _ _ (Loop.run_preserves (preserves.around loop.executor loop.reader) _ _ held)
  replace command state held := preserves.replace command state held

end Console

end LiveConsole
