import LiveConsole.Console
import LiveConsole.Proofs.Loop.Round

/-!
# Faults of evaluated code

A fault that evaluated code raises is not caught: neither the read loop that ran the code goes on after it,
nor the console that ran the read loop, whatever they did before.
-/
namespace LiveConsole

namespace Loop

variable {State : Type} (around : Surroundings State) (manner : Manner) (fault : Fault)

/-- Whether a read loop comes, within a number of rounds, to a line whose code raises a fault. -/
inductive Raises : Nat → State → Prop where
  /-- The line of this round does. -/
  | here {rounds : Nat} {state seen reached : State} {line : String}
      (unchanged : look around manner.watch state = (none, seen))
      (read : around.read manner.prompt seen = (.ok line, reached)) (present : line ≠ "")
      (stays : isWord exitWord line = false) (goesOn : isWord restartWord line = false)
      (raised : (call around line reached).1 = .error fault) : Raises (rounds + 1) state
  /-- The line of a later round does. -/
  | later {rounds : Nat} {state next : State} {events : List Event}
      (turned : turn around manner state = (.again, events, next)) (raises : Raises rounds next) :
      Raises (rounds + 1) state

/-- A read loop ends in a fault that its code raises. -/
theorem run_of_raises {rounds : Nat} {state : State} (raises : Raises around manner fault rounds state) :
    (run around manner rounds state).1 = .error fault := by
  induction raises with
  | @here _ _ _ reached line unchanged read present stays goesOn raised =>
    have responded : (respond around manner.quiet line reached).1 = .over (.error fault) := by
      rw [respond, if_neg present, if_neg (by simp [stays]), if_neg (by simp [goesOn]), evaluate_eq, raised]
      rfl
    rw [run, turn_eq, unchanged]
    simp only [read, responded]
  | later turned _ ih =>
    rw [run, turned]
    exact ih

end Loop

namespace Console

variable {Reader Executor State : Type} (parts : Parts Reader Executor State) (options : Options)
variable (executor : Executor) (fault : Fault)

/-- Whether a console comes, within a number of read loops, to a line whose code raises a fault. -/
inductive Raises : Nat → State → Prop where
  /-- The next read loop gets going and comes to such a line. -/
  | here {loops : Nat} {state next begun : State} {fresh loop : ReadLoop Reader Executor}
      {events : List (Event Executor)}
      (built : parts.surroundings.build options.prompt executor options.quiet state = (.ok fresh, next))
      (pointed : armed parts.surroundings options fresh next = (.ok loop, events, begun))
      (raises : Loop.Raises (parts.around loop.executor loop.reader) loop.manner fault (parts.rounds begun)
        begun) : Raises (loops + 1) state
  /-- The next read loop asks for a restart, and a later one comes to such a line. -/
  | later {loops : Nat} {state ended stayed : State} {events : List (Event Executor)}
      (asks : runLoop parts.surroundings options executor state = (.ok Ending.restart.code, events, ended))
      (replaced : parts.replace (restartCommand parts.toRenewal options ended) ended = (.ok (), stayed))
      (raises : Raises loops stayed) : Raises (loops + 1) state

/-- A console ends in a fault that its code raises. -/
theorem run_of_raises {loops : Nat} {state : State}
    (raises : Raises parts options executor fault loops state) :
    (run parts.surroundings options executor loops state).1 = .error fault := by
  induction raises with
  | @here _ _ _ begun _ loop _ built pointed raises =>
    have started : (parts.surroundings.start loop begun).1 = .error fault := by
      change Except.map Ending.code (Loop.run (parts.around loop.executor loop.reader) loop.manner
        (parts.rounds begun) begun).1 = .error fault
      rw [Loop.run_of_raises _ _ _ raises]
      rfl
    simp only [run, runLoop, built, pointed, started]
  | later asks replaced _ ih =>
    have attempted : parts.surroundings.replace
        (restartCommand parts.surroundings.toRenewal options _) _ = (.ok (), _) := replaced
    simp only [run, asks, if_true, attempted, ih]

end Console

end LiveConsole
