import LiveConsole.Actions.Basic
import LiveConsole.Fault

/-!
# Scripts of firings

A script registers callbacks, fires actions, asks how often an action fired, and may end by raising. A
callback is a label with a script of its own, so that firings can nest. A firing calls the callbacks
that were registered when it started; a fault stops the firing and everything around it. What happened
is kept as a list of events.
-/
namespace LiveConsole.Actions

/-- One step of a script. -/
inductive Step (Argument : Type) where
  /-- Register a callback under a name: its rank, its label and its script. -/
  | add (name : String) (priority : Priority) (label : String) (script : List (Step Argument))
  /-- Fire an action, unless it fired as often as the limit already. -/
  | fire (name : String) (arguments : List Argument) (limit : Option Nat)
  /-- Ask how often an action fired. -/
  | count (name : String)
  /-- Raise a fault. -/
  | raise (fault : Fault)
  deriving Inhabited

/-- What is called when an action fires. -/
structure Scripted (Argument : Type) where
  /-- The label under which calls are noted. -/
  label : String
  /-- What the callback does. -/
  script : List (Step Argument)

/-- What happened in the course of a script. -/
inductive Event (Argument : Type) where
  /-- A firing started. -/
  | began (name : String) (arguments : List Argument)
  /-- A callback was called; the count is that of its action at this moment. -/
  | called (sequence : Nat) (label : String) (arguments : List Argument) (count : Nat)
  /-- A firing called all its callbacks. -/
  | finished (name : String)
  /-- A firing was stopped by a fault. -/
  | stopped (name : String) (fault : Fault)

/-- The actions and what happened so far. -/
structure Stage (Argument : Type) where
  /-- The callbacks and the counts. -/
  actions : Actions (Scripted Argument)
  /-- The events, the earliest first. -/
  events : List (Event Argument)

/-- A step that may change the stage and may end in a fault. -/
abbrev Play (Argument Result : Type) := ExceptT Fault (StateM (Stage Argument)) Result

section Play

variable {Argument : Type}

/-- Note an event. -/
def note (event : Event Argument) : Play Argument Unit :=
  modify fun stage => { stage with events := stage.events ++ [event] }

/-- Perform one step, given how to fire; the answer is a count where one was asked for. -/
def playStep (fire : String → List Argument → Play Argument Unit) :
    Step Argument → Play Argument (Option Nat)
  | .add name priority label script => do
    modify fun stage => { stage with actions := stage.actions.add name ⟨label, script⟩ priority }
    return none
  | .fire name arguments limit => do
    let fired := (← get).actions.count name
    if limit.any (· ≤ fired) then return none
    fire name arguments
    return none
  | .count name => return some ((← get).actions.count name)
  | .raise fault => throw fault

/-- Perform steps in order. -/
def playAll (fire : String → List Argument → Play Argument Unit) :
    List (Step Argument) → Play Argument Unit
  | [] => return ()
  | step :: rest => do
    let _ ← playStep fire step
    playAll fire rest

/-- Call callbacks in order. -/
def callAll (fire : String → List Argument → Play Argument Unit) (arguments : List Argument) :
    List (Registration (Scripted Argument)) → Play Argument Unit
  | [] => return ()
  | registration :: rest => do
    let count := (← get).actions.count registration.action
    note (.called registration.sequence registration.callback.label arguments count)
    playAll fire registration.callback.script
    callAll fire arguments rest

/-- Fire an action, firings inside firings up to a number of levels. -/
def fireWithin : Nat → String → List Argument → Play Argument Unit
  | 0, _, _ => throw .unfinished
  | levels + 1, name, arguments => do
    note (.began name arguments)
    modify fun stage => { stage with actions := stage.actions.begin name }
    try
      callAll (fireWithin levels) arguments ((← get).actions.called name)
    catch fault =>
      note (.stopped name fault)
      throw fault
    note (.finished name)

/-- Perform one step, firings nested up to a number of levels. -/
def Step.play (levels : Nat) (step : Step Argument) (stage : Stage Argument) :
    Except Fault (Option Nat) × Stage Argument :=
  (playStep (fireWithin levels) step).run stage

end Play

end LiveConsole.Actions
