import LiveConsole.Actions.Script
import LiveConsole.Proofs.Actions.Order

/-!
# Firings inside firings

A callback may register callbacks and fire actions, the one being fired among them, and it may raise. The
callbacks that a firing calls are chosen when it starts, so what is registered meanwhile waits for the next
one, and the firing is counted before the first of them is called. What holds of the counts and of the
registrations is stated of every moment in which a script can look at them, inside running callbacks and
after faults.
-/
namespace LiveConsole

namespace Actions

/-- The callbacks that a firing calls are those that are registered under its name. -/
theorem called_perm {Callback : Type} (actions : Actions Callback) (name : String) :
    (actions.called name).Perm
      (actions.registrations.filter fun registration => registration.action = name) :=
  Registration.inOrder_perm _

variable {Argument : Type}

/-! ## Runs of scripts -/

namespace Stage

/-- A stage in which one more event was noted. -/
def noting (stage : Stage Argument) (event : Event Argument) : Stage Argument :=
  { stage with events := stage.events ++ [event] }

/-- The stage in which a firing begins to call: it is noted, and it is counted. -/
def begun (stage : Stage Argument) (name : String) (arguments : List Argument) : Stage Argument :=
  ⟨stage.actions.begin name, stage.events ++ [.began name arguments]⟩

/-- The stage in which a callback starts: its call is noted, with the count of its action. -/
def calling (stage : Stage Argument) (arguments : List Argument)
    (registration : Registration (Scripted Argument)) : Stage Argument :=
  stage.noting (.called registration.sequence registration.callback.label arguments
    (stage.actions.count registration.action))

end Stage

/-- What comes after a step is performed unless the step ends in a fault. -/
theorem run_bind {First Second : Type} (first : Play Argument First) (next : First → Play Argument Second)
    (stage : Stage Argument) :
    (first >>= next).run stage =
      match first.run stage with
      | (.ok value, between) => (next value).run between
      | (.error fault, last) => (.error fault, last) := by
  rw [ExceptT.run_bind]
  simp only [bind, StateT.bind]
  rcases first.run stage with ⟨_ | _, between⟩ <;> rfl

section Runs

variable (fire : String → List Argument → Play Argument Unit)

/-- A step that fires does so unless the action fired often enough. -/
theorem playStep_fire_run (name : String) (arguments : List Argument) (limit : Option Nat)
    (stage : Stage Argument) :
    (playStep fire (.fire name arguments limit)).run stage =
      if limit.any (· ≤ stage.actions.count name) then (.ok none, stage)
      else
        match (fire name arguments).run stage with
        | (.ok _, after) => (.ok none, after)
        | (.error fault, last) => (.error fault, last) := by
  have asked : (playStep fire (.fire name arguments limit)).run stage =
      (if limit.any (· ≤ stage.actions.count name) then return none
        else do
          fire name arguments
          return none : Play Argument (Option Nat)).run stage :=
    rfl
  rw [asked]
  split
  · rfl
  · rw [run_bind]
    rcases (fire name arguments).run stage with ⟨_ | _, after⟩ <;> rfl

/-- A script is performed step by step, up to the first that ends in a fault. -/
theorem playAll_cons_run (step : Step Argument) (rest : List (Step Argument)) (stage : Stage Argument) :
    (playAll fire (step :: rest)).run stage =
      match (playStep fire step).run stage with
      | (.ok _, between) => (playAll fire rest).run between
      | (.error fault, last) => (.error fault, last) := by
  rw [playAll, run_bind]
  rcases (playStep fire step).run stage with ⟨_ | _, between⟩ <;> rfl

/-- Callbacks are called one by one, up to the first that raises. -/
theorem callAll_cons_run (arguments : List Argument) (registration : Registration (Scripted Argument))
    (rest : List (Registration (Scripted Argument))) (stage : Stage Argument) :
    (callAll fire arguments (registration :: rest)).run stage =
      match (playAll fire registration.callback.script).run (stage.calling arguments registration) with
      | (.ok _, between) => (callAll fire arguments rest).run between
      | (.error fault, last) => (.error fault, last) := by
  have noted : (callAll fire arguments (registration :: rest)).run stage =
      (do playAll fire registration.callback.script
          callAll fire arguments rest : Play Argument Unit).run (stage.calling arguments registration) :=
    rfl
  rw [noted, run_bind]
  rcases (playAll fire registration.callback.script).run (stage.calling arguments registration) with
    ⟨_ | _, between⟩ <;> rfl

/-- A firing is noted and counted, its callbacks are called, and its end is noted. -/
theorem fireWithin_succ_run (levels : Nat) (name : String) (arguments : List Argument)
    (stage : Stage Argument) :
    (fireWithin (levels + 1) name arguments).run stage =
      match (callAll (fireWithin levels) arguments (stage.actions.called name)).run
        (stage.begun name arguments) with
      | (.ok _, last) => (.ok (), last.noting (.finished name))
      | (.error fault, last) => (.error fault, last.noting (.stopped name fault)) := by
  have begun : (fireWithin (levels + 1) name arguments).run stage =
      (do try
            callAll (fireWithin levels) arguments (stage.actions.called name)
          catch fault =>
            note (.stopped name fault)
            throw fault
          note (.finished name) : Play Argument Unit).run (stage.begun name arguments) :=
    rfl
  rw [begun, run_bind, ExceptT.run_tryCatch]
  simp only [bind, StateT.bind]
  rcases (callAll (fireWithin levels) arguments (stage.actions.called name)).run
    (stage.begun name arguments) with ⟨_ | _, last⟩ <;> rfl

end Runs

/-! ## What every step preserves -/

/-- The number of firings of an action that were started. -/
def started (name : String) : List (Event Argument) → Nat
  | [] => 0
  | .began other _ :: rest => started name rest + if name = other then 1 else 0
  | _ :: rest => started name rest

/-- Events that come later are counted after the earlier ones. -/
theorem started_append (name : String) (earlier later : List (Event Argument)) :
    started name (earlier ++ later) = started name earlier + started name later := by
  induction earlier with
  | nil => simp [started]
  | cons event rest ih =>
    cases event with
    | began _ _ =>
      simp only [List.cons_append, started, ih]
      omega
    | called _ _ _ _ | finished _ | stopped _ _ => simpa only [List.cons_append, started] using ih

/-- The counts are those of the firings that were started, and callbacks are numbered as they came. -/
structure Stage.Sound (stage : Stage Argument) : Prop where
  /-- Each name is counted as often as a firing of it was started. -/
  counted : ∀ name, stage.actions.count name = started name stage.events
  /-- The number of a callback is that of the callbacks that were registered before. -/
  numbered : stage.actions.registrations.map Registration.sequence =
    List.range stage.actions.registrations.length

/-- How a stage may follow another one: what was sound stays so, and no registration is lost or changed. -/
structure Stage.Leads (before after : Stage Argument) : Prop where
  /-- Counts and numbers stay sound. -/
  sound : before.Sound → after.Sound
  /-- The callbacks registered before come first, unchanged. -/
  kept : before.actions.registrations <+: after.actions.registrations

namespace Stage.Leads

variable {first second third : Stage Argument}

/-- A stage follows itself. -/
theorem refl (stage : Stage Argument) : stage.Leads stage :=
  ⟨id, List.prefix_refl _⟩

/-- What follows a stage that follows another one follows that one too. -/
theorem trans (begins : first.Leads second) (continues : second.Leads third) : first.Leads third :=
  ⟨continues.sound ∘ begins.sound, begins.kept.trans continues.kept⟩

/-- Noting an event that is no start of a firing changes neither counts nor registrations. -/
theorem noting (stage : Stage Argument) {event : Event Argument}
    (uncounted : ∀ name, started name [event] = 0) : stage.Leads (stage.noting event) where
  sound sound := by
    refine ⟨fun name => ?_, sound.numbered⟩
    rw [Stage.noting, started_append, uncounted, Nat.add_zero]
    exact sound.counted name
  kept := List.prefix_refl _

/-- A firing is counted when its start is noted. -/
theorem begun (stage : Stage Argument) (name : String) (arguments : List Argument) :
    stage.Leads (stage.begun name arguments) where
  sound sound := by
    refine ⟨fun other => ?_, sound.numbered⟩
    simp only [Stage.begun, Actions.count_begin, started_append, started, sound.counted other, Nat.zero_add]
  kept := List.prefix_refl _

/-- A new callback takes the next number. -/
theorem add (stage : Stage Argument) (name : String) (callback : Scripted Argument) (priority : Priority) :
    stage.Leads { stage with actions := stage.actions.add name callback priority } where
  sound sound := by
    refine ⟨sound.counted, ?_⟩
    simp only [Actions.registrations_add, List.map_append, List.map_cons, List.map_nil, sound.numbered,
      List.length_append, List.length_cons, List.length_nil, Nat.zero_add, List.range_succ]
  kept := List.prefix_append _ _

end Stage.Leads

section Steps

variable {fire : String → List Argument → Play Argument Unit}
  (leads : ∀ name arguments stage, Stage.Leads stage ((fire name arguments).run stage).2)
include leads

/-- Each step leads on if firings do. -/
theorem playStep_leads (step : Step Argument) (stage : Stage Argument) :
    stage.Leads ((playStep fire step).run stage).2 := by
  cases step with
  | add name priority label script => exact Stage.Leads.add stage name ⟨label, script⟩ priority
  | fire name arguments limit =>
    rw [playStep_fire_run]
    split
    · exact Stage.Leads.refl stage
    · have fired := leads name arguments stage
      generalize (fire name arguments).run stage = outcome at fired ⊢
      rcases outcome with ⟨_ | _, after⟩ <;> exact fired
  | count name => exact Stage.Leads.refl stage
  | raise fault => exact Stage.Leads.refl stage

/-- A script leads on if firings do. -/
theorem playAll_leads (script : List (Step Argument)) (stage : Stage Argument) :
    stage.Leads ((playAll fire script).run stage).2 := by
  induction script generalizing stage with
  | nil => exact Stage.Leads.refl stage
  | cons step rest ih =>
    have first := playStep_leads leads step stage
    rw [playAll_cons_run]
    generalize (playStep fire step).run stage = outcome at first ⊢
    rcases outcome with ⟨_ | _, between⟩
    · exact first
    · exact first.trans (ih between)

/-- The calls of callbacks lead on if firings do. -/
theorem callAll_leads (arguments : List Argument) (registrations : List (Registration (Scripted Argument)))
    (stage : Stage Argument) : stage.Leads ((callAll fire arguments registrations).run stage).2 := by
  induction registrations generalizing stage with
  | nil => exact Stage.Leads.refl stage
  | cons registration rest ih =>
    have entered : stage.Leads (stage.calling arguments registration) := .noting stage fun _ => rfl
    have played := playAll_leads leads registration.callback.script (stage.calling arguments registration)
    rw [callAll_cons_run]
    generalize (playAll fire registration.callback.script).run (stage.calling arguments registration) =
      outcome at played ⊢
    rcases outcome with ⟨_ | _, between⟩
    · exact entered.trans played
    · exact (entered.trans played).trans (ih between)

end Steps

/-- Firings lead on, however deep they are nested. -/
theorem fireWithin_leads (levels : Nat) (name : String) (arguments : List Argument) (stage : Stage Argument) :
    stage.Leads ((fireWithin levels name arguments).run stage).2 := by
  induction levels generalizing name arguments stage with
  | zero => exact Stage.Leads.refl stage
  | succ levels ih =>
    have begun := Stage.Leads.begun stage name arguments
    have called := callAll_leads ih arguments (stage.actions.called name) (stage.begun name arguments)
    rw [fireWithin_succ_run]
    generalize (callAll (fireWithin levels) arguments (stage.actions.called name)).run
      (stage.begun name arguments) = outcome at called ⊢
    rcases outcome with ⟨fault | _, last⟩
    · have stopped : last.Leads (last.noting (.stopped name fault)) := .noting last fun _ => rfl
      exact (begun.trans called).trans stopped
    · have finished : last.Leads (last.noting (.finished name)) := .noting last fun _ => rfl
      exact (begun.trans called).trans finished

/-! ## The moments of a run -/

/-- The stages in which a script may do something: before the first step, after each step at the outermost
level or inside a callback, whether it ended in a fault or not, and when a firing enters a callback. -/
inductive Moment : Stage Argument → Prop where
  /-- Nothing is registered, and nothing fired. -/
  | start : Moment ⟨.empty, []⟩
  /-- A step was performed. -/
  | stepped {stage : Stage Argument} (levels : Nat) (step : Step Argument) (moment : Moment stage) :
    Moment (step.play levels stage).2
  /-- A firing called some of its callbacks and enters the next one. -/
  | entered {stage between : Stage Argument} (levels : Nat) (name : String) (arguments : List Argument)
    {passed rest : List (Registration (Scripted Argument))} {next : Registration (Scripted Argument)}
    (moment : Moment stage) (order : stage.actions.called name = passed ++ next :: rest)
    (called : (callAll (fireWithin levels) arguments passed).run (stage.begun name arguments) =
      (.ok (), between)) :
    Moment (between.calling arguments next)

/-- In every moment the counts and the numbers are right. -/
theorem Moment.sound {stage : Stage Argument} (moment : Moment stage) : stage.Sound := by
  induction moment with
  | start => exact ⟨fun _ => rfl, rfl⟩
  | stepped levels step _ ih => exact (playStep_leads (fireWithin_leads levels) step _).sound ih
  | @entered stage between levels name arguments passed rest next _ _ called ih =>
    have led := callAll_leads (fireWithin_leads levels) arguments passed (stage.begun name arguments)
    rw [called] at led
    have entering : between.Leads (between.calling arguments next) := .noting between fun _ => rfl
    exact (((Stage.Leads.begun stage name arguments).trans led).trans entering).sound ih

/-- Callbacks that are called one after another, from a stage to the last one. Each is entered with the
arguments in the stage that the one before it left behind, and its script is performed; the first that ends
in a fault is the last that is called. -/
inductive Visited (levels : Nat) (arguments : List Argument) :
    List (Registration (Scripted Argument)) → Stage Argument → Except Fault Unit → Stage Argument → Prop where
  /-- None is called. -/
  | none (stage : Stage Argument) : Visited levels arguments [] stage (.ok ()) stage
  /-- One is called, and then the others. -/
  | next {stage between last : Stage Argument} {result : Except Fault Unit}
    {registration : Registration (Scripted Argument)} {rest : List (Registration (Scripted Argument))}
    (played : (playAll (fireWithin levels) registration.callback.script).run
      (stage.calling arguments registration) = (.ok (), between))
    (others : Visited levels arguments rest between result last) :
    Visited levels arguments (registration :: rest) stage result last
  /-- One is called and raises. -/
  | raised {stage last : Stage Argument} {fault : Fault} {registration : Registration (Scripted Argument)}
    (played : (playAll (fireWithin levels) registration.callback.script).run
      (stage.calling arguments registration) = (.error fault, last)) :
    Visited levels arguments [registration] stage (.error fault) last

/-- Of the callbacks that are to be called the first ones are, and all of them unless one raises. -/
theorem visited_of_callAll (levels : Nat) (arguments : List Argument)
    (registrations : List (Registration (Scripted Argument))) {stage last : Stage Argument}
    {result : Except Fault Unit}
    (called : (callAll (fireWithin levels) arguments registrations).run stage = (result, last)) :
    ∃ visited, Visited levels arguments visited stage result last ∧ visited <+: registrations ∧
      (result = .ok () → visited = registrations) := by
  induction registrations generalizing stage with
  | nil =>
    obtain ⟨rfl, rfl⟩ : .ok () = result ∧ stage = last := Prod.mk.inj called
    exact ⟨[], .none stage, List.prefix_refl _, fun _ => rfl⟩
  | cons registration rest ih =>
    rw [callAll_cons_run] at called
    rcases played : (playAll (fireWithin levels) registration.callback.script).run
      (stage.calling arguments registration) with ⟨fault | _, between⟩
    · rw [played] at called
      obtain ⟨rfl, rfl⟩ : .error fault = result ∧ between = last := Prod.mk.inj called
      exact ⟨[registration], .raised played, ⟨rest, rfl⟩, nofun⟩
    · rw [played] at called
      obtain ⟨visited, visits, front, whole⟩ := ih called
      refine ⟨registration :: visited, .next played visits, ?_, fun passed => by rw [whole passed]⟩
      exact List.cons_prefix_cons.2 ⟨rfl, front⟩

/-- The event that is noted at the end of a firing. -/
def ending (name : String) : Except Fault Unit → Event Argument
  | .ok () => .finished name
  | .error fault => .stopped name fault

/-- A firing is begun, callbacks are called, and its end is noted. -/
theorem fireWithin_run {levels : Nat} {name : String} {arguments : List Argument}
    {stage last : Stage Argument} {result : Except Fault Unit}
    (called : (callAll (fireWithin levels) arguments (stage.actions.called name)).run
      (stage.begun name arguments) = (result, last)) :
    (fireWithin (levels + 1) name arguments).run stage = (result, last.noting (ending name result)) := by
  rw [fireWithin_succ_run, called]
  rcases result with _ | ⟨⟩ <;> rfl

/-- What a firing does that starts in a given stage. -/
structure FiringLaw (levels : Nat) (name : String) (arguments : List Argument) (stage : Stage Argument) :
    Prop where
  /-- A script that asks is told how many firings of an action were started, those included that still run
  or that a fault stopped. -/
  answered : ∀ action, (Step.count action).play levels stage =
    (.ok (some (started action stage.events)), stage)
  /-- When it starts, the firing raises its own count by one and no other. -/
  counted : ∀ action, (stage.begun name arguments).actions.count action =
    stage.actions.count action + if action = name then 1 else 0
  /-- When it starts, the firing registers nothing. -/
  unregistering : (stage.begun name arguments).actions.registrations = stage.actions.registrations
  /-- What it is to call are the callbacks that were registered under the name before. -/
  chosen : (stage.actions.called name).Perm
    (stage.actions.registrations.filter fun registration => registration.action = name)
  /-- No callback is to be called twice. -/
  once : ((stage.actions.called name).map Registration.sequence).Nodup
  /-- Callbacks of lower rank come first and, among equal ranks, those that were registered earlier. -/
  ordered : (∀ registration ∈ stage.actions.called name, registration.priority ≠ .undefined) →
    (stage.actions.called name).Pairwise Registration.IsBefore
  /-- The callbacks are called one after another with the arguments, nothing happening in between. All of
  them are called unless one raises: then it is the last, its fault is that of the firing, and the counts
  and registrations stay as it left them. -/
  called : ∃ visited result last,
    Visited levels arguments visited (stage.begun name arguments) result last ∧
      visited <+: stage.actions.called name ∧ (result = .ok () → visited = stage.actions.called name) ∧
        (fireWithin (levels + 1) name arguments).run stage = (result, last.noting (ending name result))
  /-- Registrations are only added meanwhile, and all of these have later numbers than those called. -/
  kept : ∃ added, ((fireWithin (levels + 1) name arguments).run stage).2.actions.registrations =
      stage.actions.registrations ++ added ∧
    ∀ registration ∈ added, ∀ earlier ∈ stage.actions.called name,
      earlier.sequence < registration.sequence

/-- Callbacks that are numbered one by one have the numbers of their places. -/
theorem Stage.Sound.oneByOne {stage : Stage Argument} (sound : stage.Sound) :
    stage.actions.registrations.Pairwise fun left right => left.sequence < right.sequence := by
  have increasing : (stage.actions.registrations.map Registration.sequence).Pairwise (· < ·) := by
    rw [sound.numbered]
    exact List.pairwise_lt_range
  exact List.pairwise_map.1 increasing

/-- Whenever a script fires an action, inside a running callback or not, the firing obeys its law. -/
theorem firing_obeys_law {stage : Stage Argument} (moment : Moment stage) (levels : Nat) (name : String)
    (arguments : List Argument) : FiringLaw levels name arguments stage := by
  have sound := moment.sound
  have chosen := stage.actions.called_perm name
  have oneByOne := sound.oneByOne.filter fun registration => registration.action = name
  have led := fireWithin_leads (levels + 1) name arguments stage
  constructor
  case answered =>
    intro action
    rw [← sound.counted action]
    rfl
  case counted => exact fun action => Actions.count_begin stage.actions name action
  case unregistering => rfl
  case chosen => exact chosen
  case once =>
    refine (chosen.map Registration.sequence).nodup_iff.2 ?_
    exact List.pairwise_map.2 (oneByOne.imp Nat.ne_of_lt)
  case ordered =>
    intro defined
    exact Registration.isBefore_inOrder (fun registration member => defined registration
      (chosen.mem_iff.2 member)) oneByOne
  case called =>
    rcases called : (callAll (fireWithin levels) arguments (stage.actions.called name)).run
      (stage.begun name arguments) with ⟨result, last⟩
    obtain ⟨visited, visits, front, whole⟩ := visited_of_callAll levels arguments _ called
    exact ⟨visited, result, last, visits, front, whole, fireWithin_run called⟩
  case kept =>
    obtain ⟨added, grown⟩ := led.kept
    refine ⟨added, grown.symm, fun registration member earlier earlierMember => ?_⟩
    have increasing := (led.sound sound).oneByOne
    rw [← grown] at increasing
    have known := (List.mem_filter.1 (chosen.mem_iff.1 earlierMember)).1
    exact (List.pairwise_append.1 increasing).2.2 earlier known registration member

/-- The law holds of a firing inside another one of the same action, begun by the callback that this one
called. -/
theorem law_of_firing_in_callback :
    let again : Registration (Scripted Nat) := ⟨"saved", .usual, 0, ⟨"again", [.fire "saved" [2] (some 2)]⟩⟩
    let registered : Stage Nat := ⟨⟨[again], []⟩, []⟩
    FiringLaw 1 "saved" [2] ((registered.begun "saved" [1]).calling [1] again) := by
  intro again registered
  have moment : Moment registered :=
    .stepped 2 (.add "saved" .usual "again" [.fire "saved" [2] (some 2)]) .start
  have order : registered.actions.called "saved" = [] ++ again :: [] := by
    simp [registered, again, Actions.called, Registration.inOrder, Priority.usual]
  exact firing_obeys_law (.entered 2 "saved" [1] moment order rfl) 1 "saved" [2]

end Actions

end LiveConsole
