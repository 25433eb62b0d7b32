import Mathlib.Data.List.TakeWhile
import LiveConsole.Proofs.Console.Raising
import LiveConsole.Proofs.Starter.Deferral

/-!
# A hook that fires while the bootstrap module is imported

The body of the bootstrap module binds names, fires actions, and may then raise or bind further names. Where
one of the actions is the hook, a console runs in the middle of the body, in the namespace of the module as
it is then. Such a console is the basic one here. What is left of the body goes on with what the console
made of the namespace, unless the console ended in a fault, which is then that of the body.
-/
namespace LiveConsole.Starter

open Program (Keeps)

variable {Reader Outside : Type} (around : Surroundings Reader Outside)

/-! ## A console in a known namespace -/

/-- A store in which the namespace of the consoles is known. -/
def inSpace (space : String) (store : Everything Outside) : Everything Outside :=
  let host := store.world
  { store with world := { host with outside := { host.outside with space := some space } } }

/-- A store in which a console is about to run in a namespace. -/
def opened (space : String) (store : Everything Outside) : Everything Outside :=
  inSpace space
    (withOutside
      (around.note ⟨.debug, logger, "Using " ++ Implementation.basic.name ++ " console"⟩ (outsideOf store))
      store)

/-- Run the basic console in a namespace: read loops whose code runs there, one after another. An exit code
is kept. -/
def runIn (call : Step Outside Unit) (space : String) (store : Everything Outside) :
    Except Fault Nat × Everything Outside :=
  let begun := opened around space store
  let (outcome, _, after) := Console.run (loopParts around call).surroundings around.options space
    (around.loops (outsideOf begun)) begun
  (outcome, keepOutcome outcome after)

/-- Whether consoles run in the namespace that a module has. -/
structure RunsIn (name space : String) (host : Host (State Outside)) : Prop where
  /-- The module counts as imported, with this namespace. -/
  loaded : host.loaded.lookup name = some space
  /-- No other namespace was found for the consoles. -/
  space : host.outside.space = none ∨ host.outside.space = some space

/-- Where a host grows, consoles go on to run in the namespace of the module. -/
theorem RunsIn.grows {name space : String} {before after : Host (State Outside)}
    (runs : RunsIn name space before) (grown : Grows (some name) before after) : RunsIn name space after where
  loaded := grown.loaded runs.loaded
  space := by
    rcases runs.space with unknown | known
    · exact grown.found unknown rfl runs.loaded
    · exact .inr (grown.space known)

/-- A namespace that is known already changes nothing when it is found again. -/
theorem inSpace_of_known {space : String} {store : Everything Outside}
    (known : store.world.outside.space = some space) : inSpace space store = store := by
  obtain ⟨heap, spaces, output, ⟨modules, loaded, bodies, actions, ⟨own, code, found, outside⟩⟩⟩ := store
  cases known
  rfl

/-- A namespace that is not known yet is found, and known from then on. -/
theorem namespaceKey_unknown (call : Step Outside Unit) {store : Everything Outside}
    (unknown : store.world.outside.space = none) :
    (namespaceKey around call).run store =
      (findSpace around call >>= fun space => do
        update fun state => { state with space := some space }
        return space).run store := by
  obtain ⟨heap, spaces, output, ⟨modules, loaded, bodies, actions, ⟨own, code, found, outside⟩⟩⟩ := store
  cases unknown
  rfl

/-- A namespace that is known is the one that consoles run in. -/
theorem namespaceKey_known (call : Step Outside Unit) {space : String} {store : Everything Outside}
    (known : store.world.outside.space = some space) :
    (namespaceKey around call).run store = (.ok space, store) := by
  obtain ⟨heap, spaces, output, ⟨modules, loaded, bodies, actions, ⟨own, code, found, outside⟩⟩⟩ := store
  cases known
  rfl

/-- What is done before the read loops opens the console in the namespace of the module. -/
theorem prepareBasic_run (call : Step Outside Unit) {name space : String} {store : Everything Outside}
    (names : bootstrap? around = some name) (runs : RunsIn name space store.world) :
    perform (prepareBasic around call) store = (.ok space, opened around space store) := by
  let noted := withOutside
    (around.note ⟨.debug, logger, "Using " ++ Implementation.basic.name ++ " console"⟩ (outsideOf store)) store
  have asked : perform (prepareBasic around call) store = (namespaceKey around call).run noted := rfl
  rw [asked]
  rcases runs.space with unknown | known
  · have found : (findSpace around call).run noted = (.ok space, noted) := findSpace_run around names runs.loaded
    have unknownToo : noted.world.outside.space = none := unknown
    rw [namespaceKey_unknown around call unknownToo, Host.run_bind, found]
    rfl
  · have knownToo : noted.world.outside.space = some space := known
    have same : inSpace space noted = noted := inSpace_of_known knownToo
    rw [namespaceKey_known around call knownToo, opened, same]

/-- A console ends in a fault that its code raises. -/
theorem runIn_of_raises {call : Step Outside Unit} {space : String} {store : Everything Outside} {fault : Fault}
    (raises : Console.Raises (loopParts around call) around.options space fault
      (around.loops (outsideOf (opened around space store))) (opened around space store)) :
    (runIn around call space store).1 = .error fault :=
  Console.run_of_raises (loopParts around call) around.options space fault raises

/-- What consoles inside of a console do when a request is answered. -/
def answerWithin (levels : Nat) : Step Outside Unit := do
  let _ ← runWithin around levels
  return ()

/-- A console answers the requests that are made inside of it by consoles of fewer levels. -/
theorem runWithin_succ (levels : Nat) :
    runWithin around (levels + 1) =
      runOnce around (answerWithin around levels) (loopParts around (answerWithin around levels)).surroundings :=
  rfl

/-- A request is answered by a console in the namespace of the module. -/
theorem answerHook_run {name space : String} {store : Everything Outside}
    (basic : implementation around = .basic) (names : bootstrap? around = some name)
    (runs : RunsIn name space store.world) :
    (answerHook around).run store =
      match runIn around (answerWithin around store.world.modules.length) space store with
      | (.ok _, after) => (.ok (), after)
      | (.error fault, after) => (.error fault, after) := by
  let call := answerWithin around store.world.modules.length
  rcases ran : Console.run (loopParts around call).surroundings around.options space
    (around.loops (outsideOf (opened around space store))) (opened around space store) with
    ⟨outcome, events, after⟩
  have once : (runOnce around call (loopParts around call).surroundings).run store =
      (outcome, keepOutcome outcome after) :=
    perform_runOnce around call _ basic (prepareBasic_run around call names runs) ran
  have deep : (levels : Step Outside Nat).run store = (.ok (store.world.modules.length + 1), store) := rfl
  have answered : (run around).run store = (outcome, keepOutcome outcome after) := by
    rw [run, Host.run_bind, deep]
    simp only
    rw [runWithin_succ, once]
  have shown : runIn around call space store = (outcome, keepOutcome outcome after) := by
    rw [runIn]
    simp only [ran]
  rw [answerHook, Host.run_bind, answered, shown]
  rcases outcome with _ | _ <;> rfl

/-! ## The actions that a module fires -/

/-- A store in which one more firing of an action of the host is counted. -/
def hostCounting (name : String) (store : Everything Outside) : Everything Outside :=
  let host := store.world
  { store with world := { host with actions := host.actions.begin name } }

/-- A firing of the host is counted, and then the requests are answered. -/
theorem hostFire_run (call : Step Outside Unit) (name : String) (store : Everything Outside) :
    (Host.fire call name).run store =
      ((store.world.actions.called name).forM fun _ => call).run (hostCounting name store) :=
  rfl

/-- What the firings of a module come to, one after another, for a starter that waits for a hook: each firing
of the hook runs a console in the namespace of the module, and a firing of another action runs none. The
outcomes of the consoles are given in order; one that is a fault is the last, and what would be fired behind
it is not. -/
inductive Hears (call : Step Outside Unit) (hook name space : String) :
    List String → Everything Outside → List (Except Fault Nat) → Everything Outside → Prop where
  /-- Nothing more is fired. -/
  | done (store : Everything Outside) : Hears call hook name space [] store [] store
  /-- Another action is only counted. -/
  | other {action : String} {rest : List String} {store last : Everything Outside}
    {outcomes : List (Except Fault Nat)} (different : action ≠ hook)
    (goesOn : Hears call hook name space rest (hostCounting action store) outcomes last) :
    Hears call hook name space (action :: rest) store outcomes last
  /-- The hook is counted, and a console runs in the namespace of the module and ends by itself. -/
  | ended {rest : List String} {store after last : Everything Outside} {code : Nat}
    {outcomes : List (Except Fault Nat)} (loaded : store.world.loaded.lookup name = some space)
    (ran : runIn around call space (hostCounting hook store) = (.ok code, after))
    (goesOn : Hears call hook name space rest after outcomes last) :
    Hears call hook name space (hook :: rest) store (.ok code :: outcomes) last
  /-- The hook is counted, and a console runs in the namespace of the module and ends in a fault. -/
  | stopped {rest : List String} {store last : Everything Outside} {fault : Fault}
    (loaded : store.world.loaded.lookup name = some space)
    (ran : runIn around call space (hostCounting hook store) = (.error fault, last)) :
    Hears call hook name space (hook :: rest) store [.error fault] last

/-- The fault that consoles ended in: that of the last one, if it is a fault. -/
def faultOf? (outcomes : List (Except Fault Nat)) : Option Fault :=
  match outcomes.getLast? with
  | some (.error fault) => some fault
  | _ => none

/-- The exit code that consoles ended with: that of the last one, if it is no fault. -/
def codeOf? (outcomes : List (Except Fault Nat)) : Option Nat :=
  match outcomes.getLast? with
  | some (.ok code) => some code
  | _ => none

/-- Behind a console that ended by itself the fault is that of those behind it. -/
theorem faultOf?_cons (code : Nat) (outcomes : List (Except Fault Nat)) :
    faultOf? (.ok code :: outcomes) = faultOf? outcomes := by
  unfold faultOf?
  rw [List.getLast?_cons]
  rcases outcomes.getLast? with _ | _ | _ <;> rfl

namespace Hears

variable {around} {call : Step Outside Unit} {hook name space : String} {fired : List String}
variable {store last : Everything Outside} {outcomes : List (Except Fault Nat)}

/-- A console starts where the hook is among the actions that are fired, and only there. -/
theorem mem_iff (hears : Hears around call hook name space fired store outcomes last) :
    hook ∈ fired ↔ outcomes ≠ [] := by
  induction hears with
  | done => simp
  | other different _ ih => rw [List.mem_cons, or_iff_right different.symm, ih]
  | ended | stopped => simp

/-- The first console begins with the namespaces as they were before the firings. -/
theorem first (hears : Hears around call hook name space fired store outcomes last)
    {outcome : Except Fault Nat} {rest : List (Except Fault Nat)} (some : outcomes = outcome :: rest) :
    ∃ begun after, (opened around space begun).spaces = store.spaces ∧
      runIn around call space begun = (outcome, after) := by
  induction hears with
  | done => cases some
  | other _ _ ih => exact ih some
  | ended _ ran _ =>
    cases some
    exact ⟨hostCounting hook _, _, rfl, ran⟩
  | stopped _ ran =>
    cases some
    exact ⟨hostCounting hook _, _, rfl, ran⟩

/-- Where the hook is fired and no console ends in a fault, there is a last console with an exit code. -/
theorem exists_code (hears : Hears around call hook name space fired store outcomes last) (fires : hook ∈ fired)
    (well : faultOf? outcomes = none) :
    ∃ code, outcomes.getLast? = some (.ok code) ∧ codeOf? outcomes = some code := by
  unfold faultOf? at well
  unfold codeOf?
  rcases final : outcomes.getLast? with _ | fault | code
  · exact absurd (List.getLast?_eq_none_iff.1 final) (hears.mem_iff.1 fires)
  · rw [final] at well
    cases well
  · exact ⟨code, rfl, rfl⟩

/-- Unless a console ends in a fault, the exit code that is kept is that of the last console; where none ran,
it is the one from before. -/
theorem exitCodeOf_last (hears : Hears around call hook name space fired store outcomes last)
    (well : faultOf? outcomes = none) : exitCodeOf last = (codeOf? outcomes).or (exitCodeOf store) := by
  induction hears with
  | done => rfl
  | other _ _ ih => exact ih well
  | @ended _ store after last code outcomes _ ran _ ih =>
    have kept : exitCodeOf after = some code := by
      unfold runIn at ran
      dsimp only at ran
      obtain ⟨outcome, rfl⟩ := Prod.mk.inj ran
      rw [outcome]
      rfl
    rw [faultOf?_cons] at well
    rw [ih well, kept]
    unfold faultOf? at well
    unfold codeOf?
    rw [List.getLast?_cons]
    generalize outcomes.getLast? = final at well ⊢
    rcases final with _ | _ | _
    · rfl
    · cases well
    · rfl
  | stopped => cases well

end Hears

/-- What is the case while a module is imported by whose names consoles start: the starter made the only
request to the actions of the host, and consoles run in the namespace of the module. -/
structure Waiting (hook name space : String) (levels : Nat) (host : Host (State Outside)) : Prop where
  /-- The hook is one of the host's actions. -/
  shared : host.outside.actions = none
  /-- The request. -/
  requested : ∃ number, host.actions.registrations = [⟨hook, .usual, number, ()⟩]
  /-- The namespace. -/
  runs : RunsIn name space host
  /-- The number of modules, which bounds how deep consoles are inside one another. -/
  modules : host.modules.length = levels

/-- Where a host grows, the starter goes on waiting. -/
theorem Waiting.grows {hook name space : String} {levels : Nat} {before after : Host (State Outside)}
    (waiting : Waiting hook name space levels before) (grown : Grows (some name) before after) :
    Waiting hook name space levels after where
  shared := by
    have own := grown.ownRequests
    rw [waiting.shared] at own
    exact Option.map_eq_none_iff.1 own
  requested := by
    obtain ⟨number, one⟩ := waiting.requested
    exact ⟨number, grown.hostRequests.trans one⟩
  runs := waiting.runs.grows grown
  modules := (congrArg List.length grown.modules).trans waiting.modules

/-- Counting a firing lets the host grow. -/
theorem hostCounting_grows {bootstrap : Option String} (action : String) (store : Everything Outside) :
    Grows bootstrap store.world (hostCounting action store).world :=
  .of_same rfl rfl rfl rfl rfl rfl

namespace Waiting

variable {around} {hook name space : String} {levels : Nat} {store : Everything Outside}
variable (waiting : Waiting hook name space levels store.world)
include waiting

/-- The hook is counted when it fires, and then the one request is answered. -/
theorem fire_hook_run (call : Step Outside Unit) :
    (Host.fire call hook).run store = call.run (hostCounting hook store) := by
  obtain ⟨number, one⟩ := waiting.requested
  have called : store.world.actions.called hook = [⟨hook, .usual, number, ()⟩] :=
    Actions.called_of_single _ (by rw [one]; simp) (by simp [Priority.usual])
  rw [hostFire_run, called, forM_cons_run]
  rcases call.run (hostCounting hook store) with ⟨_ | _, after⟩ <;> rfl

/-- Another action is only counted when it fires. -/
theorem fire_other_run (call : Step Outside Unit) {action : String} (different : action ≠ hook) :
    (Host.fire call action).run store = (.ok (), hostCounting action store) := by
  obtain ⟨number, one⟩ := waiting.requested
  have called : store.world.actions.called action = [] :=
    Actions.called_of_none _ (by rw [one]; simp [different.symm])
  rw [hostFire_run, called]
  rfl

/-- While a starter waits, its request is answered by a console in the namespace of the module. -/
theorem answer_run (basic : implementation around = .basic) (names : bootstrap? around = some name) :
    (answerHook around).run store =
      match runIn around (answerWithin around levels) space store with
      | (.ok _, after) => (.ok (), after)
      | (.error fault, after) => (.error fault, after) := by
  rw [answerHook_run around basic names waiting.runs, waiting.modules]

/-- Such a console lets the host grow. -/
theorem runIn_grows (basic : implementation around = .basic) (names : bootstrap? around = some name) :
    Grows (some name) store.world (runIn around (answerWithin around levels) space store).2.world := by
  have grown : Grows (some name) store.world ((answerHook around).run store).2.world := by
    rw [← names]
    exact answerHook_grows around store (.refl _)
  rw [waiting.answer_run basic names] at grown
  rcases ran : runIn around (answerWithin around levels) space store with ⟨_ | _, after⟩
  all_goals
    rw [ran] at grown
    exact grown

end Waiting

/-- The firings of a module are heard by the starter that waits for its hook; the fault of a console is that
of the firings. -/
theorem hears_of_waiting {hook name space : String} {levels : Nat} (fired : List String)
    {store : Everything Outside} (basic : implementation around = .basic)
    (names : bootstrap? around = some name) (waiting : Waiting hook name space levels store.world) :
    ∃ outcomes last,
      Hears around (answerWithin around levels) hook name space fired store outcomes last ∧
        (fired.forM (Host.fire (answerHook around))).run store =
          ((faultOf? outcomes).elim (.ok ()) .error, last) ∧
        Grows (some name) store.world last.world := by
  -- On the actions still to be fired; behind each of them the host has grown, so the starter goes on waiting.
  induction fired generalizing store with
  | nil => exact ⟨[], store, .done store, rfl, .refl _⟩
  | cons action rest ih =>
    have counted : Grows (some name) store.world (hostCounting action store).world :=
      hostCounting_grows action store
    have counting : Waiting hook name space levels (hostCounting action store).world := waiting.grows counted
    by_cases same : action = hook
    · subst same
      have grown := counting.runIn_grows basic names
      rw [forM_cons_run, waiting.fire_hook_run, counting.answer_run basic names]
      rcases ran : runIn around (answerWithin around levels) space (hostCounting action store) with
        ⟨fault | code, after⟩
      · rw [ran] at grown
        exact ⟨[.error fault], after, .stopped waiting.runs.loaded ran, rfl, counted.trans grown⟩
      · rw [ran] at grown
        obtain ⟨outcomes, last, hears, goesOn, further⟩ := ih (counting.grows grown)
        refine ⟨.ok code :: outcomes, last, .ended waiting.runs.loaded ran hears, ?_,
          (counted.trans grown).trans further⟩
        rw [faultOf?_cons]
        exact goesOn
    · rw [forM_cons_run, waiting.fire_other_run _ same]
      obtain ⟨outcomes, last, hears, goesOn, grown⟩ := ih counting
      exact ⟨outcomes, last, .other same hears, goesOn, counted.trans grown⟩

/-! ## The body of a module -/

/-- A namespace in which names are bound, in order. -/
def withBindings (bindings : List (String × Value)) (names : Namespace) : Namespace :=
  bindings.foldl (fun names binding => names.set binding.1 binding.2) names

/-- A store in which names are bound in a namespace. -/
def binding (space : String) (bindings : List (String × Value)) (store : Everything Outside) :
    Everything Outside :=
  store.setSpace space (withBindings bindings (store.space space))

/-- What is put under a key is found there. -/
theorem space_setSpace (store : Everything Outside) (key : String) (names : Namespace) :
    (store.setSpace key names).space key = names := by
  unfold Program.Store.setSpace Program.Store.space
  rw [List.lookup_cons_self]
  rfl

/-- A name that is bound in the namespace of the code that asks for it is what it is bound to. -/
theorem eval_name_run {scope : Program.Scope (Host (State Outside))} {text : String} {value : Value}
    {store : Everything Outside} (found : (store.space scope.space).get? text = some value) :
    (Program.eval scope (.name text)).run store = (.ok value, store) := by
  have asked : (get : Step Outside (Everything Outside)).run store = (.ok store, store) := rfl
  rw [Program.eval, Program.lookupName, Host.run_bind, asked]
  simp only [found]
  rfl

/-- An assignment binds its name in the namespace of the code that it is part of. -/
theorem space_of_assign {scope : Program.Scope (Host (State Outside))} {text : String} {expression : Program.Expr}
    {value : Value} {store after : Everything Outside}
    (evaluated : (Program.eval scope expression).run store = (.ok value, after)) :
    ((Program.runSimple scope (.assign [text] expression)).run store).2.space scope.space =
      (after.space scope.space).set text value := by
  have assigned : (Program.runSimple scope (.assign [text] expression)).run store =
      (Program.bindName scope text value).run after := by
    rw [Program.runSimple, Host.run_bind, evaluated]
    rfl
  rw [assigned]
  exact space_setSpace ..

/-- The body of a module binds names, fires actions, and raises its fault or binds further names. -/
theorem runBody_run (call : Step Outside Unit) (space name : String) (module : HostModule)
    (store : Everything Outside) :
    (Host.runBody call space name module).run store =
      match (module.fires.forM (Host.fire call)).run
        (binding space (Host.initialNames name ++ module.early) store) with
      | (.error fault, last) => (.error fault, last)
      | (.ok _, last) =>
        match module.fault with
        | some fault => (.error fault, last)
        | none => (.ok (), binding space module.late last) := by
  have begun : (Host.runBody call space name module).run store = (do
      module.fires.forM (Host.fire call)
      match module.fault with
      | some fault => throw fault
      | none => Host.bindAll space module.late : Step Outside Unit).run
        (binding space (Host.initialNames name ++ module.early) store) :=
    rfl
  rw [begun, Host.run_bind]
  rcases (module.fires.forM (Host.fire call)).run
    (binding space (Host.initialNames name ++ module.early) store) with ⟨_ | _, last⟩
  · rfl
  · cases module.fault <;> rfl

/-- Whether the import of a name finds a module of the host, which stands in no other one and has not the name
of a module that every host has. -/
structure Finds (modules : List (String × HostModule)) (name : String) (module : HostModule) : Prop where
  /-- There is a name. -/
  named : name ≠ ""
  /-- The name has one part only. -/
  plain : '.' ∉ name.toList
  /-- No module that every host has is found. -/
  own : Host.StandardModule.all.lookup name = none
  /-- The module is one of the host's. -/
  listed : modules.lookup name = some module

/-- A text without a separator is one piece. -/
theorem splitAt_of_notMem {separator : Char} {text : List Char} (plain : separator ∉ text) :
    Text.splitAt separator text = [text] := by
  induction text with
  | nil => rfl
  | cons c rest ih =>
    rw [List.mem_cons, not_or] at plain
    rw [Text.splitAt, if_neg (Ne.symm plain.1), ih plain.2]

/-- The import of a name of one part imports the module of that name. -/
theorem importModule_run (call : Step Outside Unit) {name : String} (plain : '.' ∉ name.toList)
    (store : Everything Outside) :
    (Host.importModule call name).run store = (Host.importWhole call name).run store := by
  have whole : Program.topModule name = name := by
    have all : name.toList.takeWhile (· != '.') = name.toList := by
      rw [List.takeWhile_eq_self_iff]
      intro c member
      simp only [bne_iff_ne, ne_eq]
      rintro rfl
      exact plain member
    rw [Program.topModule, all, String.ofList_toList]
  have absolute : name.startsWith "." = false := by
    rw [← Bool.not_eq_true]
    intro relative
    simp only [String.startsWith_string_iff] at relative
    exact plain (relative.subset (by decide))
  have alone : (Text.splitAt '.' name.toList).tail.map String.ofList = [] := by
    rw [splitAt_of_notMem plain]
    rfl
  have direct : (Host.importModule call name).run store = (do
      Host.importInside call name (← Host.importWhole call name) [] : Step Outside String).run store := by
    unfold Host.importModule
    rw [absolute, whole, alone]
    rfl
  rw [direct, Host.run_bind]
  rcases (Host.importWhole call name).run store with ⟨_ | _, after⟩ <;> rfl

/-- The first import of a module of the host runs its body. -/
theorem importModule_run_of_finds (call : Step Outside Unit) {name : String} {module : HostModule}
    {store : Everything Outside} (finds : Finds store.world.modules name module)
    (unknown : store.world.loaded.lookup name = none) :
    (Host.importModule call name).run store =
      match (Host.runBody call (freshSpaceOf name store) name module).run
        (importing name (freshSpaceOf name store) store) with
      | (.ok _, after) => (.ok (freshSpaceOf name store), after)
      | (.error fault, after) => (.error fault, takenBack name after) := by
  rw [importModule_run call finds.plain, importWhole_run call finds.own, unknown, finds.listed]
  exact importBody_run call name module store

/-- The first import of the module by whose names consoles start, where it is known what its firings come to:
the import ends in the fault of a console, or else in that of the body, and is taken back then. -/
theorem importModule_run_of_fired {name : String} {module : HostModule} {store last : Everything Outside}
    {outcomes : List (Except Fault Nat)} (finds : Finds store.world.modules name module)
    (unknown : store.world.loaded.lookup name = none)
    (fired : (module.fires.forM (Host.fire (answerHook around))).run
      (binding (freshSpaceOf name store) (Host.initialNames name ++ module.early)
        (importing name (freshSpaceOf name store) store)) = ((faultOf? outcomes).elim (.ok ()) .error, last)) :
    (importModule around name).run store =
      match (faultOf? outcomes).or module.fault with
      | some fault => (.error fault, takenBack name last)
      | none => (.ok (), binding (freshSpaceOf name store) module.late last) := by
  rw [importModule, Host.run_bind, importModule_run_of_finds _ finds unknown, runBody_run, fired]
  rcases faultOf? outcomes with _ | fault
  · rcases module.fault with _ | fault <;> rfl
  · rfl

end LiveConsole.Starter
