import LiveConsole.Proofs.Console.Keeping
import LiveConsole.Proofs.Host.Import
import LiveConsole.Proofs.Program.Evaluating
import LiveConsole.Starter.Run

/-!
# What a starter adds to

Consoles run code, code imports modules, modules fire actions, and these may start further consoles. All
that only adds to what the host and the starter know: a module that counts as imported keeps its namespace
and its body is not started again, no request to start a console is lost or made, and once the namespace of
the consoles is known it stays. A module that is being imported for the first time is the only one
whose import can be taken back, and only by itself.
-/
namespace LiveConsole.Starter

open Program (Keeps)

variable {Reader Outside : Type}

/-! ## How the host may go on -/

/-- How the host and the starter may follow what they were before, for consoles that start with the names of
a module, if with any. -/
structure Grows (bootstrap : Option String) (before after : Host (State Outside)) : Prop where
  /-- No module appears or disappears. -/
  modules : after.modules = before.modules
  /-- The requests made to the host stay, and no other is made. -/
  hostRequests : after.actions.registrations = before.actions.registrations
  /-- The requests made to actions of the starter's own stay, and no other is made. -/
  ownRequests : after.outside.actions.map Actions.registrations =
    before.outside.actions.map Actions.registrations
  /-- A module that counts as imported keeps its namespace. -/
  loaded : ∀ {name space}, before.loaded.lookup name = some space → after.loaded.lookup name = some space
  /-- The body of a module that counts as imported is not started again. -/
  bodies : ∀ {name space}, before.loaded.lookup name = some space →
    after.bodies.count name = before.bodies.count name
  /-- A namespace of the consoles that is known stays. -/
  space : ∀ {space}, before.outside.space = some space → after.outside.space = some space
  /-- One that is not known yet is that of the module with whose names the consoles start, where this counts
  as imported. -/
  found : ∀ {name space}, before.outside.space = none → bootstrap = some name →
    before.loaded.lookup name = some space →
      after.outside.space = none ∨ after.outside.space = some space

namespace Grows

variable {bootstrap : Option String} {first second third : Host (State Outside)}

/-- What stays as it is grows. -/
theorem refl (host : Host (State Outside)) : Grows bootstrap host host :=
  ⟨rfl, rfl, rfl, id, fun _ => rfl, id, fun unknown _ _ => .inl unknown⟩

/-- What grows out of something grown grows. -/
theorem trans (begins : Grows bootstrap first second) (goesOn : Grows bootstrap second third) :
    Grows bootstrap first third where
  modules := goesOn.modules.trans begins.modules
  hostRequests := goesOn.hostRequests.trans begins.hostRequests
  ownRequests := goesOn.ownRequests.trans begins.ownRequests
  loaded known := goesOn.loaded (begins.loaded known)
  bodies known := (goesOn.bodies (begins.loaded known)).trans (begins.bodies known)
  space known := goesOn.space (begins.space known)
  found unknown names known := by
    rcases begins.found unknown names known with still | now
    · exact goesOn.found still names (begins.loaded known)
    · exact .inr (goesOn.space now)

/-- What is outside of the starter, the exit code and the counts of firings may change freely. -/
theorem of_same {host after : Host (State Outside)} (modules : after.modules = host.modules)
    (hostRequests : after.actions.registrations = host.actions.registrations)
    (ownRequests : after.outside.actions.map Actions.registrations =
      host.outside.actions.map Actions.registrations)
    (loaded : after.loaded = host.loaded) (bodies : after.bodies = host.bodies)
    (space : after.outside.space = host.outside.space) : Grows bootstrap host after where
  modules := modules
  hostRequests := hostRequests
  ownRequests := ownRequests
  loaded := by rw [loaded]; exact id
  bodies _ := by rw [bodies]
  space := by rw [space]; exact id
  found unknown _ _ := .inl (space.trans unknown)

/-- A namespace of the consoles that was not known becomes known; where the module with whose names they
start counted as imported before, it is that of the module. -/
theorem settled {host after : Host (State Outside)} {space : String} (grown : Grows bootstrap host after)
    (unknown : host.outside.space = none)
    (same : ∀ {name found}, bootstrap = some name → host.loaded.lookup name = some found → space = found) :
    Grows bootstrap host
      { after with outside := { after.outside with space := some space } } where
  modules := grown.modules
  hostRequests := grown.hostRequests
  ownRequests := grown.ownRequests
  loaded := grown.loaded
  bodies := grown.bodies
  space known := by
    rw [unknown] at known
    cases known
  found _ names known := .inr (congrArg some (same names known))

/-- A module that was not imported may be marked as imported. -/
theorem marked {host : Host (State Outside)} {name : String} (space : String)
    (unknown : host.loaded.lookup name = none) :
    Grows bootstrap host
      { host with loaded := (name, space) :: host.loaded, bodies := name :: host.bodies } := by
  have apart : ∀ {other found}, host.loaded.lookup other = some found → other ≠ name := by
    rintro other found known rfl
    rw [unknown] at known
    cases known
  refine ⟨rfl, rfl, rfl, fun known => ?_, fun known => ?_, id, fun unknown _ _ => .inl unknown⟩
  · rw [List.lookup_cons, beq_false_of_ne (apart known)]
    exact known
  · exact List.count_cons_of_ne (apart known).symm

/-- A module that was not imported before may be so no longer. -/
theorem unmarked {host after : Host (State Outside)} {name space : String}
    (unknown : host.loaded.lookup name = none)
    (grown : Grows bootstrap
      { host with loaded := (name, space) :: host.loaded, bodies := name :: host.bodies } after) :
    Grows bootstrap host
      { after with loaded := after.loaded.filter fun entry => entry.1 ≠ name } := by
  have whole := (marked space unknown).trans grown
  have kept : ∀ {other found}, host.loaded.lookup other = some found →
      (after.loaded.filter fun entry => entry.1 ≠ name).lookup other = after.loaded.lookup other := by
    intro other found known
    refine Actions.lookup_filter_ne _ fun same => ?_
    rw [same, unknown] at known
    cases known
  refine ⟨whole.modules, whole.hostRequests, whole.ownRequests, fun known => ?_, whole.bodies, whole.space,
    whole.found⟩
  rw [kept known]
  exact whole.loaded known

end Grows

/-! ## Imports -/

/-- A store in which a module counts as imported whose body is about to run in a namespace. -/
def importing (name space : String) (store : Everything Outside) : Everything Outside :=
  let host := store.world
  { store with
    world := { host with loaded := (name, space) :: host.loaded, bodies := name :: host.bodies } }

/-- A store in which a module no longer counts as imported. -/
def takenBack (name : String) (store : Everything Outside) : Everything Outside :=
  let host := store.world
  { store with world := { host with loaded := host.loaded.filter fun entry => entry.1 ≠ name } }

/-- The namespace that a module gets whose body is the next to be started. -/
def freshSpaceOf (name : String) (store : Everything Outside) : String :=
  s!"{name} {store.world.bodies.length}"

/-- Import a module of the host that does not count as imported. -/
def importBody (call : Step Outside Unit) (name : String) (module : HostModule) : Step Outside String := do
  let space ← Host.nextSpace name
  Host.markLoaded name space
  try Host.runBody call space name module
  catch fault =>
    Host.unmarkLoaded name
    throw fault
  return space

/-- Such an import runs the body of the module; a fault of the body takes the import back. -/
theorem importBody_run (call : Step Outside Unit) (name : String) (module : HostModule)
    (store : Everything Outside) :
    (importBody call name module).run store =
      match (Host.runBody call (freshSpaceOf name store) name module).run
        (importing name (freshSpaceOf name store) store) with
      | (.ok _, after) => (.ok (freshSpaceOf name store), after)
      | (.error fault, after) => (.error fault, takenBack name after) := by
  have begun : (importBody call name module).run store = (do
      try Host.runBody call (freshSpaceOf name store) name module
      catch fault =>
        Host.unmarkLoaded name
        throw fault
      return freshSpaceOf name store : Step Outside String).run
        (importing name (freshSpaceOf name store) store) :=
    rfl
  rw [begun, Host.run_bind, Host.run_tryCatch]
  rcases (Host.runBody call (freshSpaceOf name store) name module).run
    (importing name (freshSpaceOf name store) store) with ⟨_ | _, after⟩ <;> rfl

/-- A module of the host is imported by running its body, unless it counts as imported. -/
theorem importWhole_run (call : Step Outside Unit) {name : String}
    (own : Host.StandardModule.all.lookup name = none) (store : Everything Outside) :
    (Host.importWhole call name).run store =
      match store.world.loaded.lookup name with
      | some space => (.ok space, store)
      | none =>
        match store.world.modules.lookup name with
        | none => (.error (Host.missing name), store)
        | some module => (importBody call name module).run store := by
  have looked : (Host.importWhole call name).run store =
      (match store.world.loaded.lookup name with
        | some space => return space
        | none =>
          match store.world.modules.lookup name with
          | none => throw (Host.missing name)
          | some module => importBody call name module : Step Outside String).run store := by
    unfold Host.importWhole
    rw [own]
    rfl
  rw [looked]
  split
  · rfl
  · split <;> rfl

section Import

variable {bootstrap : Option String} {origin : Host (State Outside)}

/-- A change of the host by which it grows lets it grow. -/
theorem update_grows {change : Host (State Outside) → Host (State Outside)}
    (grows : ∀ host, Grows bootstrap host (change host)) :
    Keeps (Grows bootstrap origin) (Host.update change) :=
  fun store held => held.trans (grows store.world)

/-- Looking at the host changes nothing. -/
theorem current_grows : Keeps (Grows bootstrap origin) (Host.current : Step Outside (Host (State Outside))) :=
  fun _ held => held

/-- Binding names changes nothing that the host knows. -/
theorem bindAll_grows (space : String) (bindings : List (String × Value)) :
    Keeps (Grows bootstrap origin) (Host.bindAll space bindings : Step Outside Unit) :=
  .modify fun _ => rfl

/-- What is done with the host as it is now grows if it does so in every store. -/
theorem current_bind_grows {Result : Type} {next : Host (State Outside) → Step Outside Result}
    (behind : ∀ store : Everything Outside, Grows bootstrap origin store.world →
      Grows bootstrap origin ((next store.world).run store).2.world) :
    Keeps (Grows bootstrap origin) (Host.current >>= next) :=
  behind

/-- What a name of a standard module is bound to is made outside of the host. -/
theorem standardValue_grows (name : String) (value : Host.StandardValue) :
    Keeps (Grows bootstrap origin) (Host.standardValue name value : Step Outside Value) := by
  cases value with
  | nothing | flag _ | function | module _ => exact .pure _
  | integer _ => exact Program.newInt_keeps _
  | text _ => exact Program.newText_keeps _
  | number _ => exact Program.freshIdent_keeps.bind fun _ => .pure _

/-- A module that every host has is imported once. -/
theorem importStandard_grows (name : String) (module : Host.StandardModule) :
    Keeps (Grows bootstrap origin) (Host.importStandard name module : Step Outside String) := by
  refine current_bind_grows fun store held => ?_
  rcases unknown : store.world.loaded.lookup name with _ | space
  · have bound : Keeps (Grows bootstrap origin) (do
        Host.bindStandard (s!"{name} {store.world.bodies.length}") module
        return s!"{name} {store.world.bodies.length}" : Step Outside String) := by
      refine Keeps.bind ((bindAll_grows _ _).bind fun _ => .forM (fun binding => ?_) _) fun _ => .pure _
      exact (standardValue_grows _ _).bind fun _ => bindAll_grows _ _
    exact bound { store with world := _ } (held.trans (.marked _ unknown))
  · exact held

variable {call : Step Outside Unit} (callGrows : ∀ origin, Keeps (Grows bootstrap origin) call)
include callGrows

/-- A host grows while it fires an action if it does while requests are answered. -/
theorem fire_grows (name : String) : Keeps (Grows bootstrap origin) (Host.fire call name) := by
  refine Keeps.bind (update_grows fun host => ?_) fun _ => current_grows.bind fun host => ?_
  · exact .of_same rfl rfl rfl rfl rfl rfl
  · exact .forM (fun _ => callGrows origin) _

/-- A host grows while the body of a module runs. -/
theorem runBody_grows (space name : String) (module : HostModule) :
    Keeps (Grows bootstrap origin) (Host.runBody call space name module) := by
  refine (bindAll_grows _ _).bind fun _ => ?_
  refine Keeps.bind (.forM (fire_grows callGrows) _) fun _ => ?_
  cases module.fault with
  | some fault => exact .throw fault
  | none => exact bindAll_grows _ _

/-- A host grows while a module is imported that does not count as imported: where the body ends in a fault,
the module is as it was before. -/
theorem importBody_grows {name : String} (module : HostModule) {store : Everything Outside}
    (unknown : store.world.loaded.lookup name = none) :
    Grows bootstrap store.world ((importBody call name module).run store).2.world := by
  have ran := runBody_grows callGrows (freshSpaceOf name store) name module
    (importing name (freshSpaceOf name store) store) (.refl _)
  rw [importBody_run]
  generalize (Host.runBody call (freshSpaceOf name store) name module).run
    (importing name (freshSpaceOf name store) store) = outcome at ran ⊢
  rcases outcome with ⟨_ | _, after⟩
  · exact .unmarked unknown ran
  · exact (Grows.marked _ unknown).trans ran

/-- A host grows while a module is imported by its whole name. -/
theorem importWhole_grows (name : String) : Keeps (Grows bootstrap origin) (Host.importWhole call name) := by
  rcases own : Host.StandardModule.all.lookup name with _ | standard
  · intro store held
    rw [importWhole_run call own]
    rcases unknown : store.world.loaded.lookup name with _ | space
    · rcases store.world.modules.lookup name with _ | module
      · exact held
      · exact held.trans (importBody_grows callGrows module unknown)
    · exact held
  · unfold Host.importWhole
    rw [own]
    exact importStandard_grows name standard

/-- A host grows while a module is imported part by part. -/
theorem importInside_grows (outer space : String) (parts : List String) :
    Keeps (Grows bootstrap origin) (Host.importInside call outer space parts) := by
  induction parts generalizing outer space with
  | nil => exact .pure space
  | cons part parts ih =>
    simp only [Host.importInside]
    split
    · exact (importWhole_grows callGrows _).bind fun space => ih _ space
    · exact .throw _

/-- A host grows while a module is imported. -/
theorem importModule_grows (name : String) : Keeps (Grows bootstrap origin) (Host.importModule call name) := by
  have whole : Keeps (Grows bootstrap origin) (do
      Host.importInside call (Program.topModule name)
        (← Host.importWhole call (Program.topModule name))
        ((Text.splitAt '.' name.toList).tail.map String.ofList) : Step Outside String) :=
    (importWhole_grows callGrows _).bind fun _ => importInside_grows callGrows _ _ _
  unfold Host.importModule
  split
  · exact Keeps.bind (.throw _) fun _ => whole
  · exact whole

end Import

/-! ## Consoles -/

section Consoles

variable (around : Surroundings Reader Outside) {origin : Host (State Outside)}

/-- Taking note of something changes nothing that the host or the starter knows. -/
theorem note_grows (level : Level) (message : String) :
    Keeps (Grows (bootstrap? around) origin) (note around level message) :=
  update_grows fun _ => .of_same rfl rfl rfl rfl rfl rfl

/-- What is done outside of the starter changes nothing that the host or the starter knows. -/
theorem withOutside_grows (outside : Outside) (store : Everything Outside)
    (held : Grows (bootstrap? around) origin store.world) :
    Grows (bootstrap? around) origin (withOutside outside store).world :=
  held.trans (.of_same rfl rfl rfl rfl rfl rfl)

/-- What acts on what is outside of the starter changes nothing that the host or the starter knows. -/
theorem actOutside_grows {Result : Type} (act : Outside → Result × Outside) (store : Everything Outside)
    (held : Grows (bootstrap? around) origin store.world) :
    Grows (bootstrap? around) origin (actOutside act store).2.world :=
  withOutside_grows around _ store held

variable {call : Step Outside Unit}
  (callGrows : ∀ origin, Keeps (Grows (bootstrap? around) origin) call)
include callGrows

/-- Looking for the namespace of the consoles lets the host grow. -/
theorem findSpace_grows : Keeps (Grows (bootstrap? around) origin) (findSpace around call) := by
  unfold findSpace
  split
  · exact (bindAll_grows _ _).bind fun _ => .pure _
  · refine current_grows.bind fun host => ?_
    split
    · exact .pure _
    · exact importModule_grows callGrows _

omit callGrows in
/-- Where the module with whose names the consoles start counts as imported, its namespace is found. -/
theorem findSpace_run {store : Everything Outside} {name space : String} (names : bootstrap? around = some name)
    (known : store.world.loaded.lookup name = some space) :
    (findSpace around call).run store = (.ok space, store) := by
  have looked : (findSpace around call).run store =
      (match store.world.loaded.lookup name with
        | some space => return space
        | none => Host.importModule call name : Step Outside String).run store := by
    unfold findSpace
    rw [names]
    rfl
  rw [looked, known]
  rfl

/-- Finding the namespace of the consoles lets the host grow. -/
theorem namespaceKey_grows : Keeps (Grows (bootstrap? around) origin) (namespaceKey around call) := by
  intro store held
  have asked : (namespaceKey around call).run store =
      (match store.world.outside.space with
        | some space => return space
        | none => do
          let space ← findSpace around call
          update fun state => { state with space := some space }
          return space : Step Outside String).run store := by
    rfl
  rw [asked]
  rcases unknown : store.world.outside.space with _ | space
  · have grown : Grows (bootstrap? around) store.world ((findSpace around call).run store).2.world :=
      findSpace_grows around callGrows store (.refl _)
    have found : ∀ name space, bootstrap? around = some name →
        store.world.loaded.lookup name = some space →
          (findSpace around call).run store = (.ok space, store) :=
      fun _ _ => findSpace_run around
    simp only
    rw [Host.run_bind]
    generalize (findSpace around call).run store = outcome at grown found ⊢
    rcases outcome with ⟨_ | space, after⟩
    · exact held.trans grown
    · refine held.trans (Grows.settled grown unknown fun names known => ?_)
      have same := found _ _ names known
      cases same
      rfl
  · exact held

/-- The parts of the read loops of the basic console let the host grow. -/
theorem loopParts_grows :
    (loopParts around call).Preserves fun store => Grows (bootstrap? around) origin store.world where
  reader := actOutside_grows around around.build
  watch path := actOutside_grows around (around.arm path)
  around space reader :=
    { read := fun prompt => actOutside_grows around (around.read reader prompt)
      announce := fun _ _ store => withOutside_grows around _ store
      execute := fun code store held => by
        refine Program.execute_keeps ⟨fun name => ?_, fun remark => ?_⟩ code held
        · exact (importModule_grows callGrows name).bind fun _ => .pure _
        · exact update_grows fun _ => .of_same rfl rfl rfl rfl rfl rfl
      changed := fun watch => actOutside_grows around (around.changed watch) }
  finish code events store held := by
    refine withOutside_grows around _ _ ?_
    split <;> exact held
  replace command := actOutside_grows around _

/-- The basic console lets the host grow. -/
theorem runBasic_grows :
    Keeps (Grows (bootstrap? around) origin)
      (runBasic around call (loopParts around call).surroundings) := by
  refine (namespaceKey_grows around callGrows).bind fun space store held => ?_
  have ran := Console.run_preserves (loopParts_grows around callGrows).surroundings around.options space
    (around.loops (outsideOf store)) held
  have here : (get : Step Outside (Everything Outside)).run store = (.ok store, store) := rfl
  rw [Host.run_bind, here]
  dsimp only
  generalize Console.run (loopParts around call).surroundings around.options space
    (around.loops (outsideOf store)) store = outcome at ran ⊢
  rcases outcome with ⟨_ | code, events, after⟩
  · exact ran
  · exact ran

/-- A console lets the host grow. -/
theorem runOnce_grows :
    Keeps (Grows (bootstrap? around) origin)
      (runOnce around call (loopParts around call).surroundings) := by
  have ended : ∀ code : Nat, Keeps (Grows (bootstrap? around) origin) (do
      update fun state => { state with exitCode := some code }
      return code : Step Outside Nat) := fun code =>
    Keeps.bind (update_grows fun _ => .of_same rfl rfl rfl rfl rfl rfl) fun _ => .pure code
  have other : ∀ implementation,
      Keeps (Grows (bootstrap? around) origin) (runOther around call implementation) := by
    intro implementation
    refine (namespaceKey_grows around callGrows).bind fun space => Keeps.get.bind fun store => ?_
    exact Keeps.bind (update_grows fun _ => .of_same rfl rfl rfl rfl rfl rfl) fun _ => .pure _
  refine (note_grows around _ _).bind fun _ => ?_
  cases implementation around with
  | basic => exact (runBasic_grows around callGrows).bind ended
  | _ => exact (other _).bind ended

omit callGrows

/-- Consoles let the host grow, however deep they are inside one another. -/
theorem runWithin_grows (levels : Nat) : Keeps (Grows (bootstrap? around) origin) (runWithin around levels) := by
  induction levels generalizing origin with
  | zero => exact .throw _
  | succ levels ih => exact runOnce_grows around fun _ => ih.bind fun _ => .pure ()

/-- Running a console lets the host grow. -/
theorem run_grows : Keeps (Grows (bootstrap? around) origin) (run around) :=
  (current_grows.bind fun _ => .pure _).bind fun levels => runWithin_grows around levels

/-- Answering a request lets the host grow. -/
theorem answerHook_grows : Keeps (Grows (bootstrap? around) origin) (answerHook around) :=
  (run_grows around).bind fun _ => .pure ()

end Consoles

end LiveConsole.Starter
