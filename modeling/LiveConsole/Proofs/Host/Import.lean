import LiveConsole.Host.Import

/-!
# What an import leaves alone

Imports change the namespaces, the heap and what the host knows of its modules and actions. What is outside
of the host is changed only by the answers to the requests that the body of a module makes when it fires
an action. So whatever those answers leave alone out there, an import leaves alone too.
-/
namespace LiveConsole.Host

variable {Outside View First Result : Type} {seen : Outside → View}

/-- A step behind another one is run on what that leaves, unless it ends in a fault. -/
theorem run_bind (first : Step Outside First) (next : First → Step Outside Result)
    (store : Program.Store (Host Outside)) :
    (first >>= next).run store =
      match first.run store with
      | (.ok value, after) => (next value).run after
      | (.error fault, after) => (.error fault, after) := by
  simp only [ExceptT.run, bind, ExceptT.bind, ExceptT.mk, StateT.bind, ExceptT.bindCont]
  rcases first store with ⟨fault | value, after⟩ <;> rfl

/-- A step that answers a fault runs the answer on what the fault left. -/
theorem run_tryCatch (step : Step Outside Result) (answer : Fault → Step Outside Result)
    (store : Program.Store (Host Outside)) :
    (tryCatch step answer).run store =
      match step.run store with
      | (.ok value, after) => (.ok value, after)
      | (.error fault, after) => (answer fault).run after := by
  simp only [ExceptT.run, tryCatch, tryCatchThe, MonadExceptOf.tryCatch, ExceptT.tryCatch, ExceptT.mk, bind,
    StateT.bind]
  rcases step store with ⟨fault | value, after⟩ <;> rfl

/-- Whether a step leaves something outside of the host alone, whatever it comes to. -/
def Leaves (seen : Outside → View) (step : Step Outside Result) : Prop :=
  ∀ store, seen (step.run store).2.world.outside = seen store.world.outside

namespace Leaves

/-- A value changes nothing. -/
theorem pure (value : Result) : Leaves seen (Pure.pure value : Step Outside Result) := fun _ => rfl

/-- A fault changes nothing. -/
theorem throw (fault : Fault) : Leaves seen (throw fault : Step Outside Result) := fun _ => rfl

/-- Looking at the host changes nothing. -/
theorem current : Leaves seen (current : Step Outside (Host Outside)) := fun _ => rfl

/-- A step behind another one leaves alone what both do. -/
theorem bind {first : Step Outside First} {next : First → Step Outside Result}
    (before : Leaves seen first) (behind : ∀ value, Leaves seen (next value)) :
    Leaves seen (first >>= next) := by
  intro store
  have kept := before store
  rw [run_bind]
  rcases ran : first.run store with ⟨fault | value, after⟩ <;> rw [ran] at kept
  · exact kept
  · exact (behind value after).trans kept

/-- A step that answers the faults of another one leaves alone what both do. -/
theorem answered {step : Step Outside Result} {answer : Fault → Step Outside Result}
    (before : Leaves seen step) (behind : ∀ fault, Leaves seen (answer fault)) :
    Leaves seen (tryCatch step answer) := by
  intro store
  have kept := before store
  rw [run_tryCatch]
  rcases ran : step.run store with ⟨fault | value, after⟩ <;> rw [ran] at kept
  · exact (behind fault after).trans kept
  · exact kept

/-- A change of what is inside of the host leaves alone what is outside. -/
theorem modify {change : Program.Store (Host Outside) → Program.Store (Host Outside)}
    (inside : ∀ store, (change store).world.outside = store.world.outside) :
    Leaves seen (modify change : Step Outside Unit) := fun store => congrArg seen (inside store)

/-- Something new out of the heap changes nothing outside. -/
theorem takeNew (take : Heap → Heap × Result) :
    Leaves seen (Program.takeNew take : Step Outside Result) := fun _ => rfl

/-- Steps for the members of a list leave alone what each of them does. -/
theorem forM {step : First → Step Outside Unit} (each : ∀ value, Leaves seen (step value)) :
    ∀ values : List First, Leaves seen (values.forM step)
  | [] => .pure ()
  | value :: values => (each value).bind fun _ => forM each values

end Leaves

/-! ## Imports -/

/-- Binding names changes nothing outside of the host. -/
theorem bindAll_leaves (space : String) (bindings : List (String × Value)) :
    Leaves seen (bindAll space bindings) := .modify fun _ => rfl

/-- A value that a name of a standard module is bound to changes nothing outside of the host. -/
theorem standardValue_leaves (name : String) (value : StandardValue) :
    Leaves seen (standardValue name value : Step Outside Value) := by
  cases value with
  | nothing | flag _ | function | module _ => exact .pure _
  | integer _ | text _ => exact .takeNew _
  | number _ => exact (Leaves.takeNew _).bind fun _ => .pure _

/-- A module that every host has is imported without a change outside of the host. -/
theorem importStandard_leaves (name : String) (module : StandardModule) :
    Leaves seen (importStandard name module) := by
  refine Leaves.current.bind fun host => ?_
  cases host.loaded.lookup name with
  | some space => exact .pure space
  | none =>
    refine (Leaves.current.bind fun _ => .pure _).bind fun space => ?_
    refine Leaves.bind (.modify fun _ => rfl) fun _ => Leaves.bind ?_ fun _ => .pure space
    refine (bindAll_leaves _ _).bind fun _ => .forM (fun binding => ?_) _
    exact (standardValue_leaves _ _).bind fun _ => bindAll_leaves _ _

section Import

variable {call : Step Outside Unit} (kept : Leaves seen call)
include kept

/-- The body of a module leaves alone what the answers to its requests do. -/
theorem runBody_leaves (space name : String) (module : HostModule) :
    Leaves seen (runBody call space name module) := by
  refine (bindAll_leaves _ _).bind fun _ => ?_
  refine Leaves.bind (.forM (fun action => ?_) _) fun _ => ?_
  · refine Leaves.bind (.modify fun _ => rfl) fun _ => Leaves.current.bind fun host => ?_
    exact .forM (fun _ => kept) _
  · cases module.fault with
    | some fault => exact .throw fault
    | none => exact bindAll_leaves _ _

/-- A module imported by its whole name leaves alone what the answers to its requests do. -/
theorem importWhole_leaves (name : String) : Leaves seen (importWhole call name) := by
  unfold importWhole
  cases StandardModule.all.lookup name with
  | some module => exact importStandard_leaves name module
  | none =>
    refine Leaves.current.bind fun host => ?_
    cases host.loaded.lookup name with
    | some space => exact .pure space
    | none =>
      cases host.modules.lookup name with
      | none => exact .throw _
      | some module =>
        refine (Leaves.current.bind fun _ => .pure _).bind fun space => ?_
        refine Leaves.bind (.modify fun _ => rfl) fun _ => Leaves.bind ?_ fun _ => .pure space
        refine (runBody_leaves kept space name module).answered fun fault => ?_
        exact Leaves.bind (.modify fun _ => rfl) fun _ => .throw fault

/-- A module imported part by part leaves alone what the answers to the requests do. -/
theorem importInside_leaves (outer space : String) (parts : List String) :
    Leaves seen (importInside call outer space parts) := by
  induction parts generalizing outer space with
  | nil => exact .pure space
  | cons part parts ih =>
    simp only [importInside]
    split
    · exact (importWhole_leaves kept _).bind fun space => ih _ space
    · exact .throw _

/-- An import leaves alone whatever the answers to the requests of the modules do. -/
theorem importModule_leaves (name : String) : Leaves seen (importModule call name) := by
  unfold importModule
  have imported := (importWhole_leaves kept (Program.topModule name)).bind fun space =>
    importInside_leaves kept (Program.topModule name) space
      ((Text.splitAt '.' name.toList).tail.map String.ofList)
  split
  · exact Leaves.bind (.throw _) fun _ => imported
  · exact imported

end Import

end LiveConsole.Host
