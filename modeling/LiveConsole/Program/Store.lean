import LiveConsole.Program.Prelude
import LiveConsole.Program.Remark

/-!
# What a run works on

A run works on a `Store`: the heap, the namespaces by name, what has been written to the output, and
the rest of the world, of which evaluated code knows nothing. Code runs inside one namespace; it sees
the names bound there and, behind them, the functions and error classes that every namespace sees.
A fault stops the run and leaves everything done before it in place.
-/
namespace LiveConsole.Program

/-- Everything a run can change. -/
structure Store (World : Type) where
  /-- The containers. -/
  heap : Heap
  /-- The namespaces by name. -/
  spaces : List (String × Namespace)
  /-- What has been written to the output. -/
  output : String
  /-- What evaluated code does not see. -/
  world : World

namespace Store

variable {World : Type}

/-- A namespace by its name; one that is not there yet is empty. -/
def space (store : Store World) (name : String) : Namespace :=
  (store.spaces.lookup name).getD .empty

/-- Put a namespace under a name. -/
def setSpace (store : Store World) (name : String) (space : Namespace) : Store World :=
  { store with spaces := (name, space) :: store.spaces.filter fun entry => entry.1 ≠ name }

end Store

/-- A step that may change the store and may end in a fault. -/
abbrev Run (World Result : Type) := ExceptT Fault (StateM (Store World)) Result

/-- Constants of a program with the values that they are. -/
abbrev Constants := List (Constant × Value)

/--
Where code runs: its namespace, how modules are found, what is done with remarks, how often a loop may go
round, and those constants of the program that are not the same everywhere.
-/
structure Scope (World : Type) where
  /-- The name of the namespace. -/
  space : String
  /-- Find a module and give the value that its name is bound to. -/
  findModule : String → Run World Value
  /-- Take note of a remark on a program. -/
  remark : Remark → Run World Unit
  /-- Bound on the rounds of a loop whose end is not known before. -/
  patience : Nat
  /-- The constants of the program that are not the same everywhere. -/
  constants : Constants

section Run

variable {World Result : Type}

/-- The heap of a run. -/
def currentHeap : Run World Heap := return (← get).heap

/-- Take something new out of the heap. -/
def takeNew (take : Heap → Heap × Result) : Run World Result :=
  modifyGet fun store =>
    let (heap, result) := take store.heap
    (result, { store with heap })

/-- Put a container at a fresh identity. -/
def allocate (cell : Cell) : Run World Value := takeNew (·.alloc cell)

/-- An identity that is not in use. -/
def freshIdent : Run World Ident := takeNew Heap.fresh

/-- An integer that was worked out. -/
def newInt (value : Int) : Run World Value := takeNew (·.newInt value ⟨"int"⟩)

/-- A text that was put together. -/
def newText (value : String) : Run World Value := takeNew (·.newText value ⟨"str"⟩)

/-- A byte string that was put together. -/
def newBytes (data : List UInt8) : Run World Value := takeNew (·.newBytes data ⟨"bytes"⟩)

/-- Successive integers. -/
def newRange (items : Number.Progression) : Run World Value := return .range items (← freshIdent)

/-- Put a container in place of another one. -/
def replaceCell (identity : Ident) (cell : Cell) : Run World Unit :=
  modify fun store => { store with heap := store.heap.set identity cell }

/-- Write to the output. -/
def write (text : String) : Run World Unit :=
  modify fun store => { store with output := store.output ++ text }

/-- Bind a name in the namespace of a scope. -/
def bindName (scope : Scope World) (name : String) (value : Value) : Run World Unit :=
  modify fun store => store.setSpace scope.space ((store.space scope.space).set name value)

/-- How the module of the names that every namespace sees was found; it is worked out once. -/
def findOrigin : Run World Value := do
  match ((← get).space preludeName).get? originName with
  | some value => return value
  | none => do
    let value ← allocate (originCell (← allocate (.list [] ⟨"list"⟩)))
    modify fun store => store.setSpace preludeName ((store.space preludeName).set originName value)
    return value

/-- The value of a name. -/
def lookupName (scope : Scope World) (name : String) : Run World Value := do
  match ((← get).space scope.space).get? name with
  | some value => return value
  | none =>
    if name == originName then findOrigin
    else
      match preludeValue? name with
      | some value => return value
      | none => throw (.unboundName name)

/-- Unbind a name. -/
def unbindName (scope : Scope World) (name : String) : Run World Unit := do
  let store ← get
  let space := store.space scope.space
  if space.has name then set (store.setSpace scope.space (space.erase name))
  else throw (.unboundName name)

/-- The value of a constant that is one and the same wherever it occurs; other constants have none. -/
def Constant.common? : Constant → Option Value
  | nothing => some .nothing
  | bool value => some (.bool value)
  | int value => if Value.isCommonInt value then some (.ofInt value) else none
  | text value =>
    if Value.isCommonText value || looksLikeName value then some (.ofText value) else none
  | tuple _ => none
where
  /-- Whether a text looks like a name. -/
  looksLikeName (value : String) : Bool := value.all fun c => c.isAlphanum || c == '_'

/-- The value of a constant; one that is not the same everywhere is one of those that the scope holds. -/
def Scope.valueOf (scope : Scope World) (constant : Constant) : Value :=
  match constant.common? with
  | some value => value
  | none => ((scope.constants.find? fun entry => entry.1.isSame constant).map (·.2)).getD .nothing

end Run

end LiveConsole.Program
