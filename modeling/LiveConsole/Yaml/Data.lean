import LiveConsole.Yaml.Build

/-!
# The values of documents

A value that stands in several places of a document is one value; a collection that stands inside of
itself is cut there.
-/
namespace LiveConsole.Yaml

/-- The value of a node. -/
inductive Data where
  /-- The value of a scalar. -/
  | scalar (value : Scalar)
  /-- Values in order. -/
  | list (items : List Data)
  /-- Pairs in order. -/
  | pairs (pairs : List (Data × Data))
  /-- Distinct values, in the order of their written forms. -/
  | set (members : List Scalar)
  /-- Values under distinct keys, in the order in which the keys came. -/
  | dict (entries : List (Scalar × Data))
  /-- A collection that this place is inside of. -/
  | enclosing
  deriving Repr, Inhabited

namespace Data

/-- The value of what says nothing. -/
def null : Data := scalar (.plain .nothing)

/-- Whether a value counts as true. -/
def truthy : Data → Bool
  | scalar (.plain value) => value.truthy Heap.empty
  | scalar _ => true
  | list items => !items.isEmpty
  | pairs items => !items.isEmpty
  | set members => !members.isEmpty
  | dict entries => !entries.isEmpty
  | enclosing => true

/-- The number of collections that may stand inside one another in a value that is written out. -/
def deepest : Nat := 490

/-- What keeps a value from being written out, met first, with so much room for what stands inside. -/
def obstacleWithin? : Nat → Data → Option Fault
  | 0, _ => some Limit.tooDeep
  | depth + 1, data =>
    let inside := obstacleWithin? depth
    match data with
    | scalar value => value.obstacle?
    | list items => items.findSome? inside
    | pairs items => items.findSome? fun item => (inside item.1).or (inside item.2)
    | set members => members.findSome? Scalar.obstacle?
    | dict entries => entries.findSome? fun entry => entry.1.obstacle?.or (inside entry.2)
    | enclosing => some Limit.tooDeep

/-- What keeps a value from being written out. -/
def obstacle? (data : Data) : Option Fault := data.obstacleWithin? deepest

/-- Members in the order of their written forms. -/
def sorted (members : List Scalar) : List Scalar :=
  members.mergeSort fun left right => !(right.written < left.written)

/-- The values that are put together, by the number of the node. -/
abbrev Memory := Array (Option Data)

/-- The value of a node inside of others; the parts say what stands in it. -/
def gather (parts : Array (Option Part)) : Nat → List NodeId → NodeId → StateM Memory Data
  | 0, _, _ => return enclosing
  | fuel + 1, around, id => do
    match (← get).getD id none with
    | some data => return data
    | none =>
      if around.contains id then return enclosing
      let inner := gather parts fuel (id :: around)
      let data ←
        match parts.getD id none with
        | none => pure null
        | some (.scalar value) => pure (scalar value)
        | some (.list items) => list <$> items.mapM inner
        | some (.pairs entries) =>
          pairs <$> entries.mapM fun (key, value) => return (← inner key, ← inner value)
        | some (.set members) => pure (set (sorted members))
        | some (.dict entries) => dict <$> entries.mapM fun (key, value) => return (key, ← inner value)
      modify (·.setIfInBounds id (some data))
      return data

/-- The value of a document. -/
def ofDocument (document : Document) : Outcome Data := do
  let parts := (← Building.ofDocument document).parts
  return ((gather parts (parts.size + 1) [] document.root).run (Array.replicate parts.size none)).1

end Data

/-- The value of the document in a text; a text without a document has no value. -/
def readData (supply : Supply) : Outcome Data := do
  match ← readDocument supply with
  | none => return .null
  | some document => Data.ofDocument document

end LiveConsole.Yaml
