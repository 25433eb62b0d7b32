import LiveConsole.Yaml.Merging
import LiveConsole.Yaml.Document
import LiveConsole.Yaml.Scalar

/-!
# Building values

The values of nodes are built level by level: all nodes of one level of collections are looked at before
those inside them, and the first trouble met in this order is the one that counts. Each node is built
once, wherever it stands. Of several equal keys the first keeps its place and the last one gives the
value; collections cannot be keys.
-/
namespace LiveConsole.Yaml

/-- The value of a node, in which other nodes stand for their values. -/
inductive Part where
  /-- The value of a scalar. -/
  | scalar (value : Scalar)
  /-- Values in order. -/
  | list (items : List NodeId)
  /-- Pairs in order. -/
  | pairs (pairs : List (NodeId × NodeId))
  /-- Distinct values. -/
  | set (members : List Scalar)
  /-- Values under distinct keys. -/
  | dict (entries : List (Scalar × NodeId))
  deriving Repr

namespace Part

/-- A collection that is to be filled. -/
def unfilled : Part := list []

/-- Put a value under a key. -/
def put (entries : List (Scalar × NodeId)) (key : Scalar) (value : NodeId) : List (Scalar × NodeId) :=
  if entries.any fun entry => entry.1.isSameKey key then
    entries.map fun entry => if entry.1.isSameKey key then (entry.1, value) else entry
  else entries ++ [(key, value)]

end Part

/-- The text of a node used as a scalar: a mapping may name the value that stands for it. -/
def Graph.scalarText (graph : Graph) : Nat → NodeId → Outcome Text.Codes
  | 0, _ => .error (.unbuildable Limit.tooDeep)
  | fuel + 1, id =>
    match graph.get id with
    | .scalar _ text => .ok text
    | .mapping _ entries =>
      match entries.find? fun entry => (graph.get entry.1).kind = .value with
      | some (_, value) => graph.scalarText fuel value
      | none => malformed
    | .sequence .. => malformed

/-- The value of a node that stands for a scalar. -/
def Graph.scalar (graph : Graph) (id : NodeId) : Outcome Scalar := do
  let node := graph.get id
  if [.unknown, .merge, .value].contains node.kind then malformed
  else
    let text ← graph.scalarText (graph.nodes.size + 1) id
    if node.kind = .timestamp && node.isMapping then
      unbuildable "TypeError" "expected string or bytes-like object, got 'list'"
    else Scalar.build node.kind text id

/-- The values that are built so far. -/
structure Building where
  /-- The nodes of the document. -/
  graph : Graph
  /-- What is built, by the number of the node. -/
  parts : Array (Option Part)
  /-- The collections to be filled next, the last one first. -/
  waiting : List NodeId

namespace Building

/-- A step of building. -/
abbrev Step := StateT Building Outcome

/-- Set down the value of a node. -/
def setPart (id : NodeId) (part : Part) (building : Building) : Building :=
  { building with parts := building.parts.setIfInBounds id (some part) }

/-- The value of a node, built if it is not yet known; a collection is only to be filled later. -/
def part (id : NodeId) : Step Part := do
  let building ← get
  match building.parts.getD id none with
  | some part => return part
  | none =>
    if (building.graph.get id).isCollection then
      set { building.setPart id .unfilled with waiting := id :: building.waiting }
      return .unfilled
    else
      let part := Part.scalar (← building.graph.scalar id)
      set (building.setPart id part)
      return part

/-- The key and the value of a mapping with one entry. -/
def pair (id : NodeId) : Step (NodeId × NodeId) := do
  match (← get).graph.get id with
  | .mapping _ [(key, value)] =>
    discard (part key)
    discard (part value)
    return (key, value)
  | _ => throw .malformed

/-- Build the key and the value of an entry and add them to others. -/
def addEntry (entries : List (Scalar × NodeId)) (entry : NodeId × NodeId) :
    Step (List (Scalar × NodeId)) := do
  match ← part entry.1 with
  | .scalar key =>
    discard (part entry.2)
    return Part.put entries key entry.2
  | _ => throw .malformed

/-- The keys and values of a mapping, after others were merged into it. -/
def entries (id : NodeId) : Step (List (Scalar × NodeId)) := do
  let building ← get
  let graph ← building.graph.merge id
  set { building with graph }
  (graph.get id).entries.foldlM addEntry []

/-- The value of a collection, which must be of the right shape. -/
def collection (id : NodeId) : Step Part := do
  let node := (← get).graph.get id
  match node.kind, node with
  | .seq, .sequence _ items =>
    items.forM fun item => discard (part item)
    return .list items
  | .omap, .sequence _ items | .pairs, .sequence _ items => return .pairs (← items.mapM pair)
  | .map, .mapping .. => return .dict (← entries id)
  | .set, .mapping .. => return .set ((← entries id).map (·.1))
  | _, _ => throw .malformed

/-- Fill a collection. -/
def fill (id : NodeId) : Step Unit := do
  let part ← collection id
  modify (·.setPart id part)

/-- Fill level after level; each has a node that none before had. -/
def fillLevels : Nat → Step Unit
  | 0 => return
  | fuel + 1 => do
    let level := (← get).waiting.reverse
    unless level.isEmpty do
      modify ({ · with waiting := [] })
      level.forM fill
      fillLevels fuel

/-- Build all values of a document. -/
def ofDocument (document : Document) : Outcome Building := do
  let graph := document.graph
  let start : Building := ⟨graph, Array.replicate graph.nodes.size none, []⟩
  let ((), building) ← (do discard (part document.root); fillLevels (graph.nodes.size + 1) : Step Unit) start
  return building

end Building

end LiveConsole.Yaml
