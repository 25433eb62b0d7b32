import LiveConsole.Yaml.Cursor
import LiveConsole.Yaml.Graph

/-!
# Merging mappings

A key of a mapping may ask that the entries of other mappings be merged in. They stand in front of the
mapping's own entries; of several mappings to be merged under one key, the first comes last, so that it
prevails. Merging changes the mapping itself, wherever it stands.
-/
namespace LiveConsole.Yaml.Graph

/-- Whether an entry asks for merging. -/
def asksToMerge (graph : Graph) (entry : NodeId × NodeId) : Bool := (graph.get entry.1).kind = .merge

/-- The number of entries that ask for merging. -/
def mergeCount (graph : Graph) : Nat :=
  graph.nodes.foldl (fun count node => count + node.entries.countP graph.asksToMerge) 0

/-- Give a mapping other entries. -/
def setEntries (graph : Graph) (id : NodeId) (entries : List (NodeId × NodeId)) : Graph :=
  graph.set id (.mapping (graph.get id).kind entries)

/-- A lone sign for the value as a key is a text. -/
def spellKey (graph : Graph) (entry : NodeId × NodeId) : Graph :=
  let key := graph.get entry.1
  if key.kind = .value then graph.set entry.1 (key.withKind .str) else graph

/--
Merge what the keys of a mapping ask for, in front of which so many entries are merged already. Each step
drops one entry that asks for merging, so that their number bounds the number of steps.
-/
def mergeInto : Nat → NodeId → List (NodeId × NodeId) → Graph → Outcome Graph
  | 0, _, _, _ => malformed
  | fuel + 1, id, merged, graph => do
    let (own, rest) := (graph.get id).entries.span fun entry => !graph.asksToMerge entry
    let graph := own.foldl spellKey graph
    match rest with
    | [] => return if merged.isEmpty then graph else graph.setEntries id (merged ++ own)
    | (_, asked) :: rest =>
      let graph := graph.setEntries id (own ++ rest)
      match graph.get asked with
      | .mapping .. =>
        let graph ← mergeInto fuel asked [] graph
        mergeInto fuel id (merged ++ (graph.get asked).entries) graph
      | .sequence _ items =>
        let (found, graph) ← items.foldlM (fun (found, graph) item =>
          if (graph.get item).isMapping then do
            let graph ← mergeInto fuel item [] graph
            return ((graph.get item).entries ++ found, graph)
          else malformed) ([], graph)
        mergeInto fuel id (merged ++ found) graph
      | .scalar .. => malformed

/-- Merge into a mapping what its keys ask for. -/
def merge (id : NodeId) (graph : Graph) : Outcome Graph :=
  mergeInto (graph.mergeCount + 1) id [] graph

end LiveConsole.Yaml.Graph
