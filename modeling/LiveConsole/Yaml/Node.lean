import LiveConsole.Value.Limit
import LiveConsole.Yaml.Graph
import LiveConsole.Yaml.Lexer

/-!
# Reading nodes

The tokens of a document are read as one node, which holds others. A node can be given a name and be met
again under it, even inside itself. Collections may be open inside one another only so deep.
-/
namespace LiveConsole.Yaml

/-- What is still to be read of a document, and the nodes met. -/
structure Reading where
  /-- The tokens to be read. -/
  tokens : List Token
  /-- Nodes by name. -/
  named : List (String × NodeId)
  /-- The nodes. -/
  graph : Graph
  /-- The number of collections that are open. -/
  depth : Nat

namespace Reading

/-- The outcome where the next token does not fit. -/
def unexpected {Result : Type} (reading : Reading) : Outcome Result :=
  match reading.tokens with
  | .failed trouble :: _ => .error trouble
  | _ => malformed

/-- Read the next token, whatever it is. -/
def advance (reading : Reading) : Reading := { reading with tokens := reading.tokens.drop 1 }

/-- Whether the next token is one of several. -/
def isAt (reading : Reading) (choices : List Token) : Bool :=
  reading.tokens.head?.any choices.contains

/-- Read a given token. -/
def expect (token : Token) (reading : Reading) : Outcome Reading :=
  if reading.isAt [token] then .ok reading.advance else reading.unexpected

/-- Start reading tokens. -/
def ofTokens (tokens : List Token) : Reading := ⟨tokens, [], .empty, 0⟩

/-- Add a node, under a name if it has one. -/
def place (name : Option String) (node : Node) (reading : Reading) : NodeId × Reading :=
  let (id, graph) := reading.graph.add node
  let named := name.elim reading.named fun name => (name, id) :: reading.named
  (id, { reading with graph, named })

/-- The number of collections that may be open inside one another. -/
def deepest : Nat := 485

/-- Open a collection. -/
def enter (reading : Reading) : Outcome Reading :=
  if deepest ≤ reading.depth then .error (.unbuildable Limit.tooDeep)
  else .ok { reading with depth := reading.depth + 1 }

/-- Close a collection, which is now known. -/
def leave (id : NodeId) (node : Node) (reading : Reading) : Reading :=
  { reading with graph := reading.graph.set id node, depth := reading.depth - 1 }

/-- Refuse a name that another node has. -/
def checkName (name : Option String) (reading : Reading) : Outcome Unit :=
  if name.any fun name => (reading.named.lookup name).isSome then malformed else .ok ()

end Reading

/-- Handles of tags and what they stand for. -/
abbrev Handles := List (String × String)

/-- What stands in front of a node: its name and its tag. -/
structure Properties where
  /-- The name. -/
  name : Option String
  /-- The tag with its handle replaced. -/
  tag : Option String

namespace Properties

/-- A tag with its handle replaced by what it stands for. -/
def wholeTag (handles : Handles) : Option String → String → Outcome String
  | none, suffix => .ok suffix
  | some handle, suffix =>
    match handles.lookup handle with
    | none => malformed
    | some stem => .ok (stem ++ suffix)

/-- Read the name and the tag of a node, in either order. -/
def read (handles : Handles) (reading : Reading) : Outcome (Properties × Reading) := do
  let (name, tag, count) :=
    match reading.tokens with
    | .anchor name :: .tag handle suffix :: _ => (some name, some (handle, suffix), 2)
    | .tag handle suffix :: .anchor name :: _ => (some name, some (handle, suffix), 2)
    | .anchor name :: _ => (some name, none, 1)
    | .tag handle suffix :: _ => (none, some (handle, suffix), 1)
    | _ => (none, none, 0)
  let tag ← tag.mapM fun (handle, suffix) => wholeTag handles handle suffix
  return (⟨name, tag⟩, { reading with tokens := reading.tokens.drop count })

/-- The kind of a node with these properties, given the kind that it has without a tag. -/
def kind (properties : Properties) (usual : Kind) : Kind :=
  match properties.tag with
  | none => usual
  | some tag => if tag = "!" then usual else Kind.ofTag tag

/-- The scalar of a text with these properties; a quoted one without a tag is a text. -/
def scalar (properties : Properties) (text : Text.Codes) (plain : Bool) : Node :=
  let looksLike := plain || properties.tag.isSome
  .scalar (properties.kind (if looksLike then Kind.ofPlain text.shown else .str)) text

end Properties

/-- Where a node stands: what may start there. -/
inductive Position where
  /-- In brackets. -/
  | flow
  /-- In block style. -/
  | block
  /-- In block style as a key or value, where items need no more indentation. -/
  | entry
  deriving DecidableEq, Repr

namespace Node

mutual

/-- Read a node. -/
def read (handles : Handles) : Nat → Position → Reading → Outcome (NodeId × Reading)
  | 0, _, _ => malformed
  | fuel + 1, position, reading =>
    match reading.tokens with
    | .alias name :: _ =>
      match reading.named.lookup name with
      | none => malformed
      | some id => .ok (id, reading.advance)
    | _ => do
      let (properties, reading) ← Properties.read handles reading
      if let some (.failed trouble) := reading.tokens.head? then throw trouble
      reading.checkName properties.name
      let asSequence := fun (reading : Reading)
          (items : Reading → Outcome (List NodeId × Reading)) => do
        let kind := properties.kind .seq
        let (id, inside) := reading.place properties.name (.sequence kind [])
        let (items, reading) ← items (← inside.enter)
        return (id, reading.leave id (.sequence kind items))
      let asMapping := fun (reading : Reading)
          (entries : Reading → Outcome (List (NodeId × NodeId) × Reading)) => do
        let kind := properties.kind .map
        let (id, inside) := reading.place properties.name (.mapping kind [])
        let (entries, reading) ← entries (← inside.enter)
        return (id, reading.leave id (.mapping kind entries))
      match reading.tokens.head? with
      | some (.scalar text plain) =>
        return reading.advance.place properties.name (properties.scalar text plain)
      | next =>
        if next = some .openSequence then asSequence reading.advance (flowItems handles fuel true)
        else if next = some .openMapping then asMapping reading.advance (flowEntries handles fuel true)
        else if next = some .item ∧ position = .entry then
          asSequence reading (blockItems handles fuel false)
        else if next = some .blockSequence ∧ position ≠ .flow then
          asSequence reading.advance (blockItems handles fuel true)
        else if next = some .blockMapping ∧ position ≠ .flow then
          asMapping reading.advance (blockEntries handles fuel)
        else if properties.name.isSome || properties.tag.isSome then
          return reading.place properties.name (properties.scalar [] true)
        else malformed

/-- Read a node, or nothing when one of several tokens comes next. -/
def readUnless (handles : Handles) :
    Nat → Position → List Token → Reading → Outcome (NodeId × Reading)
  | 0, _, _, _ => malformed
  | fuel + 1, position, closers, reading =>
    if reading.isAt closers then .ok (reading.place none .empty)
    else read handles fuel position reading

/-- Read the value behind a key, if one is written. -/
def readValue (handles : Handles) :
    Nat → Position → List Token → Reading → Outcome (NodeId × Reading)
  | 0, _, _, _ => malformed
  | fuel + 1, position, closers, reading =>
    if reading.isAt [.value] then readUnless handles fuel position closers reading.advance
    else .ok (reading.place none .empty)

/-- Read the items of a sequence in block style, which ends at a token of its own or without. -/
def blockItems (handles : Handles) : Nat → Bool → Reading → Outcome (List NodeId × Reading)
  | 0, _, _ => malformed
  | fuel + 1, indented, reading =>
    if reading.isAt [.item] then do
      let closers := if indented then [.item, .blockEnd] else [.item, .key, .value, .blockEnd]
      let (item, reading) ← readUnless handles fuel .block closers reading.advance
      let (items, reading) ← blockItems handles fuel indented reading
      return (item :: items, reading)
    else if indented then do
      return ([], ← reading.expect .blockEnd)
    else .ok ([], reading)

/-- Read the entries of a mapping in block style. -/
def blockEntries (handles : Handles) : Nat → Reading → Outcome (List (NodeId × NodeId) × Reading)
  | 0, _ => malformed
  | fuel + 1, reading =>
    if reading.isAt [.key] then do
      let closers := [.key, .value, .blockEnd]
      let (key, reading) ← readUnless handles fuel .entry closers reading.advance
      let (value, reading) ← readValue handles fuel .entry closers reading
      let (entries, reading) ← blockEntries handles fuel reading
      return ((key, value) :: entries, reading)
    else do
      return ([], ← reading.expect .blockEnd)

/-- Read a pair between brackets of a sequence, which stands for a mapping of its own. -/
def flowPair (handles : Handles) : Nat → List Token → Reading → Outcome (NodeId × Reading)
  | 0, _, _ => malformed
  | fuel + 1, closers, reading => do
    let (id, inside) := reading.place none (.mapping .map [])
    let inside ← inside.enter
    let (key, inside) ← readUnless handles fuel .flow (.value :: closers) inside
    let (value, inside) ← readValue handles fuel .flow closers inside
    return (id, inside.leave id (.mapping .map [(key, value)]))

/-- Read the items of a sequence between brackets. -/
def flowItems (handles : Handles) : Nat → Bool → Reading → Outcome (List NodeId × Reading)
  | 0, _, _ => malformed
  | fuel + 1, isFirst, reading =>
    if reading.isAt [.closeSequence] then .ok ([], reading.advance)
    else do
      let reading ← if isFirst then pure reading else reading.expect .comma
      if reading.isAt [.closeSequence] then return ([], reading.advance)
      let (item, reading) ←
        if reading.isAt [.key] then flowPair handles fuel [.comma, .closeSequence] reading.advance
        else read handles fuel .flow reading
      let (items, reading) ← flowItems handles fuel false reading
      return (item :: items, reading)

/-- Read the entries of a mapping between brackets; a key may stand without a value. -/
def flowEntries (handles : Handles) :
    Nat → Bool → Reading → Outcome (List (NodeId × NodeId) × Reading)
  | 0, _, _ => malformed
  | fuel + 1, isFirst, reading =>
    if reading.isAt [.closeMapping] then .ok ([], reading.advance)
    else do
      let reading ← if isFirst then pure reading else reading.expect .comma
      if reading.isAt [.closeMapping] then return ([], reading.advance)
      let closers := [.comma, .closeMapping]
      let (key, value, reading) ←
        if reading.isAt [.key] then do
          let (key, reading) ← readUnless handles fuel .flow (.value :: closers) reading.advance
          let (value, reading) ← readValue handles fuel .flow closers reading
          pure (key, value, reading)
        else do
          let (key, reading) ← read handles fuel .flow reading
          let (value, reading) := reading.place none .empty
          pure (key, value, reading)
      let (entries, reading) ← flowEntries handles fuel false reading
      return ((key, value) :: entries, reading)

end

end Node

end LiveConsole.Yaml
