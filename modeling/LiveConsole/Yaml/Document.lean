import LiveConsole.Yaml.Node

/-!
# Documents

A text holds at most one document, perhaps behind directives and between marks.
-/
namespace LiveConsole.Yaml

namespace Reading

/-- The handles that always have a meaning. -/
def usualHandles : Handles := [("!", "!"), ("!!", Kind.standardStem)]

/-- Read directives: whether a version was given, and the handles; neither may be given twice. -/
def directives : List Token → Bool → Handles → Outcome (Handles × List Token)
  | .directive (.version major) :: rest, versioned, handles =>
    if versioned || major != 1 then malformed else directives rest true handles
  | .directive (.handle name stem) :: rest, versioned, handles =>
    if (handles.lookup name).isSome then malformed
    else directives rest versioned ((name, stem) :: handles)
  | .directive .other :: rest, versioned, handles => directives rest versioned handles
  | tokens, _, handles => .ok (handles ++ usualHandles, tokens)

/-- Whether the next token, or the end, leaves a document empty. -/
def endsDocument : List Token → Bool
  | [] => true
  | .directive _ :: _ => true
  | .documentStart :: _ => true
  | .documentEnd :: _ => true
  | _ => false

/-- Whether the next token is a directive or a mark in front of a document. -/
def isMarked : List Token → Bool
  | .directive _ :: _ => true
  | .documentStart :: _ => true
  | _ => false

/-- Read the node of a document that starts here. -/
def document (tokens : List Token) : Outcome (NodeId × Reading) := do
  let fuel := 6 * tokens.length + 6
  if isMarked tokens then
    let (handles, rest) ← directives tokens false []
    let reading ← (ofTokens rest).expect .documentStart
    if endsDocument reading.tokens then return reading.place none .empty
    else Node.read handles fuel .block reading
  else Node.read usualHandles fuel .block (ofTokens tokens)

/-- Skip marks behind a document. -/
def skipEnds : List Token → List Token
  | .documentEnd :: rest => skipEnds rest
  | tokens => tokens

end Reading

/-- A document: its nodes and the one that holds all others. -/
structure Document where
  /-- The nodes. -/
  graph : Graph
  /-- The node that is the document. -/
  root : NodeId
  deriving Repr

/-- The document in a text, if it holds one. -/
def readDocument (supply : Supply) : Outcome (Option Document) := do
  match tokens supply with
  | [] => return none
  | found =>
    let (root, reading) ← Reading.document found
    match Reading.skipEnds reading.tokens with
    | [] => return some ⟨reading.graph, root⟩
    | rest => (Reading.ofTokens rest).unexpected

end LiveConsole.Yaml
