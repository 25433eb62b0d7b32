import LiveConsole.Value.Written

/-!
# Dumps of values

A dump lists a value and everything inside it, one entry a line and every level two blanks further
in. Scalars take one line. A container takes a header with its size, a label and a dump for each
entry, and a closing bracket. A container that was opened before, on the way or elsewhere, takes the
one line `*RECURSION*`; empty containers are never taken as opened.

Every value has a dump, but an integer with too many digits and containers nested too deep are obstacles
to writing it down; `lines?` stops at the first one.

A dump is a sequence of `Line` items. Only the header of an object mentions an identity, and it keeps
it as a number, so what a dump depends on can be told apart from how an identity is written.
-/
namespace LiveConsole.Dump

open Text

/-- What one line of a dump says. -/
inductive Content where
  /-- A text, which may itself run over several lines. -/
  | text (value : String)
  /-- The header of an object: its type, its identity and the number of its attributes. -/
  | object (type : TypeName) (identity : Ident) (size : Nat)
  deriving DecidableEq, Repr

/-- One line of a dump. -/
structure Line where
  /-- Number of blanks in front. -/
  indent : Nat
  /-- What follows the blanks. -/
  content : Content
  deriving DecidableEq, Repr

namespace Line

/-- A line further in by a number of blanks. -/
def shift (blanks : Nat) (line : Line) : Line := { line with indent := line.indent + blanks }

/-- The text of a line, with a way to write identities. -/
def render (showIdent : Ident → String) (line : Line) : String :=
  let content :=
    match line.content with
    | .text value => value
    | .object type identity size =>
      s!"object({type.qualified})#{showIdent identity} ({size}) " ++ openBrace
  String.ofList (List.replicate line.indent ' ') ++ content

end Line

/-- The lines written so far and the containers opened so far. -/
structure Progress where
  /-- Lines in order. -/
  lines : Array Line
  /-- Identities of the containers opened, the last one first. -/
  opened : List Ident

namespace Progress

/-- Write one more line. -/
def push (progress : Progress) (indent : Nat) (content : Content) : Progress :=
  { progress with lines := progress.lines.push ⟨indent, content⟩ }

/-- Remember a container as opened. -/
def markOpened (progress : Progress) (identity : Ident) : Progress :=
  { progress with opened := identity :: progress.opened }

end Progress

/-- The line of a scalar. -/
def scalarText : Value → String
  | .nothing => "None"
  | .bool value => "bool(" ++ (Value.bool value).writtenScalar ++ ")"
  | .int value type _ => type.plain ++ "(" ++ (Value.ofInt value).writtenScalar ++ ")"
  | .float value type identity =>
    type.plain ++ "(" ++ (Value.float value type identity).writtenScalar ++ ")"
  | .complex re im type identity =>
    type.plain ++ "(" ++ (Value.complex re im type identity).writtenScalar ++ ")"
  | .text value _ _ => s!"str({value.length}) \"" ++ value ++ "\""
  | .bytes data type identity =>
    s!"{type.plain}({data.length}) " ++ (Value.bytes data type identity).writtenScalar
  | .module name => s!"module({name})"
  | .path text identity => "PosixPath: " ++ (Value.path text identity).writtenScalar
  | .range items _ => "range: " ++ writtenRange items
  | .builtin function => function.typeName ++ ": " ++ function.written
  | .errorClass name => "type: " ++ (Value.errorClass name).writtenScalar
  | .host .. => "function: <host function>"
  | .hostFault .. => "function: <host function>"
  | .foreign type written _ => type.qualified ++ ": " ++ written
  | .ref _ => "None"

/-- The label of a key: a text as it is, anything else in its written form. -/
def keyLabel (heap : Heap) : Value → String
  | .text value _ _ => "\"" ++ value ++ "\""
  | key => key.written heap

/-- Number the values from zero. -/
def numbered (values : List Value) : List (String × Value) :=
  values.zipIdx.map fun entry => (toString entry.2, entry.1)

/-- Members in ascending order of their written forms. -/
def sortMembers (heap : Heap) (members : List Value) : List Value :=
  let keyed := members.map fun member => (member.written heap, member)
  (keyed.mergeSort fun left right => !(right.1 < left.1)).map (·.2)

/-- The entries of a container with their labels, in the order in which they are listed. -/
def entries (heap : Heap) : Cell → List (String × Value)
  | .list items _ => numbered items
  | .tuple items _ => numbered items
  | .dict items _ => items.map fun item => (keyLabel heap item.1, item.2)
  | .set _ members _ _ => numbered (sortMembers heap members)
  | .object attributes _ => attributes.map fun member => ("\"" ++ member.1 ++ "\"", member.2)
  | .buffer .. | .error .. => []

/-- The header of a container. -/
def header (identity : Ident) : Cell → Content
  | .list items type => .text s!"{type.plain}({items.length}) ["
  | .tuple items type => .text s!"{type.plain}({items.length}) ["
  | .dict items type => .text (s!"{type.plain}({items.length}) " ++ openBrace)
  | .set _ members _ type => .text (s!"{type.plain}({members.length}) " ++ openBrace)
  | .buffer data type => .text s!"{type.plain}({data.length}) "
  | .object attributes type => .object type identity attributes.length
  | .error _ type => .object type identity 0

/-- The closing bracket of a container. -/
def closing : Cell → String
  | .list .. => "]"
  | .tuple .. => "]"
  | _ => closeBrace

/--
Dump a value at a depth. The first argument bounds the number of containers that may be opened inside
one another; a heap opens no more than it has, since an open container is not opened again.
-/
def append (heap : Heap) : Nat → Nat → Value → Progress → Progress
  | room + 1, depth, value@(.ref identity), progress =>
    match heap.get? identity with
    | none => progress.push (2 * depth) (.text "None")
    | some (.buffer data type) =>
      progress.push (2 * depth) (.text (s!"{type.plain}({data.length}) " ++ value.written heap))
    | some cell =>
      if progress.opened.contains identity then progress.push (2 * depth) (.text "*RECURSION*")
      else
        let started := progress.push (2 * depth) (header identity cell)
        let started := if cell.size = 0 then started else started.markOpened identity
        let listed := (entries heap cell).foldl
          (fun progress entry =>
            append heap room (depth + 1) entry.2
              (progress.push (2 * depth + 2) (.text s!"[{entry.1}]=>")))
          started
        listed.push (2 * depth) (.text (closing cell))
  | _, depth, value, progress => progress.push (2 * depth) (.text (scalarText value))

/-- The dump of a value, line by line. -/
def lines (graph : Graph) : List Line :=
  (append graph.heap (graph.heap.size + 1) 0 graph.root ⟨#[], []⟩).lines.toList

/-- The number of containers that may be open inside one another in a dump. -/
def greatestDepth : Nat := 490

/-- What keeps the labels of a container's entries from being written, met before the entries. -/
def labelObstacle? (heap : Heap) : Cell → Option Fault
  | .set _ members _ _ => members.findSome? (Value.obstacle? heap)
  | _ => none

/-- The entries of a container, each with what keeps its label from being written. -/
def labelled (heap : Heap) : Cell → List (Option Fault × Value)
  | .dict items _ => items.map fun item =>
    match item.1 with
    | .text .. => (none, item.2)
    | key => (key.obstacle? heap, item.2)
  | cell => (entries heap cell).map fun entry => (none, entry.2)

/--
Go through a value as a dump does, with room for so many containers inside one another, and stop at
what cannot be written: the containers opened so far, unless there is an obstacle.
-/
def survey (heap : Heap) : Nat → Value → List Ident → Except Fault (List Ident)
  | 0, _, _ => .error Limit.tooDeep
  | room + 1, .ref identity, opened =>
    if opened.contains identity then .ok opened
    else
      match heap.get? identity with
      | none => .ok opened
      | some cell =>
        match labelObstacle? heap cell with
        | some fault => .error fault
        | none =>
          (labelled heap cell).foldlM
            (fun opened entry =>
              match entry.1 with
              | some fault => .error fault
              | none => survey heap room entry.2 opened)
            (if cell.size = 0 then opened else identity :: opened)
  | _ + 1, value, opened =>
    match value.scalarObstacle? with
    | some fault => .error fault
    | none => .ok opened

/-- The dump of a value, line by line, unless an obstacle is met. -/
def lines? (graph : Graph) : Except Fault (List Line) :=
  (survey graph.heap (greatestDepth + 1) graph.root []).map fun _ => lines graph

/-- The text of a dump; it ends with a line end. -/
def render (showIdent : Ident → String) (lines : List Line) : String :=
  joinWith "\n" (lines.map (Line.render showIdent)) ++ "\n"

/-- The text of the dump of a value. -/
def text (graph : Graph) : String := render toString (lines graph)

/-- The text of the dump of a value, with a way to write identities, unless an obstacle is met. -/
def text? (showIdent : Ident → String) (graph : Graph) : Except Fault String :=
  (lines? graph).map (render showIdent)

/-- The names that a namespace has for its own use. -/
def hiddenNames : List String := ["__builtins__", "__loader__", "__spec__", "__package__"]

/-- The names of a namespace with the dumps of their values; a function of the host has a word instead. -/
def names (showIdent : Ident → String) (heap : Heap) (space : Namespace) :
    Except Fault (List (String × String)) :=
  (space.bindings.filter fun binding => !hiddenNames.contains binding.1).mapM fun (name, value) =>
    match value with
    | .host .. | .hostFault .. => .ok (name, "fn")
    | value => (text? showIdent ⟨heap, value⟩).map (name, ·)

end LiveConsole.Dump
