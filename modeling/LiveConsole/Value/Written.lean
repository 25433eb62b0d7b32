import LiveConsole.Text.Quoted
import LiveConsole.Text.Blank
import LiveConsole.Number.Shortest
import LiveConsole.Value.ErrorText
import LiveConsole.Value.Hash
import LiveConsole.Value.Limit

/-!
# The written form of values

Every value has a written form that names it in one line, such as `(1, 'a')`. Containers write their
items in it; a container inside itself is cut short by dots. The text of a value is its written form,
except that a text is its own. What keeps a value from being written is told apart from how it is
written: an obstacle is an integer with too many digits, or a container nested too deep.
-/
namespace LiveConsole

open Number Text

namespace Builtin

/-- The written form of a function. -/
def written : Builtin → String
  | print => "<built-in function print>"
  | length => "<built-in function len>"
  | toText => "<class 'str'>"
  | range => "<class 'range'>"
  | leave name => s!"Use {name}() or Ctrl-D (i.e. EOF) to exit"

end Builtin

/-- The opening brace. -/
def openBrace : String := "\x7b"

/-- The closing brace. -/
def closeBrace : String := "\x7d"

/-- The written form of a complex number. -/
def writtenComplex (re im : Binary64) : String :=
  let imaginary := Layout.part.write im ++ "j"
  if re = .finite false 0 Binary64.minExponent then imaginary
  else
    let sign := if imaginary.startsWith "-" then "" else "+"
    "(" ++ Layout.part.write re ++ sign ++ imaginary ++ ")"

/-- The written form of a range; a step of one is left out. -/
def writtenRange (items : Progression) : String :=
  if items.step = 1 then s!"range({items.start}, {items.stop})"
  else s!"range({items.start}, {items.stop}, {items.step})"

/-- Items between brackets, in the form of a fixed sequence. -/
def writtenTuple : List String → String
  | [item] => "(" ++ item ++ ",)"
  | items => "(" ++ joinWith ", " items ++ ")"

/-- Put texts into ascending order of their code points. -/
def sortTexts (texts : List String) : List String := texts.mergeSort fun left right => !(right < left)

/-- Members between braces; the empty set and every subclass name their type. -/
def writtenSet (frozen : Bool) (type : TypeName) (members : List String) : String :=
  let inside := openBrace ++ joinWith ", " members ++ closeBrace
  if members.isEmpty then type.plain ++ "()"
  else if !frozen && type.qualified == "set" then inside
  else type.plain ++ "(" ++ inside ++ ")"

namespace Value

/-- The written form of a scalar; of a container, what stands for it inside itself. -/
def writtenScalar : Value → String
  | nothing => "None"
  | bool value => if value then "True" else "False"
  | int value _ _ => toString value
  | float value _ _ => Layout.alone.write value
  | complex re im _ _ => writtenComplex re im
  | text value _ _ => quoted value
  | bytes data _ _ => quotedBytes data
  | module name => s!"<module '{name}'>"
  | path shown _ => "PosixPath(" ++ quoted shown ++ ")"
  | range items _ => writtenRange items
  | builtin function => function.written
  | errorClass name => s!"<class '{name}'>"
  | host .. => "<host function>"
  | hostFault .. => "<host function>"
  | foreign _ written _ => written
  | ref _ => "..."

/-- The written form of a value, at most `depth` containers deep, inside the containers `active`. -/
def writtenWithin (heap : Heap) : Nat → List Ident → Value → String
  | depth + 1, active, ref identity =>
    let inside := writtenWithin heap depth (identity :: active)
    let again := active.contains identity
    match heap.get? identity with
    | none => "..."
    | some (.list items _) => if again then "[...]" else "[" ++ joinWith ", " (items.map inside) ++ "]"
    | some (.tuple items _) => if again then "(...)" else writtenTuple (items.map inside)
    | some (.dict items _) =>
      if again then openBrace ++ "..." ++ closeBrace
      else
        openBrace ++ joinWith ", " (items.map fun item => inside item.1 ++ ": " ++ inside item.2) ++
          closeBrace
    | some (.set frozen members _ type) =>
      let texts := members.map inside
      let hasOrder := members.all fun member => (member.hash? heap).isSome
      writtenSet frozen type (if hasOrder then texts else sortTexts texts)
    | some (.buffer data type) => type.plain ++ "(" ++ quotedGrowableBytes data ++ ")"
    | some (.object _ type) => "<" ++ type.qualified ++ " object>"
    | some (.error arguments type) =>
      let inside := writtenWithin heap depth active
      match Fault.shownArguments type.plain arguments with
      | [argument] => type.plain ++ "(" ++ inside argument ++ ")"
      | arguments => type.plain ++ writtenTuple (arguments.map inside)
  | _, _, value => value.writtenScalar

/--
The written form of a value; no more containers are open at a time than the heap has, and between any
two of them no more errors.
-/
def written (heap : Heap) (value : Value) : String :=
  writtenWithin heap ((heap.size + 1) * (heap.size + 1)) [] value

/-- Whether an integer has too many digits to be written. -/
def isTooLong (value : Int) : Bool := Limit.pastDigits ≤ value.natAbs

/-- What keeps a scalar from being written. -/
def scalarObstacle? : Value → Option Fault
  | int value _ _ => if isTooLong value then some Limit.tooManyDigits else none
  | range { start, stop, step } _ =>
    if isTooLong start || isTooLong stop || isTooLong step then some Limit.tooManyDigits else none
  | _ => none

/-- What keeps a value inside the containers `active` from being written, met first. -/
def obstacleWithin? (heap : Heap) : Nat → List Ident → Value → Option Fault
  | 0, _, _ => some Limit.tooDeep
  | depth + 1, active, ref identity =>
    if active.contains identity then none
    else
      let inside := obstacleWithin? heap depth (identity :: active)
      match heap.get? identity with
      | some (.list items _) => items.findSome? inside
      | some (.tuple items _) => items.findSome? inside
      | some (.dict items _) => items.findSome? fun item => (inside item.1).or (inside item.2)
      | some (.set _ members _ _) => members.findSome? inside
      | some (.error arguments _) => arguments.findSome? (obstacleWithin? heap depth active)
      | _ => none
  | _ + 1, _, value => value.scalarObstacle?

/-- What keeps a value from being written. -/
def obstacle? (heap : Heap) (value : Value) : Option Fault := obstacleWithin? heap Limit.depth [] value

/-- The text of a value that is made of at most so many errors inside one another. -/
def textWithin (heap : Heap) : Nat → Value → String
  | _, text value _ _ => value
  | _, path shown _ => shown
  | depth + 1, ref identity =>
    match heap.get? identity with
    | some (.error arguments type) =>
      Fault.textOf heap (textWithin heap depth) (written heap) type.plain arguments
    | _ => (ref identity).written heap
  | _, value => value.written heap

/-- The text of a value: a text itself, the characters of a path, what an error says, else the written form. -/
def toText (heap : Heap) (value : Value) : String := textWithin heap (heap.size + 1) value

end Value

end LiveConsole
