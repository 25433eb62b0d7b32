import LiveConsole.Number.Arithmetic
import LiveConsole.Program.Store
import LiveConsole.Value.Members
import LiveConsole.Value.Formatted

/-!
# Operators

Operators work on numbers of one kind, after the narrower one of two numbers has been widened; on texts,
byte strings and sequences, which are joined and repeated; and on sets, of which one is taken from
another. An operator behind which a name stands is named by its sign in messages.
-/
namespace LiveConsole.Program

open Number (Binary64)

/-- The sign that names an operator in a message. -/
def Operator.sign : Operator → String
  | add => "+"
  | subtract => "-"
  | multiply => "*"
  | floorDivide => "//"
  | modulo => "%"

/-- A number as an operand, of the narrowest kind that holds it. -/
inductive Operand where
  /-- An integer. -/
  | integer (value : Int)
  /-- A floating point number. -/
  | float (value : Binary64)
  /-- A complex number. -/
  | complex (re : Binary64) (im : Binary64)

namespace Operand

/-- The operand that a value is, if it is a number. -/
def ofValue? : Value → Option Operand
  | .bool value => some (integer (if value then 1 else 0))
  | .int value _ _ => some (integer value)
  | .float value _ _ => some (float value)
  | .complex re im _ _ => some (complex re im)
  | _ => none

/-- The fault of an integer that is too large for a floating point number. -/
def tooLarge : Fault := .raised "OverflowError" "int too large to convert to float"

/-- An integer as a floating point number. -/
def widen (value : Int) : Except Fault Binary64 :=
  match Binary64.ofInt value with
  | .infinite _ => .error tooLarge
  | value => .ok value

end Operand

/-- The fault of a division by zero. -/
def divisionFault (message : String) : Fault := .raised "ZeroDivisionError" message

/-- An operator between two integers. -/
def integerOperator (operator : Operator) (left right : Int) : Except Fault Int :=
  match operator with
  | .add => .ok (left + right)
  | .subtract => .ok (left - right)
  | .multiply => .ok (left * right)
  | .floorDivide =>
    if right = 0 then .error (divisionFault "integer division or modulo by zero")
    else .ok (left.fdiv right)
  | .modulo =>
    if right = 0 then .error (divisionFault "integer modulo by zero") else .ok (left.fmod right)

/-- An operator between two floating point numbers. -/
def floatOperator (operator : Operator) (left right : Binary64) : Except Fault Binary64 :=
  match operator with
  | .add => .ok (left.add right)
  | .subtract => .ok (left.subtract right)
  | .multiply => .ok (left.multiply right)
  | .floorDivide =>
    if right.isZero then .error (divisionFault "float floor division by zero")
    else .ok (left.floorQuotient right)
  | .modulo => if right.isZero then .error (divisionFault "float modulo") else .ok (left.modulo right)

/-- A complex number as its real and its imaginary part. -/
abbrev Parts := Binary64 × Binary64

/-- Whether an operator is one for complex numbers. -/
def isComplexOperator : Operator → Bool
  | .add | .subtract | .multiply => true
  | _ => false

/-- An operator between two complex numbers, if it is one for them. -/
def complexOperator? (operator : Operator) (left right : Parts) : Option Parts :=
  match operator with
  | .add => some (left.1.add right.1, left.2.add right.2)
  | .subtract => some (left.1.subtract right.1, left.2.subtract right.2)
  | .multiply =>
    some ((left.1.multiply right.1).subtract (left.2.multiply right.2),
      (left.1.multiply right.2).add (left.2.multiply right.1))
  | _ => none

/-- The parts of an operand as a complex number. -/
def Operand.parts : Operand → Except Fault Parts
  | integer value => return (← widen value, Binary64.zero false)
  | float value => .ok (value, Binary64.zero false)
  | complex re im => .ok (re, im)

/-- An operator between two numbers: outer `none` where it is none for them. -/
def numberOperator? (operator : Operator) (left right : Operand) : Option (Except Fault Operand) :=
  match left, right with
  | .integer left, .integer right => some ((integerOperator operator left right).map .integer)
  | .float left, .float right => some ((floatOperator operator left right).map .float)
  | .integer left, .float right =>
    some (do return .float (← floatOperator operator (← Operand.widen left) right))
  | .float left, .integer right =>
    some (do return .float (← floatOperator operator left (← Operand.widen right)))
  | left, right =>
    match left.parts, right.parts with
    | .ok left, .ok right =>
      (complexOperator? operator left right).map fun parts => .ok (.complex parts.1 parts.2)
    | .error fault, _ => if isComplexOperator operator then some (.error fault) else none
    | _, .error fault => if isComplexOperator operator then some (.error fault) else none

section Run

variable {World : Type}

/-- A number as a value of its own. -/
def numberValue : Operand → Run World Value
  | .integer value => newInt value
  | .float value => return .ofFloat value (← freshIdent)
  | .complex re im => return .complex re im ⟨"complex"⟩ (← freshIdent)

/-- The kinds of values that are joined and repeated. -/
inductive Sequence where
  /-- A text. -/
  | text (value : String)
  /-- A byte string, with its type. -/
  | bytes (growable : Bool) (data : List UInt8)
  /-- A list. -/
  | list (items : List Value)
  /-- A fixed sequence, and whether it is of the plain type. -/
  | tuple (items : List Value) (plain : Bool)

/-- The sequence that a value is, if it is one. -/
def sequence? (heap : Heap) : Value → Option Sequence
  | .text value _ _ => some (.text value)
  | .bytes data _ _ => some (.bytes false data)
  | .ref identity =>
    match heap.get? identity with
    | some (.list items _) => some (.list items)
    | some (.tuple items type) => some (.tuple items (type.qualified == "tuple"))
    | some (.buffer data _) => some (.bytes true data)
    | _ => none
  | _ => none

/-- A byte string of a plain type. -/
def bytesValue (growable : Bool) (data : List UInt8) : Run World Value :=
  if growable then allocate (.buffer data ⟨"bytearray"⟩) else newBytes data

/--
Whether a value's type may have the operations of sequences: that of a container, or one that is defined
by a program. In place such a value is repeated itself or not at all.
-/
def mayRepeat (heap : Heap) : Value → Bool
  | .nothing | .bool _ | .module _ | .errorClass _ | .host .. | .hostFault .. => false
  | .builtin (.leave _) => true
  | .builtin _ => false
  | value@(.int ..) => value.typeName heap != "int"
  | value@(.float ..) => value.typeName heap != "float"
  | value@(.complex ..) => value.typeName heap != "complex"
  | .text .. | .bytes .. | .path .. | .range .. | .foreign .. => true
  | .ref identity =>
    match heap.get? identity with
    | some (.error _ type) => type.plain == "ExceptionGroup"
    | _ => true

/-- The fault of an operator, named by its sign, that has no meaning between two values. -/
def unsupported (heap : Heap) (sign : String) (left right : Value) : Fault :=
  .ofType (s!"unsupported operand type(s) for {sign}: '{left.typeName heap}' and " ++
    s!"'{right.typeName heap}'")

/-- A fault of an operator, named by its sign, between values that it does not take. -/
def operatorFault (heap : Heap) (operator : Operator) (sign : String) (left right : Value) : Fault :=
  let leftName := left.typeName heap
  let rightName := right.typeName heap
  if operator == .multiply && (sequence? heap left).isSome then
    .ofType s!"can't multiply sequence by non-int of type '{rightName}'"
  else if operator == .multiply && (sequence? heap right).isSome then
    .ofType s!"can't multiply sequence by non-int of type '{leftName}'"
  else unsupported heap sign left right

/-- A number of repetitions as a natural number. -/
def requireCount (times : Int) : Run World Nat :=
  if Limit.isCount times then return times.toNat else throw Limit.notCount

/-- Refuse to repeat what would not fit: more than can be counted, or than there is room for. -/
def requireRoom (size times : Nat) (uncountable : Fault) : Run World Unit :=
  if size = 0 then return ()
  else if Limit.count / size < times then throw uncountable
  else if Limit.room / size < times then throw Limit.noRoom
  else return ()

/-- Items repeated. -/
def repeatItems {Item : Type} (items : List Item) (times : Nat) : List Item :=
  if items.isEmpty then [] else (List.replicate times items).flatten

/-- Whether a value is a text or a byte string of a plain type. -/
def isPlainString : Value → Bool
  | .text _ type _ => type.qualified == "str"
  | .bytes _ type _ => type.qualified == "bytes"
  | _ => false

/-- A sequence repeated. -/
def repeatSequence (value : Value) (sequence : Sequence) (times : Int) : Run World Value := do
  let times ← requireCount times
  match sequence with
  | .text text =>
    requireRoom text.length times (.raised "OverflowError" "repeated string is too long")
    if times = 1 && isPlainString value then return value
    newText (String.ofList (repeatItems text.toList times))
  | .bytes growable data =>
    if isPlainString value && (data.isEmpty || times = 1) then return value
    requireRoom data.length times
      (if growable then Limit.noRoom else .raised "OverflowError" "repeated bytes are too long")
    if growable then bytesValue growable (repeatItems data times)
    else return .bytes (repeatItems data times) ⟨"bytes"⟩ (← freshIdent)
  | .list items =>
    requireRoom items.length times Limit.noRoom
    allocate (.list (repeatItems items times) ⟨"list"⟩)
  | .tuple items plain =>
    if plain && (items.isEmpty || times = 1) then return value
    requireRoom items.length times Limit.noRoom
    allocate (.tuple (repeatItems items times) ⟨"tuple"⟩)

/-- Two values joined, the first one a sequence. -/
def joinSequences (left right : Value) (sequence : Sequence) : Run World Value := do
  let heap ← currentHeap
  let name := right.typeName heap
  let refuse := fun kind : String => .ofType s!"can only concatenate {kind} (not \"{name}\") to {kind}"
  match sequence, sequence? heap right with
  | .text leftText, some (.text rightText) =>
    if leftText.isEmpty && isPlainString left && isPlainString right then return right
    else if rightText.isEmpty && isPlainString right && isPlainString left then return left
    else newText (leftText ++ rightText)
  | .text _, _ => throw (refuse "str")
  | .bytes growable leftData, some (.bytes _ rightData) =>
    if !growable && leftData.isEmpty && isPlainString right then return right
    else if !growable && rightData.isEmpty && isPlainString left then return left
    else bytesValue growable (leftData ++ rightData)
  | .bytes .., _ => throw (.ofType s!"can't concat {name} to {left.typeName heap}")
  | .list left, some (.list right) => allocate (.list (left ++ right) ⟨"list"⟩)
  | .list _, _ => throw (refuse "list")
  | .tuple leftItems leftPlain, some (.tuple rightItems rightPlain) =>
    if leftItems.isEmpty && rightPlain then return right
    else if rightItems.isEmpty && leftPlain then return left
    else allocate (.tuple (leftItems ++ rightItems) ⟨"tuple"⟩)
  | .tuple .., _ => throw (refuse "tuple")

/-- The members of a set, and whether it is frozen. -/
def set? (heap : Heap) : Value → Option (Bool × Members)
  | .ref identity =>
    match heap.get? identity with
    | some (.set frozen members table _) => some (frozen, ⟨members, table⟩)
    | _ => none
  | _ => none

/-- A set without the members of another one. -/
def subtractSets (left right : Bool × Members) : Run World Value := do
  let heap ← currentHeap
  let name := if left.1 then "frozenset" else "set"
  allocate ((left.2.without heap right.2).cell left.1 ⟨name⟩)

/-- A set that has lost the members of another one, in place; without its own members it starts afresh. -/
def loseMembers (left right : Value) (members others : Members) (type : TypeName) (identity : Ident) :
    Run World Value := do
  let heap ← currentHeap
  let remain := if left == right then .empty else members.lose heap others
  replaceCell identity (remain.cell false type)
  return left

/-- A format with its places filled. -/
def fillFormat (medium : Formatted.Medium) (format : List Char) (arguments : Value) :
    Run World (List Formatted.Piece) := do
  match Formatted.fill (← currentHeap) medium format arguments with
  | .ok filled => return filled
  | .error fault => throw fault

/-- The number of binary digits that an integer is kept in at a time. -/
def limbDigits : Nat := 30

/-- The number of limbs of a natural number. -/
def limbs (value : Nat) : Nat := if value = 0 then 0 else value.log2 / limbDigits + 1

/-- The most significant limb of a natural number. -/
def topLimb (value : Nat) : Nat := value >>> (limbDigits * (limbs value - 1))

/-- Whether an integer is seen at once to be the remainder of its own division: one of several limbs by
one of more limbs, or of a greater most significant one, with the same sign. -/
def isOwnRemainder (left right : Int) : Bool :=
  let (leftLimbs, rightLimbs) := (limbs left.natAbs, limbs right.natAbs)
  1 < rightLimbs && (decide (left < 0) == decide (right < 0)) &&
    (leftLimbs < rightLimbs ||
      (leftLimbs == rightLimbs && topLimb left.natAbs < topLimb right.natAbs))

/-- An operator between two values; the sign names it in messages. -/
def applyOperator (operator : Operator) (sign : String) (left right : Value) : Run World Value := do
  let heap ← currentHeap
  let refuse := throw (operatorFault heap operator sign left right)
  match Operand.ofValue? left, Operand.ofValue? right with
  | some leftNumber, some rightNumber =>
    match numberOperator? operator leftNumber rightNumber with
    | some (.ok number) =>
      match operator, left, right.integer? with
      | .modulo, .int value ⟨"int"⟩ _, some divisor =>
        if isOwnRemainder value divisor then return left else numberValue number
      | _, _, _ => numberValue number
    | some (.error fault) => throw fault
    | none => refuse
  | _, _ =>
    match operator with
    | .add =>
      match sequence? heap left with
      | some sequence => joinSequences left right sequence
      | none => refuse
    | .multiply =>
      match sequence? heap left, right.integer?, sequence? heap right, left.integer? with
      | some sequence, some times, _, _ => repeatSequence left sequence times
      | _, _, some sequence, some times => repeatSequence right sequence times
      | _, _, _, _ => refuse
    | .subtract =>
      match set? heap left, set? heap right with
      | some left, some right => subtractSets left right
      | _, _ => refuse
    | .modulo =>
      match left with
      | .text format _ _ =>
        let filled ← fillFormat .text format.toList right
        if format.isEmpty || format.contains '%' then
          match Formatted.Piece.source? filled with
          | some value => return value
          | none => newText (String.ofList (Formatted.Piece.join filled))
        else return left
      | left =>
        match sequence? heap left with
        | some (.bytes growable format) =>
          let filled ← fillFormat .bytes (Formatted.Medium.ofBytes format) right
          bytesValue growable (Formatted.Medium.toBytes (Formatted.Piece.join filled))
        | _ => refuse
    | .floorDivide => refuse

/-- A sign in front of a value. -/
def applySign (negative : Bool) (value : Value) : Run World Value := do
  match Operand.ofValue? value with
  | some (.integer integer) =>
    match negative, value with
    | false, .int _ ⟨"int"⟩ _ => return value
    | _, _ => newInt (if negative then -integer else integer)
  | some (.float number) =>
    if negative then numberValue (.float number.negate) else return .ofFloat number (identityOf value)
  | some (.complex re im) =>
    if negative then numberValue (.complex re.negate im.negate)
    else return .complex re im ⟨"complex"⟩ (identityOf value)
  | none =>
    let sign := if negative then "-" else "+"
    throw (.ofType s!"bad operand type for unary {sign}: '{value.typeName (← currentHeap)}'")
where
  /-- The identity of a number that has one. -/
  identityOf : Value → Ident
    | .float _ _ identity => identity
    | .complex _ _ _ identity => identity
    | _ => 0

end Run

end LiveConsole.Program
