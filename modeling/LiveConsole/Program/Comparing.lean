import LiveConsole.Program.Store
import LiveConsole.Value.Compare

/-!
# Comparisons, keys and membership

Comparing two values gives a truth value, or a fault where the values have no order. Keys of a
dictionary and members of a set have to be values that stay as they are.
-/
namespace LiveConsole.Program

/-- The sign that names a comparison in a message. -/
def Comparison.sign : Comparison → String
  | equal => "=="
  | different => "!="
  | less => "<"
  | lessEqual => "<="
  | greater => ">"
  | greaterEqual => ">="
  | same => "is"
  | notSame => "is not"
  | member => "in"
  | notMember => "not in"

/-- Whether a comparison by order holds for an order. -/
def Comparison.accepts : Comparison → Ordering → Bool
  | less, order => order == .lt
  | lessEqual, order => order != .gt
  | greater, order => order == .gt
  | greaterEqual, order => order != .lt
  | _, _ => false

/-- The comparison that says the same from right to left. -/
def Comparison.swap : Comparison → Comparison
  | less => greater
  | lessEqual => greaterEqual
  | greater => less
  | greaterEqual => lessEqual
  | other => other

/-- What in a value may not be a key or a member: the value itself, or an item of a fixed sequence. -/
def changeableWithin? (heap : Heap) : Nat → Value → Option Value
  | 0, _ => none
  | depth + 1, value =>
    match value with
    | .ref identity =>
      match heap.get? identity with
      | some (.tuple items _) => items.findSome? (changeableWithin? heap depth)
      | some (.set frozen _ _ _) => if frozen then none else some value
      | some (.object ..) | some (.error ..) => none
      | _ => some value
    | _ => none

/-- What in a value may not be a key or a member. -/
def changeable? (heap : Heap) : Value → Option Value
  | value@(.ref _) => changeableWithin? heap (heap.size + 1) value
  | _ => none

/-- The integer that a number equals, if it equals one. -/
def wholeNumber? : Value → Option Int
  | .float value _ _ => value.toInt?
  | .complex re im _ _ => if im.isZero then re.toInt? else none
  | value => value.integer?

section Run

variable {World : Type}

/-- The fault of a value that may not be a key or a member. -/
def unhashable (heap : Heap) (value : Value) : Fault :=
  .ofType s!"unhashable type: '{value.typeName heap}'"

/-- Refuse a value that may not be a key or a member. -/
def requireKey (value : Value) : Run World Unit := do
  let heap ← currentHeap
  match changeable? heap value with
  | none => return ()
  | some part => throw (unhashable heap part)

/-- A truth value, unless values are nested too deep to tell. -/
def orTooDeep : Option Bool → Run World Bool
  | some value => return value
  | none => throw Limit.tooDeep

/-- Whether a value is one of the bytes, or a run of them. -/
def isAmongBytes (item : Value) (data : List UInt8) : Run World Bool := do
  match item.bytes? (← currentHeap) with
  | some part => return occursAmong part data
  | none =>
    match item.integer? with
    | some code =>
      if code < 0 || 256 ≤ code then throw (.raised "ValueError" "byte must be in range(0, 256)")
      return data.any fun byte => (byte.toNat : Int) == code
    | none =>
      throw (.ofType s!"a bytes-like object is required, not '{item.typeName (← currentHeap)}'")
where
  /-- Whether bytes occur as a run among others. -/
  occursAmong (part : List UInt8) : List UInt8 → Bool
    | [] => part.isEmpty
    | byte :: rest => part.isPrefixOf (byte :: rest) || occursAmong part rest

/-- A key in the form in which it is looked up: a set may be looked up among sets. -/
def requireMember (item : Value) : Run World Unit := do
  let heap ← currentHeap
  match item with
  | .ref identity =>
    match heap.get? identity with
    | some (.set ..) => return ()
    | _ => requireKey item
  | item => requireKey item

/-- Whether a value is an item of a container or a part of a text. -/
def isMember (item container : Value) : Run World Bool := do
  let heap ← currentHeap
  let refuse := throw (.ofType s!"argument of type '{container.typeName heap}' is not iterable")
  match container with
  | .text whole _ _ =>
    match item with
    | .text part _ _ => return occursIn part.toList whole.toList
    | item =>
      throw (.ofType
        s!"'in <string>' requires string as left operand, not {item.typeName heap}")
  | .bytes data _ _ => isAmongBytes item data
  | .range items _ => return (wholeNumber? item).any items.holds
  | .ref identity =>
    match heap.get? identity with
    | some (.list items _) => orTooDeep (Value.hasEqual (Value.equal? heap) item items)
    | some (.tuple items _) => orTooDeep (Value.hasEqual (Value.equal? heap) item items)
    | some (.buffer data _) => isAmongBytes item data
    | some (.dict items _) => do
      requireKey item
      return items.any fun entry => Value.isSameKey heap entry.1 item
    | some (.set _ members _ _) => do
      requireMember item
      return members.any (Value.isSameKey heap item)
    | _ => refuse
  | _ => refuse

/-- Whether two values are one and the same; all empty fixed sequences of the plain type are one. -/
def isIdentical (heap : Heap) (left right : Value) : Bool :=
  left == right || isEmptyTuple left && isEmptyTuple right
where
  /-- Whether a value is the empty fixed sequence. -/
  isEmptyTuple : Value → Bool
    | .ref identity => heap.get? identity == some (.tuple [] ⟨"tuple"⟩)
    | _ => false

/-- Compare two values. -/
def applyComparison (comparison : Comparison) (left right : Value) : Run World Bool := do
  let heap ← currentHeap
  match comparison with
  | .equal => orTooDeep (Value.equal? heap left right)
  | .different => return !(← orTooDeep (Value.equal? heap left right))
  | .same => return isIdentical heap left right
  | .notSame => return !isIdentical heap left right
  | .member => isMember left right
  | .notMember => return !(← isMember left right)
  | comparison =>
    match Value.order? heap left right with
    | .ok order => return order.any comparison.accepts
    | .error .tooDeep => throw Limit.tooDeep
    | .error (.unordered left right swapped) =>
      let asked := if swapped then comparison.swap else comparison
      throw (.ofType (s!"'{asked.sign}' not supported between instances of " ++
        s!"'{left.typeName heap}' and '{right.typeName heap}'"))

end Run

end LiveConsole.Program
