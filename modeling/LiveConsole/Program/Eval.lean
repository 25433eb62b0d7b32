import LiveConsole.Program.Calling
import LiveConsole.Program.Operation

/-!
# Running evaluated code

Expressions are evaluated from left to right, statements one after another. A loop goes through what is
there when it gets to it: a list may grow meanwhile, a set may not change its size.
-/
namespace LiveConsole.Program

section Run

variable {World : Type}

/-- Neighbours in a list of keys and values. -/
def pairUp : List Value → List (Value × Value)
  | key :: value :: rest => (key, value) :: pairUp rest
  | _ => []

/-- The number of pairs that are put into a dictionary together. -/
def pairsTogether : Nat := 17

/-- How many pairs of a dictionary are put in one by one, each before the next one is evaluated: those
that make up whole portions, or lack one pair of a portion. -/
def enteredEarly (pairs : Nat) : Nat :=
  if pairs % pairsTogether + 1 = pairsTogether then pairs else pairs - pairs % pairsTogether

/-- The number of members of a set that are all evaluated before the first one is put in. -/
def manyMembers : Nat := 30

variable (scope : Scope World)

mutual

/-- The value of an expression. -/
def eval : Expr → Run World Value
  | .constant value => return scope.valueOf value
  | .name name => lookupName scope name
  | .tuple items => do allocate (.tuple (← evalList items) ⟨"tuple"⟩)
  | .list items => do allocate (.list (← evalList items) ⟨"list"⟩)
  | .dict items => do
    let items := pairUp (← evalPairs (enteredEarly (items.length / 2)) items)
    items.forM fun item => requireKey item.1
    allocate (.dictOf (← currentHeap) items ⟨"dict"⟩)
  | .set members => do
    let values ← evalMembers (manyMembers < members.length) members
    values.forM requireKey
    let heap ← currentHeap
    let values := Members.grown heap (Cell.distinct heap values)
    let isCopy := 2 < members.length && (Expr.constants? members).isSome
    let values := if isCopy then (Members.grown heap values.inOrder).copied heap else values
    allocate (values.cell false ⟨"set"⟩)
  | .negate operand => do applySign true (← eval operand)
  | .plus operand => do applySign false (← eval operand)
  | .not operand => do
    let value ← eval operand
    return .bool (!value.truthy (← currentHeap))
  | .binary operator left right => do
    let left ← eval left
    let right ← eval right
    applyOperator operator operator.sign left right
  | .compare _ first comparisons rest => do
    let first ← eval first
    evalChain first comparisons rest
  | .and left right => do
    let left ← eval left
    if left.truthy (← currentHeap) then eval right else return left
  | .or left right => do
    let left ← eval left
    if left.truthy (← currentHeap) then return left else eval right
  | .call _ function arguments => do
    let function ← eval function
    let arguments ← evalList arguments
    callValue function arguments
  | .append target arguments => do
    let target ← eval target
    requireGrowing target
    let arguments ← evalList arguments
    appendItem target arguments

/-- The values of expressions, from left to right. -/
def evalList : List Expr → Run World (List Value)
  | [] => return []
  | expr :: rest => do
    let value ← eval expr
    let values ← evalList rest
    return value :: values

/-- Keys and values from left to right; keys are put in at once as far as the number of pairs says. -/
def evalPairs (early : Nat) : List Expr → Run World (List Value)
  | key :: value :: rest => do
    let key ← eval key
    let value ← eval value
    if 0 < early then requireKey key
    let others ← evalPairs (early - 1) rest
    return key :: value :: others
  | _ => return []

/-- The members of a set from left to right, each put in at once or all together afterwards. -/
def evalMembers (early : Bool) : List Expr → Run World (List Value)
  | [] => return []
  | expr :: rest => do
    let value ← eval expr
    if early then requireKey value
    let values ← evalMembers early rest
    return value :: values

/-- Whether every comparison of a chain holds, from left to right as long as they do. -/
def evalChain (left : Value) (comparisons : List Comparison) : List Expr → Run World Value
  | [] => return .bool true
  | expr :: rest => do
    match comparisons with
    | [] => return .bool true
    | comparison :: comparisons =>
      let right ← eval expr
      let holds ← applyComparison comparison left right
      if rest.isEmpty then return .bool holds
      else if holds then evalChain right comparisons rest
      else return .bool false

end

/-- The fault of a value that is no error. -/
def notRaisable : Fault := .ofType "exceptions must derive from BaseException"

/-- Raise the error that an expression names or builds. -/
def runRaise (error : Option Expr) : Run World Unit := do
  match error with
  | none => throw (.raised "RuntimeError" "No active exception to reraise")
  | some error =>
    let value ← eval scope error
    let heap ← currentHeap
    match value with
    | .errorClass kind => throw (.ofArguments heap kind [])
    | .ref identity =>
      match heap.get? identity with
      | some (.error arguments type) => throw (.ofMade heap (type.plain, arguments))
      | _ => throw notRaisable
    | _ => throw notRaisable

/-- An operator that changes a list or a set in place where it can. -/
def applyUpdate (operator : Operator) (left right : Value) : Run World Value := do
  let heap ← currentHeap
  let sign := operator.sign ++ "="
  let areNumbers := (Operand.ofValue? left).isSome && (Operand.ofValue? right).isSome
  let isRefused := operator == .multiply && !areNumbers && (sequence? heap left).isNone &&
    mayRepeat heap left
  let other :=
    if isRefused then throw (unsupported heap sign left right)
    else applyOperator operator sign left right
  match left with
  | .ref identity =>
    match heap.get? identity, operator with
    | some (.list items type), .add =>
      let more ← itemsOf right
      replaceCell identity (.list (items ++ more) type)
      return left
    | some (.list items type), .multiply =>
      match right.integer? with
      | some times =>
        let times ← requireCount times
        requireRoom items.length times Limit.noRoom
        replaceCell identity (.list (repeatItems items times) type)
        return left
      | none => other
    | some (.buffer data type), .add =>
      match right.bytes? heap with
      | some more =>
        if left == right && !data.isEmpty then
          throw (.raised "BufferError" "Existing exports of data: object cannot be re-sized")
        replaceCell identity (.buffer (data ++ more) type)
        return left
      | none => other
    | some (.buffer data type), .multiply =>
      match right.integer? with
      | some times =>
        let times ← requireCount times
        requireRoom data.length times Limit.noRoom
        replaceCell identity (.buffer (repeatItems data times) type)
        return left
      | none => other
    | some (.set false members table type), .subtract =>
      match set? heap right with
      | some (_, others) => loseMembers left right ⟨members, table⟩ others type identity
      | none => other
    | _, _ => other
  | _ => other

/-- Run a simple statement. -/
def runSimple : Simple → Run World Unit
  | .expression value => do
    let _ ← eval scope value
    return ()
  | .assign targets value => do
    let value ← eval scope value
    targets.forM fun target => bindName scope target value
  | .update target operator value => do
    let left ← lookupName scope target
    let right ← eval scope value
    let value ← applyUpdate operator left right
    bindName scope target value
  | .delete targets => targets.forM (unbindName scope)
  | .pass => return ()
  | .global _ => return ()
  | .bindModules names => names.forM fun name => do
    let value ← scope.findModule name
    bindName scope (topModule name) value
  | .raise error => runRaise scope error
  | .assert _ condition message => do
    let value ← eval scope condition
    if value.truthy (← currentHeap) then return ()
    match message with
    | none => throw (.raised "AssertionError" "")
    | some message => do
      let value ← eval scope message
      throw (.ofArguments (← currentHeap) "AssertionError" [value])

/-- Run simple statements in order. -/
def runBody (body : List Simple) : Run World Unit := body.forM (runSimple scope)

/-- Run a body as long as a condition counts as true. -/
def runWhile (condition : Expr) (body : List Simple) : Nat → Run World Unit
  | 0 => throw .unfinished
  | rounds + 1 => do
    let value ← eval scope condition
    if value.truthy (← currentHeap) then
      runBody scope body
      runWhile condition body rounds
    else return ()

/-- The items that a loop goes through; a set of constants is one that stays and is laid out once. -/
def evalItems : Expr → Run World Value
  | .set members => do
    match Expr.constants? members with
    | none => eval scope (.set members)
    | some constants => do
      let heap ← currentHeap
      let first := Members.grown heap (Cell.distinct heap (constants.map scope.valueOf))
      allocate ((Members.grown heap first.inOrder).cell true ⟨"frozenset"⟩)
  | items => eval scope items

/-- Run a statement. -/
def runStatement : Statement → Run World Unit
  | .simple statement => runSimple scope statement
  | .forEach target items body => do
    let items ← evalItems scope items
    let round := fun item => do
      bindName scope target item
      runBody scope body
    forEachItem round scope.patience items
  | .repeatWhile condition body => runWhile scope condition body scope.patience
  | .when condition body => do
    let value ← eval scope condition
    if value.truthy (← currentHeap) then runBody scope body else return ()

/-- Run statements in order. -/
def runAll (statements : List Statement) : Run World Unit := statements.forM (runStatement scope)

end Run

end LiveConsole.Program
