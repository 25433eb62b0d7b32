import LiveConsole.Line
import LiveConsole.Program.Eval
import LiveConsole.Program.Read

/-!
# Executing code in a namespace

Code that opens with `return` is evaluated for its value: its statements run in order, and the value is
that of the last one if that is an expression, which is a program of its own. All other code runs for
its effects. Equal constants of one program are one value, and a text that stands as its first statement
describes it and is bound to a name of its own. What is written to the output meanwhile is captured; a
fault leaves nothing captured but everything bound.
-/
namespace LiveConsole.Program

/-- What came of executing code: what it wrote and the value it produced. -/
structure Execution where
  /-- What was written to the output. -/
  output : String
  /-- The value produced, with the containers as they were then. -/
  value : Graph

/-- Whether code holds nothing but blanks around semicolons around blanks. -/
def isOnlySeparators (code : String) : Bool :=
  let isSeparator := fun c => c == ';'
  let inner := Text.dropEndWhile isSeparator ((Text.trim code.toList).dropWhile isSeparator)
  (Text.trim inner).isEmpty

/-- The last statement, where it is an expression, and the statements before it. -/
def splitLast : List Statement → List Statement × Option Expr
  | [] => ([], none)
  | [.simple (.expression value)] => ([], some value)
  | [statement] => ([statement], none)
  | statement :: rest =>
    let (head, last) := splitLast rest
    (statement :: head, last)

/-- How often a conditional loop may go round: longer than anyone waits. -/
def usualPatience : Nat := 1000000000000000000

variable {World : Type} (scope : Scope World)

/-- Whether a constant needs no value of its own in a program: it is the same everywhere, or known. -/
def isSettled (known : Constants) (constant : Constant) : Bool :=
  constant.common?.isSome || known.any (·.1.isSame constant)

mutual

/-- The values of constants known so far, with those of one more and of what is in it. -/
def addConstant (known : Constants) : Constant → Run World Constants
  | .int value => do
    if isSettled known (.int value) then return known
    return (.int value, ← newInt value) :: known
  | .text value => do
    if isSettled known (.text value) then return known
    return (.text value, ← newText value) :: known
  | .tuple items => do
    if isSettled known (.tuple items) then return known
    let known ← addConstants known items
    let values := items.map ({ scope with constants := known } : Scope World).valueOf
    return (.tuple items, ← allocate (.tuple values ⟨"tuple"⟩)) :: known
  | _ => return known

/-- The values of constants known so far, with those of some more. -/
def addConstants (known : Constants) : List Constant → Run World Constants
  | [] => return known
  | constant :: rest => do addConstants (← addConstant known constant) rest

end

/-- The scope of a program that holds some expressions: each of their constants is one value. -/
def scopeFor (expressions : List Expr) : Run World (Scope World) := do
  return { scope with constants := ← addConstants scope [] (Expr.constantsOfList expressions) }

/-- Refuse a program with too many expressions inside one another. -/
def requireDepth (limit depth : Nat) : Run World Unit :=
  if limit < depth then throw Limit.tooDeep else return ()

/-- The number of expressions that may be inside one another in code that is run for its effects. -/
def greatestDepth : Nat := 3 * Limit.depth

/-- The name that the description of a program is bound to. -/
def descriptionName : String := "__doc__"

/-- The description of a program: a text, written as it is, that stands as its first statement. -/
def description? : List Statement → Option String
  | .simple (.expression (.constant (.text value))) :: _ => some value
  | _ => none

/-- Look through statements whose constants are worked out: each declared name has to be declared before
it is mentioned, and the name that cannot be bound may not be bound. -/
def lookAt (statements : List Statement) : Run World Unit := do
  if !declaredInTime [] (flattenAll statements) then throw .malformed
  let (remarks, isSound) := lookThrough (statements.flatMap Statement.passages)
  remarks.forM scope.remark
  if isSound then return () else throw .malformed

/-- Bind the description of a program, if it has one. -/
def describe (statements : List Statement) : Run World Unit :=
  match description? statements with
  | some text => bindName scope descriptionName (scope.valueOf (.text text))
  | none => return ()

/-- Run a program, whose description is bound first. -/
def runProgram (statements : List Statement) : Run World Unit := do
  let folded := statements.map Statement.fold
  lookAt scope folded
  let scope ← scopeFor scope (expressionsOf folded)
  describe scope statements
  runAll scope folded

/-- Run statements and then an expression as a program of its own, which is refused only once they were run.
The constants of the two are not the same values. -/
def runInTwo (head : List Statement) (last : Expr) : Run World Value := do
  let folded := head.map Statement.fold
  lookAt scope folded
  let headScope ← scopeFor scope (expressionsOf folded)
  let lastScope ← scopeFor scope [last.fold]
  describe headScope head
  runAll headScope folded
  requireDepth Limit.depth last.depth
  last.fold.remarks.forM scope.remark
  eval lastScope last.fold

/-- The statements of code. -/
def statementsOf (code : String) : Run World (List Statement) := do
  let reading := read code
  reading.remarks.forM scope.remark
  let statements ← reading.outcome
  requireDepth greatestDepth (depthOf statements)
  return statements

/-- Run code for its effects. -/
def runCode (code : String) : Run World Value := do
  runProgram scope (← statementsOf scope code)
  return .nothing

/-- Run code for its value. -/
def evaluateCode (code : String) : Run World Value := do
  if isOnlySeparators code then return .nothing
  let (head, last) := splitLast (← statementsOf scope code)
  requireDepth Limit.depth (depthOf head)
  match last with
  | none => do
    runProgram scope head
    return .nothing
  | some last => runInTwo scope head last

/-- Run code for its value when it opens with `return`, else for its effects. -/
def dispatch (code : String) : Run World Value :=
  match Line.returned? code with
  | some body => evaluateCode scope body
  | none => runCode scope code

/-- Run a step and capture what it writes to the output. -/
def capture (step : Run World Value) (store : Store World) : Except Fault Execution × Store World :=
  let (outcome, after) := step.run { store with output := "" }
  let restored := { after with output := store.output }
  match outcome with
  | .ok value => (.ok ⟨after.output, after.heap, value⟩, restored)
  | .error fault => (.error fault, restored)

/-- Execute code and capture its output. -/
def execute (code : String) (store : Store World) : Except Fault Execution × Store World :=
  capture (dispatch scope code) store

end LiveConsole.Program
