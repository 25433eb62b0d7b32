import LiveConsole.Program.Constant
import LiveConsole.Program.Scan

/-!
# Remarks on programs

A program may be odd and run all the same. What is odd about its tokens is known when it is cut, what is
odd about its statements before the first of them is run: an identity with something written out, a call
of something that cannot be called, and an assertion of a sequence in brackets, which always holds.
-/
namespace LiveConsole.Program

/-- Something odd about a program, with the number of the line. -/
structure Remark where
  /-- The line. -/
  line : Nat
  /-- What is odd. -/
  text : String
  deriving DecidableEq, Repr

namespace Remark

/-- What is odd about a token. -/
def ofToken? (token : Placed) : Option Remark := token.place.oddity.map fun text => ⟨token.place.line, text⟩

/-- Whether an expression is a constant of which more than one may be in use. -/
def isWrittenOut : Expr → Bool
  | .constant .nothing => false
  | .constant (.bool _) => false
  | .constant _ => true
  | _ => false

/-- What is said of the first comparison in a chain that asks whether something written out is the same
value as another one. -/
def identity? (left : Expr) : List Comparison → List Expr → Option String
  | comparison :: comparisons, right :: rest =>
    let isOdd := isWrittenOut left || isWrittenOut right
    if comparison == .same && isOdd then some "\"is\" with a literal. Did you mean \"==\"?"
    else if comparison == .notSame && isOdd then some "\"is not\" with a literal. Did you mean \"!=\"?"
    else identity? right comparisons rest
  | _, _ => none

/-- The type of the value of an expression that cannot be called. -/
def uncallable? : Expr → Option String
  | .constant .nothing => some "NoneType"
  | .constant (.bool _) => some "bool"
  | .constant (.int _) => some "int"
  | .constant (.text _) => some "str"
  | .constant (.tuple _) => some "tuple"
  | .tuple _ => some "tuple"
  | .list _ => some "list"
  | .dict _ => some "dict"
  | .set _ => some "set"
  | _ => none

/-- What is said of a call of something that cannot be called. -/
def callText (type : String) : String := s!"'{type}' object is not callable; perhaps you missed a comma?"

/-- What is said of an assertion that always holds. -/
def assertionText : String := "assertion is always true, perhaps remove parentheses?"

/-- Whether an expression is a fixed sequence with items. -/
def isFilledTuple : Expr → Bool
  | .tuple items => !items.isEmpty
  | .constant (.tuple items) => !items.isEmpty
  | _ => false

end Remark

namespace Expr

mutual

/-- What is odd about an expression whose constants are worked out: the whole before its parts. -/
def remarks : Expr → List Remark
  | tuple items => remarksOfList items
  | list items => remarksOfList items
  | dict items => remarksOfList items
  | set members => remarksOfList members
  | negate operand => operand.remarks
  | plus operand => operand.remarks
  | not operand => operand.remarks
  | binary _ left right => left.remarks ++ right.remarks
  | compare line first comparisons rest =>
    ((Remark.identity? first comparisons rest).toList.map fun text => ⟨line, text⟩) ++
      first.remarks ++ remarksOfList rest
  | and left right => left.remarks ++ right.remarks
  | or left right => left.remarks ++ right.remarks
  | call line function arguments =>
    ((Remark.uncallable? function).toList.map fun type => ⟨line, Remark.callText type⟩) ++
      function.remarks ++ remarksOfList arguments
  | append target arguments => target.remarks ++ remarksOfList arguments
  | _ => []

/-- What is odd about expressions in a row. -/
def remarksOfList : List Expr → List Remark
  | [] => []
  | expr :: rest => expr.remarks ++ remarksOfList rest

end

end Expr

/-- A part of a program that is looked at as a whole: what is odd about it, and the names that it binds or
unbinds. -/
structure Passage where
  /-- What is odd about it. -/
  remarks : List Remark
  /-- The names that it binds or unbinds. -/
  changed : List String

/-- The passage of a condition. -/
def Passage.ofCondition (condition : Expr) : Passage := ⟨condition.remarks, []⟩

/-- The passage of a statement without a body. -/
def Simple.passage (statement : Simple) : Passage :=
  let always :=
    match statement with
    | .assert line condition _ => if Remark.isFilledTuple condition then [⟨line, Remark.assertionText⟩] else []
    | _ => []
  ⟨always ++ statement.expressions.flatMap Expr.remarks, statement.changed⟩

/-- The passages of a statement; the condition of a loop is looked at once more behind its body. -/
def Statement.passages : Statement → List Passage
  | simple statement => [statement.passage]
  | forEach target items body => ⟨items.remarks, [target]⟩ :: body.map Simple.passage
  | repeatWhile condition body =>
    .ofCondition condition :: body.map Simple.passage ++ [.ofCondition condition]
  | when condition body => .ofCondition condition :: body.map Simple.passage

/-- What is remarked on passages up to the first one that binds the name that cannot be bound, and
whether there is none. -/
def lookThrough : List Passage → List Remark × Bool
  | [] => ([], true)
  | passage :: rest =>
    if passage.changed.contains fixedName then (passage.remarks, false)
    else
      let (remarks, isSound) := lookThrough rest
      (passage.remarks ++ remarks, isSound)

end LiveConsole.Program
