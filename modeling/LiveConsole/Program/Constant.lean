import LiveConsole.Program.Syntax
import LiveConsole.Value.Limit

/-!
# Constants

An expression made of literals only has a value that is known before the program runs. Such a constant
is worked out once, and equal constants of one program are one and the same value, however often and in
however many places they stand. An operator whose outcome would be large, or that has none, is left for
the run.
-/
namespace LiveConsole.Program

namespace Constant

/-- The greatest number of binary digits of a product that is worked out before the run. -/
def greatestProduct : Nat := 128

/-- The greatest number of items of a repeated sequence that is worked out before the run. -/
def greatestSequence : Nat := 256

/-- The greatest number of items, those inside others included, in a repeated sequence. -/
def greatestTotal : Nat := 1024

/-- The greatest number of characters of a repeated text that is worked out before the run. -/
def greatestText : Nat := 4096

/-- Whether a constant counts as true. -/
def truthy : Constant → Bool
  | nothing => false
  | bool value => value
  | int value => value != 0
  | text value => !value.isEmpty
  | tuple items => !items.isEmpty

/-- The integer that a truth value or an integer stands for. -/
def integer? : Constant → Option Int
  | bool value => some (if value then 1 else 0)
  | int value => some value
  | _ => none

mutual

/-- The number of items of a constant, those inside others included. -/
def total : Constant → Nat
  | tuple items => totalOfList items
  | _ => 0

/-- The number of items of constants in a row, and of those inside them. -/
def totalOfList : List Constant → Nat
  | [] => 0
  | item :: items => 1 + item.total + totalOfList items

end

/-- The number of binary digits of an integer. -/
def binaryDigits (value : Int) : Nat := if value = 0 then 0 else value.natAbs.log2 + 1

/-- A text repeated, unless the outcome is large. -/
def repeatText? (text : String) (times : Int) : Option Constant :=
  if text.isEmpty then some (.text "")
  else if times < 0 || (greatestText / text.length : Nat) < times then none
  else some (.text (String.join (List.replicate times.toNat text)))

/-- A fixed sequence repeated, unless the outcome is large. -/
def repeatItems? (items : List Constant) (times : Int) : Option Constant :=
  if items.isEmpty then some (.tuple [])
  else if times < 0 || (greatestSequence / items.length : Nat) < times ||
      (0 < times && (greatestTotal : Int) / times < totalOfList items) then none
  else some (.tuple (List.replicate times.toNat items).flatten)

/-- A number of repetitions, if it can be one. -/
def countable? (times : Int) : Option Int := if Limit.isCount times then some times else none

/-- The product of two constants. -/
def multiply? (left right : Constant) : Option Constant := do
  match left.integer?, right.integer?, left, right with
  | some left, some right, _, _ =>
    if left != 0 && right != 0 && greatestProduct < binaryDigits left + binaryDigits right then none
    else some (.int (left * right))
  | some times, _, _, .text value => repeatText? value (← countable? times)
  | _, some times, .text value, _ => repeatText? value (← countable? times)
  | some times, _, _, .tuple items => repeatItems? items (← countable? times)
  | _, some times, .tuple items, _ => repeatItems? items (← countable? times)
  | _, _, _, _ => none

/-- The outcome of an operator between two constants, where it is worked out before the run. -/
def outcome? (operator : Operator) (left right : Constant) : Option Constant :=
  match operator, left, right with
  | .multiply, left, right => multiply? left right
  | .add, .text left, .text right => some (.text (left ++ right))
  | .add, .tuple left, .tuple right => some (.tuple (left ++ right))
  | operator, left, right => do
    let left ← left.integer?
    let right ← right.integer?
    match operator with
    | .add => some (.int (left + right))
    | .subtract => some (.int (left - right))
    | .floorDivide => if right = 0 then none else some (.int (left.fdiv right))
    | .modulo => if right = 0 then none else some (.int (left.fmod right))
    | .multiply => none

end Constant

/-- The comparison that holds whenever another one does not, where that is known. -/
def Comparison.opposite? : Comparison → Option Comparison
  | .same => some .notSame
  | .notSame => some .same
  | .member => some .notMember
  | .notMember => some .member
  | _ => none

namespace Expr

/-- The constants that expressions are, if all of them are. -/
def constants? : List Expr → Option (List Constant)
  | [] => some []
  | .constant value :: rest => (constants? rest).map (value :: ·)
  | _ => none

mutual

/-- An expression with its constants worked out. -/
def fold : Expr → Expr
  | tuple items =>
    let items := foldList items
    match constants? items with
    | some values => constant (.tuple values)
    | none => tuple items
  | list items => list (foldList items)
  | dict items => dict (foldList items)
  | set members => set (foldList members)
  | negate operand =>
    match operand.fold with
    | constant value =>
      match value.integer? with
      | some integer => constant (.int (-integer))
      | none => negate (constant value)
    | operand => negate operand
  | plus operand =>
    match operand.fold with
    | constant value =>
      match value.integer? with
      | some integer => constant (.int integer)
      | none => plus (constant value)
    | operand => plus operand
  | not operand =>
    match operand.fold with
    | constant value => constant (.bool (!value.truthy))
    | compare line first [comparison] rest =>
      match comparison.opposite? with
      | some opposite => compare line first [opposite] rest
      | none => not (compare line first [comparison] rest)
    | operand => not operand
  | binary operator left right =>
    match left.fold, right.fold with
    | constant left, constant right =>
      match Constant.outcome? operator left right with
      | some value => constant value
      | none => binary operator (constant left) (constant right)
    | left, right => binary operator left right
  | compare line first comparisons rest => compare line first.fold comparisons (foldList rest)
  | and left right => and left.fold right.fold
  | or left right => or left.fold right.fold
  | call line function arguments => call line function.fold (foldList arguments)
  | append target arguments => append target.fold (foldList arguments)
  | name "__debug__" => constant (.bool true)
  | other => other

/-- Expressions with their constants worked out. -/
def foldList : List Expr → List Expr
  | [] => []
  | expr :: rest => expr.fold :: foldList rest

end

end Expr

namespace Simple

/-- A statement with its constants worked out. -/
def fold : Simple → Simple
  | expression value => expression value.fold
  | assign targets value => assign targets value.fold
  | update target operator value => update target operator value.fold
  | raise error => raise (error.map Expr.fold)
  | assert line condition message => assert line condition.fold (message.map Expr.fold)
  | other => other

end Simple

namespace Statement

/-- A statement with its constants worked out. -/
def fold : Statement → Statement
  | simple statement => simple statement.fold
  | forEach target items body => forEach target items.fold (body.map Simple.fold)
  | repeatWhile condition body => repeatWhile condition.fold (body.map Simple.fold)
  | when condition body => when condition.fold (body.map Simple.fold)

end Statement

end LiveConsole.Program
