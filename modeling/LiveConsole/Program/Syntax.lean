import LiveConsole.Program.Token

/-!
# The shape of evaluated code

A program is a list of statements. A compound statement stands on one line with its body, and the body
holds simple statements only. What may be remarked on keeps the number of the line that it starts on.
-/
namespace LiveConsole.Program

/-- An operator between two values that gives a value. -/
inductive Operator where
  /-- Sum, or one sequence after another. -/
  | add
  /-- Difference. -/
  | subtract
  /-- Product, or a sequence repeated. -/
  | multiply
  /-- Quotient rounded toward minus infinity. -/
  | floorDivide
  /-- Remainder with the sign of the divisor. -/
  | modulo
  deriving DecidableEq, Repr

/-- A comparison of two values. -/
inductive Comparison where
  /-- Equal contents. -/
  | equal
  /-- Different contents. -/
  | different
  /-- Smaller. -/
  | less
  /-- Smaller or equal. -/
  | lessEqual
  /-- Greater. -/
  | greater
  /-- Greater or equal. -/
  | greaterEqual
  /-- The same value. -/
  | same
  /-- Not the same value. -/
  | notSame
  /-- Contained in. -/
  | member
  /-- Not contained in. -/
  | notMember
  deriving DecidableEq, Repr

/-- A value that is known before a program runs. -/
inductive Constant where
  /-- The value of what produces none. -/
  | nothing
  /-- A truth value. -/
  | bool (value : Bool)
  /-- An integer. -/
  | int (value : Int)
  /-- A text. -/
  | text (value : String)
  /-- A fixed sequence. -/
  | tuple (items : List Constant)
  deriving Repr

namespace Constant

mutual

/-- Whether two constants are of the same kind and look the same. -/
def isSame : Constant → Constant → Bool
  | nothing, nothing => true
  | bool left, bool right => left == right
  | int left, int right => left == right
  | text left, text right => left == right
  | tuple left, tuple right => areSame left right
  | _, _ => false

/-- Whether constants in two rows are the same, one by one. -/
def areSame : List Constant → List Constant → Bool
  | [], [] => true
  | left :: lefts, right :: rights => left.isSame right && areSame lefts rights
  | _, _ => false

end

end Constant

/-- An expression. -/
inductive Expr where
  /-- A constant. -/
  | constant (value : Constant)
  /-- The value of a name. -/
  | name (name : String)
  /-- A fixed sequence. -/
  | tuple (items : List Expr)
  /-- A sequence that can be changed. -/
  | list (items : List Expr)
  /-- A dictionary: each key, followed by the value under it. -/
  | dict (items : List Expr)
  /-- A set. -/
  | set (members : List Expr)
  /-- The negative of a number. -/
  | negate (operand : Expr)
  /-- A number as it is. -/
  | plus (operand : Expr)
  /-- The opposite truth value. -/
  | not (operand : Expr)
  /-- An operator between two values. -/
  | binary (operator : Operator) (left : Expr) (right : Expr)
  /-- A chain of comparisons, each between neighbours. -/
  | compare (line : Nat) (first : Expr) (comparisons : List Comparison) (rest : List Expr)
  /-- The first operand when it counts as false, else the second. -/
  | and (left : Expr) (right : Expr)
  /-- The first operand when it counts as true, else the second. -/
  | or (left : Expr) (right : Expr)
  /-- A call of a function. -/
  | call (line : Nat) (function : Expr) (arguments : List Expr)
  /-- An item put at the end of a list. -/
  | append (list : Expr) (arguments : List Expr)
  deriving Repr

/-- A statement without a body. -/
inductive Simple where
  /-- An expression whose value is dropped. -/
  | expression (value : Expr)
  /-- A value bound to one or more names. -/
  | assign (targets : List String) (value : Expr)
  /-- A name bound to the outcome of an operator on its value. -/
  | update (target : String) (operator : Operator) (value : Expr)
  /-- Names unbound. -/
  | delete (targets : List String)
  /-- Nothing. -/
  | pass
  /-- Names declared to belong to the namespace, where they belong anyway. -/
  | global (names : List String)
  /-- Modules bound to their names. -/
  | bindModules (names : List String)
  /-- An error raised. -/
  | raise (error : Option Expr)
  /-- An error raised when a condition counts as false. -/
  | assert (line : Nat) (condition : Expr) (message : Option Expr)
  deriving Repr

/-- A statement. -/
inductive Statement where
  /-- A statement without a body. -/
  | simple (statement : Simple)
  /-- The body once for each item, bound to a name. -/
  | forEach (target : String) (items : Expr) (body : List Simple)
  /-- The body as long as a condition counts as true. -/
  | repeatWhile (condition : Expr) (body : List Simple)
  /-- The body once if a condition counts as true. -/
  | when (condition : Expr) (body : List Simple)
  deriving Repr

namespace Expr

mutual

/-- The names that an expression mentions. -/
def names : Expr → List String
  | name value => [value]
  | tuple items => namesOfList items
  | list items => namesOfList items
  | dict items => namesOfList items
  | set members => namesOfList members
  | negate operand => operand.names
  | plus operand => operand.names
  | not operand => operand.names
  | binary _ left right => left.names ++ right.names
  | compare _ first _ rest => first.names ++ namesOfList rest
  | and left right => left.names ++ right.names
  | or left right => left.names ++ right.names
  | call _ function arguments => function.names ++ namesOfList arguments
  | append target arguments => target.names ++ namesOfList arguments
  | _ => []

/-- The names that a list of expressions mentions. -/
def namesOfList : List Expr → List String
  | [] => []
  | expr :: rest => expr.names ++ namesOfList rest

end

mutual

/-- The number of expressions inside one another; alternatives or requirements in a row count once. -/
def depth : Expr → Nat
  | tuple items => depthOfList items + 1
  | list items => depthOfList items + 1
  | dict items => depthOfList items + 1
  | set members => depthOfList members + 1
  | negate operand => operand.depth + 1
  | plus operand => operand.depth + 1
  | not operand => operand.depth + 1
  | binary _ left right => max left.depth right.depth + 1
  | compare _ first _ rest => max first.depth (depthOfList rest) + 1
  | and left (and next right) => max (left.depth + 1) (and next right).depth
  | and left right => max left.depth right.depth + 1
  | or left (or next right) => max (left.depth + 1) (or next right).depth
  | or left right => max left.depth right.depth + 1
  | call _ function arguments => max function.depth (depthOfList arguments) + 1
  | append target arguments => max target.depth (depthOfList arguments) + 1
  | _ => 1

/-- The greatest depth in a list of expressions. -/
def depthOfList : List Expr → Nat
  | [] => 0
  | expr :: rest => max expr.depth (depthOfList rest)

end

mutual

/-- The constants that an expression holds. -/
def constants : Expr → List Constant
  | constant value => [value]
  | tuple items => constantsOfList items
  | list items => constantsOfList items
  | dict items => constantsOfList items
  | set members => constantsOfList members
  | negate operand => operand.constants
  | plus operand => operand.constants
  | not operand => operand.constants
  | binary _ left right => left.constants ++ right.constants
  | compare _ first _ rest => first.constants ++ constantsOfList rest
  | and left right => left.constants ++ right.constants
  | or left right => left.constants ++ right.constants
  | call _ function arguments => function.constants ++ constantsOfList arguments
  | append target arguments => target.constants ++ constantsOfList arguments
  | name _ => []

/-- The constants that a list of expressions holds. -/
def constantsOfList : List Expr → List Constant
  | [] => []
  | expr :: rest => expr.constants ++ constantsOfList rest

end

end Expr

/-- The first part of a module's name. -/
def topModule (name : String) : String := String.ofList (name.toList.takeWhile (· != '.'))

namespace Simple

/-- The names that a statement mentions, those that it declares or binds to modules aside. -/
def names : Simple → List String
  | expression value => value.names
  | assign targets value => targets ++ value.names
  | update target _ value => target :: value.names
  | delete targets => targets
  | raise (some error) => error.names
  | assert _ condition message => condition.names ++ ((message.map Expr.names).getD [])
  | _ => []

/-- The names that a statement binds or unbinds. -/
def changed : Simple → List String
  | assign targets _ => targets
  | update target _ _ => [target]
  | delete targets => targets
  | bindModules modules => modules.map topModule
  | _ => []

/-- The expressions of a statement. -/
def expressions : Simple → List Expr
  | expression value => [value]
  | assign _ value => [value]
  | update _ _ value => [value]
  | raise error => error.toList
  | assert _ condition message => condition :: message.toList
  | _ => []

/-- The names that a statement declares. -/
def declared : Simple → List String
  | global names => names
  | _ => []

end Simple

namespace Statement

/-- The simple statements of a statement in order, with what stands before the body as one of them. -/
def flatten : Statement → List Simple
  | simple statement => [statement]
  | forEach target items body => .assign [target] items :: body
  | repeatWhile condition body => .expression condition :: body
  | when condition body => .expression condition :: body

end Statement

/-- The simple statements of a program in order. -/
def flattenAll (statements : List Statement) : List Simple := statements.flatMap Statement.flatten

/-- The expressions of a program. -/
def expressionsOf (statements : List Statement) : List Expr :=
  (flattenAll statements).flatMap Simple.expressions

/-- The greatest number of expressions inside one another in a program. -/
def depthOf (statements : List Statement) : Nat := Expr.depthOfList (expressionsOf statements)

/-- The name that cannot be bound, since every program knows its value. -/
def fixedName : String := "__debug__"

/-- Whether every declared name is declared before it is mentioned. -/
def declaredInTime : List String → List Simple → Bool
  | _, [] => true
  | mentioned, statement :: rest =>
    statement.declared.all (fun name => !mentioned.contains name) &&
      declaredInTime (statement.names ++ mentioned) rest

end LiveConsole.Program
