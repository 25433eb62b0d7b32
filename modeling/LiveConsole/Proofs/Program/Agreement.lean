import LiveConsole.Program.Execute

/-!
# Code depends on its own literals

Where code runs, a table says which values the literals of the program are. A run looks up the literals of
the code that is run and no others: with two tables that agree on them it does the same.
-/
namespace LiveConsole.Program

/-- A scope with a table of constants. -/
def Scope.holding {World : Type} (scope : Scope World) (known : Constants) : Scope World :=
  { scope with constants := known }

variable {World : Type} {scope : Scope World} {first second : Constants}

/-- Whether two tables give some constants the same values. -/
def Agree (scope : Scope World) (first second : Constants) (constants : List Constant) : Prop :=
  ∀ constant ∈ constants, (scope.holding first).valueOf constant = (scope.holding second).valueOf constant

namespace Agree

/-- Tables that agree on constants agree on fewer of them. -/
theorem mono {fewer more : List Constant} (agree : Agree scope first second more) (within : fewer ⊆ more) :
    Agree scope first second fewer := fun constant member => agree constant (within member)

/-- Tables that agree on two rows of constants agree on the first one. -/
theorem left {front back : List Constant} (agree : Agree scope first second (front ++ back)) :
    Agree scope first second front := agree.mono (List.subset_append_left front back)

/-- Tables that agree on two rows of constants agree on the second one. -/
theorem right {front back : List Constant} (agree : Agree scope first second (front ++ back)) :
    Agree scope first second back := agree.mono (List.subset_append_right front back)

end Agree

mutual

/-- The value of an expression depends on the values of its constants. -/
theorem eval_congr : ∀ expr : Expr, Agree scope first second expr.constants →
    eval (scope.holding first) expr = eval (scope.holding second) expr
  | .constant value, agree => by rw [eval, eval, agree value List.mem_cons_self]
  | .name name, _ => rfl
  | .tuple items, agree => by rw [eval, eval, evalList_congr items agree]
  | .list items, agree => by rw [eval, eval, evalList_congr items agree]
  | .dict items, agree => by rw [eval, eval, evalPairs_congr _ items agree]
  | .set members, agree => by rw [eval, eval, evalMembers_congr _ members agree]
  | .negate operand, agree => by rw [eval, eval, eval_congr operand agree]
  | .plus operand, agree => by rw [eval, eval, eval_congr operand agree]
  | .not operand, agree => by rw [eval, eval, eval_congr operand agree]
  | .binary operator left right, agree => by
    rw [eval, eval, eval_congr left agree.left, eval_congr right agree.right]
  | .compare line value comparisons rest, agree => by
    rw [eval, eval, eval_congr value agree.left]
    simp only [evalChain_congr _ comparisons rest agree.right]
  | .and left right, agree => by
    rw [eval, eval, eval_congr left agree.left, eval_congr right agree.right]
  | .or left right, agree => by
    rw [eval, eval, eval_congr left agree.left, eval_congr right agree.right]
  | .call line function arguments, agree => by
    rw [eval, eval, eval_congr function agree.left, evalList_congr arguments agree.right]
  | .append target arguments, agree => by
    rw [eval, eval, eval_congr target agree.left, evalList_congr arguments agree.right]

/-- The values of expressions depend on the values of their constants. -/
theorem evalList_congr : ∀ items : List Expr, Agree scope first second (Expr.constantsOfList items) →
    evalList (scope.holding first) items = evalList (scope.holding second) items
  | [], _ => rfl
  | expr :: rest, agree => by
    rw [evalList, evalList, eval_congr expr agree.left, evalList_congr rest agree.right]

/-- Keys and values depend on the values of their constants. -/
theorem evalPairs_congr : ∀ (early : Nat) (items : List Expr),
    Agree scope first second (Expr.constantsOfList items) →
      evalPairs (scope.holding first) early items = evalPairs (scope.holding second) early items
  | _, [], _ => rfl
  | _, [_], _ => rfl
  | early, key :: value :: rest, agree => by
    rw [evalPairs, evalPairs, eval_congr key agree.left, eval_congr value agree.right.left,
      evalPairs_congr (early - 1) rest agree.right.right]

/-- The members of a set depend on the values of their constants. -/
theorem evalMembers_congr : ∀ (early : Bool) (members : List Expr),
    Agree scope first second (Expr.constantsOfList members) →
      evalMembers (scope.holding first) early members = evalMembers (scope.holding second) early members
  | _, [], _ => rfl
  | early, expr :: rest, agree => by
    rw [evalMembers, evalMembers, eval_congr expr agree.left, evalMembers_congr early rest agree.right]

/-- What a chain of comparisons comes to depends on the values of its constants. -/
theorem evalChain_congr : ∀ (left : Value) (comparisons : List Comparison) (rest : List Expr),
    Agree scope first second (Expr.constantsOfList rest) →
      evalChain (scope.holding first) left comparisons rest =
        evalChain (scope.holding second) left comparisons rest
  | _, _, [], _ => rfl
  | _, [], _ :: _, _ => rfl
  | left, comparison :: comparisons, expr :: rest, agree => by
    rw [evalChain, evalChain, eval_congr expr agree.left]
    simp only [evalChain_congr _ comparisons rest agree.right]

end

/-- A value raised depends on the values of its constants. -/
theorem runRaise_congr (error : Option Expr)
    (agree : Agree scope first second (Expr.constantsOfList error.toList)) :
    runRaise (scope.holding first) error = runRaise (scope.holding second) error := by
  cases error with
  | none => rfl
  | some error => rw [runRaise, runRaise, eval_congr error agree.left]

/-- A simple statement depends on the values of its constants. -/
theorem runSimple_congr (statement : Simple)
    (agree : Agree scope first second (Expr.constantsOfList statement.expressions)) :
    runSimple (scope.holding first) statement = runSimple (scope.holding second) statement := by
  cases statement with
  | expression value => rw [runSimple, runSimple, eval_congr value agree.left]
  | assign targets value =>
    rw [runSimple, runSimple, eval_congr value agree.left]
    rfl
  | update target operator value =>
    rw [runSimple, runSimple, eval_congr value agree.left]
    rfl
  | delete | pass | global | bindModules => rfl
  | raise error => exact runRaise_congr error agree
  | assert line condition message =>
    cases message with
    | none => simp only [runSimple, eval_congr condition agree.left]
    | some message =>
      simp only [runSimple, eval_congr condition agree.left, eval_congr message agree.right.left]

/-- The constants of expressions in two rows are those of the one and those of the other. -/
theorem constantsOfList_append (front back : List Expr) :
    Expr.constantsOfList (front ++ back) = Expr.constantsOfList front ++ Expr.constantsOfList back := by
  induction front with
  | nil => rfl
  | cons expr rest ih => rw [List.cons_append, Expr.constantsOfList, ih, Expr.constantsOfList, List.append_assoc]

/-- The constants of simple statements in a row. -/
def constantsOfBody (body : List Simple) : List Constant :=
  Expr.constantsOfList (body.flatMap Simple.expressions)

/-- The constants of a body are those of its first statement and of the others. -/
theorem constantsOfBody_cons (statement : Simple) (rest : List Simple) :
    constantsOfBody (statement :: rest) =
      Expr.constantsOfList statement.expressions ++ constantsOfBody rest := by
  rw [constantsOfBody, List.flatMap_cons, constantsOfList_append, constantsOfBody]

/-- A body depends on the values of its constants. -/
theorem runBody_congr (body : List Simple) (agree : Agree scope first second (constantsOfBody body)) :
    runBody (scope.holding first) body = runBody (scope.holding second) body := by
  induction body with
  | nil => rfl
  | cons statement rest ih =>
    rw [constantsOfBody_cons] at agree
    have later : rest.forM (runSimple (scope.holding first)) = rest.forM (runSimple (scope.holding second)) :=
      ih agree.right
    rw [runBody, runBody, List.forM, List.forM, runSimple_congr statement agree.left, later]

/-- A conditional loop depends on the values of its constants. -/
theorem runWhile_congr (condition : Expr) (body : List Simple)
    (agree : Agree scope first second (condition.constants ++ constantsOfBody body)) (rounds : Nat) :
    runWhile (scope.holding first) condition body rounds =
      runWhile (scope.holding second) condition body rounds := by
  induction rounds with
  | zero => rfl
  | succ rounds ih =>
    rw [runWhile, runWhile, eval_congr condition agree.left, runBody_congr body agree.right, ih]

/-- Expressions that are constants hold those. -/
theorem constantsOfList_of_constants? {members : List Expr} {constants : List Constant}
    (known : Expr.constants? members = some constants) : Expr.constantsOfList members = constants := by
  induction members generalizing constants with
  | nil => cases known; rfl
  | cons expr rest ih =>
    cases expr with
    | constant value =>
      rw [Expr.constants?, Option.map_eq_some_iff] at known
      obtain ⟨others, found, rfl⟩ := known
      rw [Expr.constantsOfList, Expr.constants, ih found, List.singleton_append]
    | _ => cases known

/-- The items that a loop goes through depend on the values of their constants. -/
theorem evalItems_congr (items : Expr) (agree : Agree scope first second items.constants) :
    evalItems (scope.holding first) items = evalItems (scope.holding second) items := by
  cases items with
  | set members =>
    rw [evalItems, evalItems]
    cases known : Expr.constants? members with
    | none => exact eval_congr (.set members) agree
    | some constants =>
      have held : Expr.constantsOfList members = constants := constantsOfList_of_constants? known
      rw [Expr.constants, held] at agree
      have values : constants.map (scope.holding first).valueOf = constants.map (scope.holding second).valueOf :=
        List.map_congr_left agree
      simp only [values]
  | _ => exact eval_congr _ agree

/-- The constants of a statement. -/
def constantsOf (statement : Statement) : List Constant := constantsOfBody statement.flatten

/-- A statement depends on the values of its constants. -/
theorem runStatement_congr (statement : Statement)
    (agree : Agree scope first second (constantsOf statement)) :
    runStatement (scope.holding first) statement = runStatement (scope.holding second) statement := by
  cases statement with
  | simple statement =>
    rw [constantsOf, Statement.flatten, constantsOfBody_cons] at agree
    exact runSimple_congr statement agree.left
  | forEach target items body =>
    rw [constantsOf, Statement.flatten, constantsOfBody_cons] at agree
    rw [runStatement, runStatement, evalItems_congr items agree.left.left, runBody_congr body agree.right]
    rfl
  | repeatWhile condition body =>
    rw [constantsOf, Statement.flatten, constantsOfBody_cons, Simple.expressions, Expr.constantsOfList,
      Expr.constantsOfList, List.append_nil] at agree
    exact runWhile_congr condition body agree _
  | «when» condition body =>
    rw [constantsOf, Statement.flatten, constantsOfBody_cons] at agree
    rw [runStatement, runStatement, eval_congr condition agree.left.left, runBody_congr body agree.right]

/-- The constants of a program. -/
def constantsOfAll (statements : List Statement) : List Constant :=
  Expr.constantsOfList (expressionsOf statements)

/-- The constants of a program are those of its first statement and of the others. -/
theorem constantsOfAll_cons (statement : Statement) (rest : List Statement) :
    constantsOfAll (statement :: rest) = constantsOf statement ++ constantsOfAll rest := by
  rw [constantsOfAll, expressionsOf, flattenAll, List.flatMap_cons, List.flatMap_append,
    constantsOfList_append]
  rfl

/-- A program depends on the values of its constants. -/
theorem runAll_congr (statements : List Statement)
    (agree : Agree scope first second (constantsOfAll statements)) :
    runAll (scope.holding first) statements = runAll (scope.holding second) statements := by
  induction statements with
  | nil => rfl
  | cons statement rest ih =>
    rw [constantsOfAll_cons] at agree
    have later : rest.forM (runStatement (scope.holding first)) =
        rest.forM (runStatement (scope.holding second)) := ih agree.right
    rw [runAll, runAll, List.forM, List.forM, runStatement_congr statement agree.left, later]

end LiveConsole.Program
