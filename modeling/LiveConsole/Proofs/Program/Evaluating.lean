import LiveConsole.Proofs.Program.Keeping

/-!
# Evaluated code and the world

Expressions, statements and whole programs reach the world through their scope only. The cases follow the
grammar; the recursion of expressions goes through their lists.
-/
namespace LiveConsole.Program

variable {World : Type} {kept : World → Prop}

/-! ## Expressions -/

section Expressions

variable (scope : Scope World)

mutual

/-- An expression leaves the world alone. -/
theorem eval_keeps : ∀ expr, Keeps kept (eval scope expr)
  | .constant _ => .pure _
  | .name _ => lookupName_keeps scope _
  | .tuple items => (evalList_keeps items).bind fun _ => allocate_keeps _
  | .list items => (evalList_keeps items).bind fun _ => allocate_keeps _
  | .dict items => by
    refine (evalPairs_keeps _ items).bind fun _ => ?_
    exact Keeps.bind (.forM (fun _ => requireKey_keeps _) _) fun _ =>
      Keeps.currentHeap.bind fun _ => allocate_keeps _
  | .set members => by
    refine (evalMembers_keeps _ members).bind fun _ => ?_
    exact Keeps.bind (.forM requireKey_keeps _) fun _ =>
      Keeps.currentHeap.bind fun _ => allocate_keeps _
  | .negate operand => (eval_keeps operand).bind fun _ => applySign_keeps _ _
  | .plus operand => (eval_keeps operand).bind fun _ => applySign_keeps _ _
  | .not operand => (eval_keeps operand).bind fun _ => Keeps.currentHeap.bind fun _ => .pure _
  | .binary _ left right =>
    (eval_keeps left).bind fun _ => (eval_keeps right).bind fun _ => applyOperator_keeps _ _ _ _
  | .compare _ first _ rest => (eval_keeps first).bind fun _ => evalChain_keeps _ _ rest
  | .and left right => by
    refine (eval_keeps left).bind fun _ => Keeps.currentHeap.bind fun _ => ?_
    split
    · exact eval_keeps right
    · exact .pure _
  | .or left right => by
    refine (eval_keeps left).bind fun _ => Keeps.currentHeap.bind fun _ => ?_
    split
    · exact .pure _
    · exact eval_keeps right
  | .call _ function arguments =>
    (eval_keeps function).bind fun _ => (evalList_keeps arguments).bind fun _ => callValue_keeps _ _
  | .append target arguments =>
    (eval_keeps target).bind fun _ => (requireGrowing_keeps _).bind fun _ =>
      (evalList_keeps arguments).bind fun _ => appendItem_keeps _ _

/-- Expressions leave the world alone. -/
theorem evalList_keeps : ∀ exprs, Keeps kept (evalList scope exprs)
  | [] => .pure _
  | expr :: rest => (eval_keeps expr).bind fun _ => (evalList_keeps rest).bind fun _ => .pure _

/-- Keys and values leave the world alone. -/
theorem evalPairs_keeps (early : Nat) : ∀ exprs, Keeps kept (evalPairs scope early exprs)
  | [] | [_] => .pure _
  | key :: value :: rest => by
    have others := evalPairs_keeps (early - 1) rest
    refine (eval_keeps key).bind fun _ => (eval_keeps value).bind fun _ => ?_
    grind

/-- The members of a set leave the world alone. -/
theorem evalMembers_keeps (early : Bool) : ∀ exprs, Keeps kept (evalMembers scope early exprs)
  | [] => .pure _
  | expr :: rest => by
    have others := evalMembers_keeps early rest
    refine (eval_keeps expr).bind fun _ => ?_
    grind

/-- A chain of comparisons leaves the world alone. -/
theorem evalChain_keeps (left : Value) (comparisons : List Comparison) :
    ∀ exprs, Keeps kept (evalChain scope left comparisons exprs)
  | [] => .pure _
  | expr :: rest => by
    cases comparisons with
    | nil => exact .pure _
    | cons comparison comparisons =>
      refine (eval_keeps expr).bind fun right => (applyComparison_keeps _ _ _).bind fun holds => ?_
      have others := evalChain_keeps right comparisons rest
      grind

end

end Expressions

/-! ## Statements and programs -/

/-- Whether what a scope reaches of the world keeps a property of it: imports and remarks. -/
structure Scope.Keeps (kept : World → Prop) (scope : Scope World) : Prop where
  /-- Imports keep it. -/
  findModule : ∀ name, Program.Keeps kept (scope.findModule name)
  /-- Remarks keep it. -/
  remark : ∀ remark, Program.Keeps kept (scope.remark remark)

section Statements

variable {scope : Scope World} (keeps : scope.Keeps kept)
include keeps

/-- A simple statement keeps what imports keep. -/
theorem runSimple_keeps (statement : Simple) : Keeps kept (runSimple scope statement) := by
  have evaluated : ∀ expr, Keeps kept (eval scope expr) := eval_keeps scope
  cases statement with
  | expression value => exact (evaluated value).bind fun _ => .pure _
  | assign targets value => exact (evaluated value).bind fun _ => .forM (fun _ => bindName_keeps _ _ _) _
  | update target operator value =>
    exact (lookupName_keeps scope target).bind fun _ => (evaluated value).bind fun _ =>
      (applyUpdate_keeps _ _ _).bind fun _ => bindName_keeps _ _ _
  | delete targets => exact .forM (unbindName_keeps scope) targets
  | pass | global _ => exact .pure ()
  | bindModules names =>
    exact .forM (fun name => (keeps.findModule name).bind fun _ => bindName_keeps _ _ _) names
  | raise error =>
    cases error with
    | none => exact .throw _
    | some error =>
      refine (evaluated error).bind fun value => Keeps.currentHeap.bind fun heap => ?_
      repeat' split
      all_goals exact .throw _
  | assert _ condition message =>
    refine (evaluated condition).bind fun value => Keeps.currentHeap.bind fun heap => ?_
    split
    · exact .pure ()
    · cases message with
      | none => exact .throw _
      | some message => exact (evaluated message).bind fun _ => Keeps.currentHeap.bind fun _ => .throw _

/-- Simple statements keep what imports keep. -/
theorem runBody_keeps (body : List Simple) : Keeps kept (runBody scope body) :=
  .forM (runSimple_keeps keeps) body

/-- A conditional loop keeps what imports keep. -/
theorem runWhile_keeps (condition : Expr) (body : List Simple) (rounds : Nat) :
    Keeps kept (runWhile scope condition body rounds) := by
  induction rounds with
  | zero => exact .throw _
  | succ rounds ih =>
    refine (eval_keeps scope condition).bind fun value => Keeps.currentHeap.bind fun heap => ?_
    split
    · exact (runBody_keeps keeps body).bind fun _ => ih
    · exact .pure ()

omit keeps in
/-- The items of a loop leave the world alone. -/
theorem evalItems_keeps (items : Expr) : Keeps kept (evalItems scope items) := by
  unfold evalItems
  split
  · split
    · exact eval_keeps scope _
    · exact Keeps.currentHeap.bind fun _ => allocate_keeps _
  · exact eval_keeps scope _

/-- A statement keeps what imports keep. -/
theorem runStatement_keeps (statement : Statement) : Keeps kept (runStatement scope statement) := by
  cases statement with
  | simple statement => exact runSimple_keeps keeps statement
  | forEach target items body =>
    refine (evalItems_keeps items).bind fun value => forEachItem_keeps (fun item => ?_) _ _
    exact (bindName_keeps _ _ _).bind fun _ => runBody_keeps keeps body
  | repeatWhile condition body => exact runWhile_keeps keeps condition body _
  | when condition body =>
    refine (eval_keeps scope condition).bind fun value => Keeps.currentHeap.bind fun heap => ?_
    split
    · exact runBody_keeps keeps body
    · exact .pure ()

/-- Statements keep what imports keep. -/
theorem runAll_keeps (statements : List Statement) : Keeps kept (runAll scope statements) :=
  .forM (runStatement_keeps keeps) statements

end Statements

section Programs

variable (scope : Scope World)

mutual

/-- A constant is worked out without the world. -/
theorem addConstant_keeps (known : Constants) : ∀ constant, Keeps kept (addConstant scope known constant)
  | .int value => by
    unfold addConstant
    grind
  | .text value => by
    unfold addConstant
    grind
  | .tuple items => by
    have inside := addConstants_keeps known items
    unfold addConstant
    grind
  | .nothing | .bool _ => by
    unfold addConstant
    exact .pure _

/-- Constants are worked out without the world. -/
theorem addConstants_keeps (known : Constants) :
    ∀ constants, Keeps kept (addConstants scope known constants)
  | [] => by
    unfold addConstants
    exact .pure _
  | constant :: rest => by
    unfold addConstants
    exact (addConstant_keeps known constant).bind fun known => addConstants_keeps known rest

end

variable {scope} (keeps : scope.Keeps kept)
include keeps

/-- What is odd about a program is noted before it runs. -/
theorem lookAt_keeps (statements : List Statement) : Keeps kept (lookAt scope statements) := by
  have noted := Keeps.forM keeps.remark (lookThrough (statements.flatMap Statement.passages)).1
  unfold lookAt
  grind

omit keeps in
/-- A description is bound outside of the world. -/
theorem describe_keeps (statements : List Statement) : Keeps kept (describe scope statements) := by
  unfold describe
  split
  · exact bindName_keeps _ _ _
  · exact .pure ()

/-- What is done in the scope of a program keeps what it does in every scope with the same imports and
remarks. -/
theorem scopeFor_bind_keeps {Result : Type} {next : Scope World → Run World Result}
    (behind : ∀ inner : Scope World, inner.Keeps kept → Keeps kept (next inner)) (expressions : List Expr) :
    Keeps kept (scopeFor scope expressions >>= next) := by
  simp only [scopeFor, bind_assoc, pure_bind]
  exact (addConstants_keeps scope _ _).bind fun constants =>
    behind { scope with constants } ⟨keeps.findModule, keeps.remark⟩

/-- A program keeps what imports and remarks keep. -/
theorem runProgram_keeps (statements : List Statement) : Keeps kept (runProgram scope statements) := by
  refine (lookAt_keeps keeps _).bind fun _ => scopeFor_bind_keeps keeps (fun inner inside => ?_) _
  exact (describe_keeps statements).bind fun _ => runAll_keeps inside _

omit keeps in
/-- Whether a program is too deep is told without the world. -/
theorem requireDepth_keeps (limit depth : Nat) : Keeps kept (requireDepth limit depth : Run World Unit) := by
  unfold requireDepth
  grind

/-- Statements and an expression behind them keep what imports and remarks keep. -/
theorem runInTwo_keeps (head : List Statement) (last : Expr) : Keeps kept (runInTwo scope head last) := by
  refine (lookAt_keeps keeps _).bind fun _ => scopeFor_bind_keeps keeps (fun headScope inside => ?_) _
  refine scopeFor_bind_keeps keeps (fun lastScope _ => ?_) _
  refine (describe_keeps head).bind fun _ => (runAll_keeps inside _).bind fun _ => ?_
  exact (requireDepth_keeps _ _).bind fun _ => (Keeps.forM keeps.remark _).bind fun _ => eval_keeps _ _

/-- Reading code notes what is odd about it. -/
theorem statementsOf_keeps (code : String) : Keeps kept (statementsOf scope code) := by
  refine (Keeps.forM keeps.remark _).bind fun _ => ?_
  refine Keeps.bind (fun store held => ?_) fun statements => (requireDepth_keeps _ _).bind fun _ => .pure _
  cases (read code).outcome <;> exact held

/-- Code keeps what imports and remarks keep. -/
theorem dispatch_keeps (code : String) : Keeps kept (dispatch scope code) := by
  unfold dispatch
  split
  · rename_i body _
    have whole := fun statements => runProgram_keeps keeps statements
    have divided := fun head last => runInTwo_keeps keeps head last
    have given := statementsOf_keeps keeps body
    have shallow : ∀ depth, Keeps kept (requireDepth Limit.depth depth : Run World Unit) :=
      requireDepth_keeps _
    unfold evaluateCode
    grind
  · exact (statementsOf_keeps keeps code).bind fun _ => (runProgram_keeps keeps _).bind fun _ => .pure _

/-- Executing code keeps whatever of the world the imports and the remarks of its scope keep. -/
theorem execute_keeps (code : String) {store : Store World} (held : kept store.world) :
    kept (execute scope code store).2.world := by
  have ran := dispatch_keeps keeps code { store with output := "" } held
  unfold execute capture
  generalize (dispatch scope code).run { store with output := "" } = outcome at ran ⊢
  rcases outcome with ⟨_ | _, after⟩
  · exact ran
  · exact ran

end Programs

end LiveConsole.Program
