import LiveConsole.Host.Import
import LiveConsole.Proofs.Line.Dispatch
import LiveConsole.Proofs.Program.Literals

/-!
# Running code and evaluating it

Code that is evaluated for its value is run in two pieces: its statements, and the expression that it may
end in. The main statement is that this makes no difference to running it whole, but for the value, where
the pieces have no literal of their own in common.
-/
namespace LiveConsole.Program

variable {World : Type} {scope : Scope World}

/-! ## The last statement -/

/-- What is split off is the last statement, where that is an expression. -/
theorem splitLast_eq (statements : List Statement) :
    (splitLast statements = (statements, none)) ∨
      ∃ head last, splitLast statements = (head, some last) ∧
        statements = head ++ [.simple (.expression last)] := by
  fun_induction splitLast statements with
  | case1 => exact .inl rfl
  | case2 value => exact .inr ⟨[], value, rfl, rfl⟩
  | case3 statement other => exact .inl rfl
  | case4 statement rest filled notLast head last found ih =>
    rcases ih with same | ⟨before, value, same, parted⟩
    · rw [found] at same
      cases same
      exact .inl rfl
    · rw [found] at same
      cases same
      exact .inr ⟨statement :: head, value, rfl, by rw [parted, List.cons_append]⟩

/-- Run a program as a whole, for the value of its last statement where that is an expression. -/
def runForValue (scope : Scope World) (statements : List Statement) : Run World Value := do
  let folded := statements.map Statement.fold
  lookAt scope folded
  let scope ← scopeFor scope (expressionsOf folded)
  describe scope statements
  let (head, last) := splitLast statements
  runAll scope (head.map Statement.fold)
  match last with
  | none => return .nothing
  | some last => eval scope last.fold

/-- Statements with an expression behind them are run, and then the expression is. -/
theorem runAll_concat (scope : Scope World) (head : List Statement) (last : Expr) :
    runAll scope (head ++ [.simple (.expression last)]) = do
      runAll scope head
      let _ ← eval scope last
      return () := by
  induction head with
  | nil => simp [runAll, List.forM, runStatement, runSimple]
  | cons statement rest ih =>
    unfold runAll at ih ⊢
    simp only [List.cons_append, List.forM, ih, bind_assoc]

/-- Running a program for its effects is running it for its value and dropping that. -/
theorem runProgram_eq (scope : Scope World) (statements : List Statement) :
    runProgram scope statements = do
      let _ ← runForValue scope statements
      return () := by
  unfold runProgram runForValue
  rcases splitLast_eq statements with split | ⟨head, last, split, parted⟩
  · simp [split]
  · have folded : statements.map Statement.fold =
        head.map Statement.fold ++ [.simple (.expression last.fold)] := by
      rw [parted, List.map_append]
      rfl
    simp [split, folded, runAll_concat]

/-! ## Programs that are refused -/

/-- Whether statements whose constants are worked out are refused by nothing: names are declared before they
are mentioned, and the name that cannot be bound is not. -/
def isSound (statements : List Statement) : Bool :=
  declaredInTime [] (flattenAll statements) && (lookThrough (statements.flatMap Statement.passages)).2

/-- Whether a scope takes no note of remarks. -/
def Scope.Quiet (scope : Scope World) : Prop := ∀ remark, scope.remark remark = return ()

/-- Remarks are nothing to a scope that takes no note of them. -/
theorem Scope.Quiet.forM (quiet : scope.Quiet) (remarks : List Remark) :
    remarks.forM scope.remark = return () := by
  induction remarks with
  | nil => rfl
  | cons remark rest ih => rw [List.forM, quiet, ih, pure_bind]

/-- Looking through statements refuses those that are not sound. -/
theorem lookAt_eq (quiet : scope.Quiet) (statements : List Statement) :
    lookAt scope statements = if isSound statements then return () else throw .malformed := by
  unfold lookAt isSound
  by_cases declared : declaredInTime [] (flattenAll statements) = true
  · simp [declared, quiet.forM]
  · simp [declared]

/-- An expression behind statements is not what makes a declaration come too late. -/
theorem declaredInTime_concat (mentioned : List String) (front : List Simple) (last : Expr) :
    declaredInTime mentioned (front ++ [.expression last]) = declaredInTime mentioned front := by
  induction front generalizing mentioned with
  | nil => rfl
  | cons statement rest ih => rw [List.cons_append, declaredInTime, declaredInTime, ih]

/-- A passage that binds nothing binds no name that cannot be bound. -/
theorem lookThrough_concat (front : List Passage) (last : Passage) (binds : last.changed = []) :
    (lookThrough (front ++ [last])).2 = (lookThrough front).2 := by
  induction front with
  | nil => simp [lookThrough, binds]
  | cons passage rest ih =>
    rw [List.cons_append, lookThrough, lookThrough]
    split
    · rfl
    · exact ih

/-- An expression behind statements is not what makes them unsound. -/
theorem isSound_concat (head : List Statement) (last : Expr) :
    isSound (head ++ [.simple (.expression last)]) = isSound head := by
  have flat : flattenAll (head ++ [.simple (.expression last)]) = flattenAll head ++ [.expression last] := by
    simp [flattenAll, Statement.flatten]
  have passages : (head ++ [Statement.simple (.expression last)]).flatMap Statement.passages =
      head.flatMap Statement.passages ++ [(Simple.expression last).passage] := by
    simp [Statement.passages]
  rw [isSound, isSound, flat, declaredInTime_concat, passages, lookThrough_concat _ _ rfl]

/-! ## Two pieces and the whole -/

/-- The scope of a program holds the table of its literals. -/
theorem scopeFor_eq (scope : Scope World) (expressions : List Expr) :
    scopeFor scope expressions = scope.holding <$> addConstants scope [] (Expr.constantsOfList expressions) :=
  (map_eq_pure_bind _ _).symm

/-- The literals of statements with an expression behind them are those of the statements and its own. -/
theorem constantsOfAll_concat (head : List Statement) (last : Expr) :
    constantsOfAll (head ++ [.simple (.expression last)]) =
      constantsOfAll head ++ Expr.constantsOfList [last] := by
  have flat : expressionsOf (head ++ [.simple (.expression last)]) = expressionsOf head ++ [last] := by
    simp [expressionsOf, flattenAll, Statement.flatten, Simple.expressions]
  rw [constantsOfAll, flat, constantsOfList_append, constantsOfAll]

/-- The description of a program is one of its literals. -/
theorem mem_constantsOfAll_of_description? {statements : List Statement} {text : String}
    (described : description? statements = some text) :
    .text text ∈ constantsOfAll (statements.map Statement.fold) := by
  unfold description? at described
  split at described
  · cases described
    rw [List.map_cons, constantsOfAll_cons]
    exact List.mem_append_left _ List.mem_cons_self
  · cases described

/-- A description is bound alike with tables that agree on the literals of the program. -/
theorem describe_congr {first second : Constants} {statements others : List Statement}
    (same : description? others = description? statements)
    (agree : Agree scope first second (constantsOfAll (statements.map Statement.fold))) :
    describe (scope.holding first) others = describe (scope.holding second) statements := by
  unfold describe
  rw [same]
  cases described : description? statements with
  | none => rfl
  | some text =>
    have value := agree _ (mem_constantsOfAll_of_description? described)
    simp only [value]
    rfl

/-- Whether the expression that statements end in has no literal of its own in common with the statements
before it. -/
def literalsApart (statements : List Statement) : Bool :=
  match splitLast statements with
  | (_, none) => true
  | (head, some last) =>
    areApart (constantsOfAll (head.map Statement.fold)) (Expr.constantsOfList [last.fold])

/-- The text that is all there is of a program. -/
def loneText? : List Statement → Option String
  | [.simple (.expression (.constant (.text value)))] => some value
  | _ => none

/-- Only the first statement of a program can describe it. -/
theorem description?_cons (statement : Statement) (rest : List Statement) :
    description? (statement :: rest) = description? [statement] := by
  unfold description?
  split
  · rename_i same
    cases same
    rfl
  · rename_i other
    split
    · rename_i same
      cases same
      exact absurd rfl (other _ _)
    · rfl

/-- A program with an expression in its end is described by the statements before it, unless it is a text and
nothing else. -/
theorem description?_concat {head : List Statement} {last : Expr}
    (more : loneText? (head ++ [.simple (.expression last)]) = none) :
    description? (head ++ [.simple (.expression last)]) = description? head := by
  cases head with
  | nil =>
    rw [List.nil_append] at more ⊢
    unfold loneText? at more
    unfold description?
    split at more
    · cases more
    · rename_i other
      split
      · rename_i same
        cases same
        exact absurd rfl (other _)
      · rfl
  | cons statement rest => rw [List.cons_append, description?_cons, description?_cons statement rest]

/-- A program that ends in an expression, run as two programs, does what the whole does, if the two have no
literal of their own in common and the expression is not all there is. -/
theorem runInTwo_eq (quiet : scope.Quiet) {statements head : List Statement} {last : Expr}
    (split : splitLast statements = (head, some last)) (shallow : last.depth ≤ Limit.depth)
    (apart : literalsApart statements = true) (more : loneText? statements = none) :
    runInTwo scope head last = runForValue scope statements := by
  have parted : statements = head ++ [.simple (.expression last)] := by
    rcases splitLast_eq statements with whole | ⟨front, value, found, parted⟩
    · rw [whole] at split
      cases split
    · rw [found] at split
      cases split
      exact parted
  have folded : statements.map Statement.fold =
      head.map Statement.fold ++ [.simple (.expression last.fold)] := by
    rw [parted, List.map_append]
    rfl
  have refusal : lookAt scope (statements.map Statement.fold) = lookAt scope (head.map Statement.fold) := by
    rw [lookAt_eq quiet, lookAt_eq quiet, folded, isSound_concat]
  have literals : Expr.constantsOfList (expressionsOf (statements.map Statement.fold)) =
      constantsOfAll (head.map Statement.fold) ++ Expr.constantsOfList [last.fold] := by
    rw [folded]
    exact constantsOfAll_concat _ _
  have described : description? statements = description? head := by
    rw [parted] at more ⊢
    exact description?_concat more
  rw [literalsApart, split] at apart
  unfold runInTwo runForValue
  simp only [refusal, scopeFor_eq, literals, split, bind_map_left, requireDepth,
    if_neg (Nat.not_lt.2 shallow), quiet.forM, pure_bind]
  refine bind_congr fun _ => (addConstants_apart scope apart fun table first second front back => ?_).symm
  rw [describe_congr described front, runAll_congr _ front, eval_congr last.fold back.left]

/-! ## Reading and refusing -/

/-- The statements of code that can be read and is not too deep. -/
theorem statementsOf_eq (quiet : scope.Quiet) {code : String} {statements : List Statement}
    (readable : (read code).outcome = .ok statements) (fits : depthOf statements ≤ greatestDepth) :
    statementsOf scope code = return statements := by
  have lifted : (liftM (Except.ok statements : Except Fault (List Statement)) : Run World (List Statement)) =
      return statements := rfl
  unfold statementsOf
  simp only [readable, quiet.forM, lifted, requireDepth, if_neg (Nat.not_lt.2 fits), pure_bind]

/-- Code that can be read but is too deep is refused. -/
theorem statementsOf_of_deep (quiet : scope.Quiet) {code : String} {statements : List Statement}
    (readable : (read code).outcome = .ok statements) (deep : greatestDepth < depthOf statements) :
    statementsOf scope code = throw Limit.tooDeep := by
  have lifted : (liftM (Except.ok statements : Except Fault (List Statement)) : Run World (List Statement)) =
      return statements := rfl
  unfold statementsOf
  simp only [readable, quiet.forM, lifted, requireDepth, if_pos deep, pure_bind]
  rfl

/-- Code that cannot be read has no statements. -/
theorem statementsOf_of_error (quiet : scope.Quiet) {code : String} {fault : Fault}
    (unreadable : (read code).outcome = .error fault) : statementsOf scope code = throw fault := by
  unfold statementsOf
  simp only [unreadable, quiet.forM, pure_bind]
  rfl

/-- Evaluating code that cannot be read raises the fault of reading it, and changes nothing. -/
theorem capture_evaluateCode_of_error (quiet : scope.Quiet) {code : String} {fault : Fault}
    (filled : isOnlySeparators code = false) (unreadable : (read code).outcome = .error fault)
    (store : Store World) : capture (evaluateCode scope code) store = (.error fault, store) := by
  rw [evaluateCode, filled, statementsOf_of_error quiet unreadable]
  rfl

/-- Evaluating code that does not end in an expression is running it. -/
theorem evaluateCode_of_statements (quiet : scope.Quiet) {code : String} {statements : List Statement}
    (filled : isOnlySeparators code = false) (readable : (read code).outcome = .ok statements)
    (fits : depthOf statements ≤ greatestDepth) (split : splitLast statements = (statements, none)) :
    evaluateCode scope code = do
      requireDepth Limit.depth (depthOf statements)
      runProgram scope statements
      return .nothing := by
  unfold evaluateCode
  simp only [filled, Bool.false_eq_true, ↓reduceIte, statementsOf_eq quiet readable fits, pure_bind, split]

/-- Evaluating code that ends in an expression is running the two pieces. -/
theorem evaluateCode_of_expression (quiet : scope.Quiet) {code : String} {statements head : List Statement}
    {last : Expr} (filled : isOnlySeparators code = false) (readable : (read code).outcome = .ok statements)
    (fits : depthOf statements ≤ greatestDepth) (split : splitLast statements = (head, some last)) :
    evaluateCode scope code =
      requireDepth Limit.depth (depthOf head) >>= fun _ => runInTwo scope head last := by
  unfold evaluateCode
  simp only [filled, Bool.false_eq_true, ↓reduceIte, statementsOf_eq quiet readable fits, pure_bind, split]

/-- Expressions of two rows are as deep as the deeper row. -/
theorem depthOfList_append (front back : List Expr) :
    Expr.depthOfList (front ++ back) = max (Expr.depthOfList front) (Expr.depthOfList back) := by
  induction front with
  | nil => simp [Expr.depthOfList]
  | cons expr rest ih => rw [List.cons_append, Expr.depthOfList, ih, Expr.depthOfList, Nat.max_assoc]

/-- The statements before the last one, and the expression in the end, are no deeper than the program. -/
theorem depth_le_of_splitLast {statements head : List Statement} {last : Option Expr}
    (split : splitLast statements = (head, last)) :
    depthOf head ≤ depthOf statements ∧ ∀ value, last = some value → value.depth ≤ depthOf statements := by
  rcases splitLast_eq statements with whole | ⟨front, value, found, parted⟩
  · rw [whole] at split
    cases split
    exact ⟨Nat.le_refl _, fun value none => by cases none⟩
  · rw [found] at split
    cases split
    have flat : expressionsOf statements = expressionsOf head ++ [value] := by
      simp [parted, expressionsOf, flattenAll, Statement.flatten, Simple.expressions]
    have depth : depthOf statements = max (depthOf head) value.depth := by
      simp only [depthOf, flat, depthOfList_append, Expr.depthOfList, Nat.max_zero]
    constructor
    · omega
    · rintro other ⟨⟩
      omega

/-- Whether code compiles: it can be read, is not too deep, and nothing refuses its statements. -/
def compiles (code : String) : Bool :=
  match (read code).outcome with
  | .ok statements =>
    decide (depthOf statements ≤ greatestDepth) && isSound (statements.map Statement.fold)
  | .error _ => false

/-- Statements that are not sound are not run. -/
theorem runProgram_of_unsound (quiet : scope.Quiet) {statements : List Statement}
    (unsound : isSound (statements.map Statement.fold) = false) :
    runProgram scope statements = throw .malformed := by
  unfold runProgram
  simp only [lookAt_eq quiet, unsound]
  rfl

/-- An expression is not evaluated behind statements that are not sound. -/
theorem runInTwo_of_unsound (quiet : scope.Quiet) {head : List Statement} (last : Expr)
    (unsound : isSound (head.map Statement.fold) = false) :
    runInTwo scope head last = throw .malformed := by
  unfold runInTwo
  simp only [lookAt_eq quiet, unsound]
  rfl

/-- A step that is refused for its depth or fails anyway ends in a fault. -/
theorem exists_fault_of_requireDepth {Result : Type} (depth : Nat) {step : Run World Result} {fault : Fault}
    (fails : step = throw fault) :
    ∃ other, (requireDepth Limit.depth depth >>= fun _ => step) = throw other := by
  unfold requireDepth
  split
  · exact ⟨Limit.tooDeep, rfl⟩
  · exact ⟨fault, by rw [fails]; rfl⟩

/-- Code that does not compile ends in a fault before anything is run for its effects. -/
theorem runCode_of_not_compiles (quiet : scope.Quiet) {code : String} (refused : compiles code = false) :
    ∃ fault, runCode scope code = throw fault := by
  unfold runCode
  cases outcome : (read code).outcome with
  | error fault => exact ⟨fault, by rw [statementsOf_of_error quiet outcome]; rfl⟩
  | ok statements =>
    by_cases fits : depthOf statements ≤ greatestDepth
    · have unsound : isSound (statements.map Statement.fold) = false := by
        simpa [compiles, outcome, fits] using refused
      refine ⟨.malformed, ?_⟩
      rw [statementsOf_eq quiet outcome fits, pure_bind, runProgram_of_unsound quiet unsound]
      rfl
    · refine ⟨Limit.tooDeep, ?_⟩
      rw [statementsOf_of_deep quiet outcome (by omega)]
      rfl

/-- Code that does not compile is not evaluated either, unless it holds nothing but separators. -/
theorem evaluateCode_of_not_compiles (quiet : scope.Quiet) {code : String}
    (filled : isOnlySeparators code = false) (refused : compiles code = false) :
    ∃ fault, evaluateCode scope code = throw fault := by
  cases outcome : (read code).outcome with
  | error fault =>
    refine ⟨fault, ?_⟩
    rw [evaluateCode, filled, statementsOf_of_error quiet outcome]
    rfl
  | ok statements =>
    by_cases fits : depthOf statements ≤ greatestDepth
    · have unsound : isSound (statements.map Statement.fold) = false := by
        simpa [compiles, outcome, fits] using refused
      rcases splitLast_eq statements with split | ⟨head, last, split, parted⟩
      · rw [evaluateCode_of_statements quiet filled outcome fits split]
        exact exists_fault_of_requireDepth _ (by rw [runProgram_of_unsound quiet unsound]; rfl)
      · have front : isSound (head.map Statement.fold) = false := by
          rw [parted, List.map_append] at unsound
          exact (isSound_concat _ last.fold).symm.trans unsound
        rw [evaluateCode_of_expression quiet filled outcome fits split]
        exact exists_fault_of_requireDepth _ (runInTwo_of_unsound quiet last front)
    · refine ⟨Limit.tooDeep, ?_⟩
      rw [evaluateCode, filled, statementsOf_of_deep quiet outcome (by omega)]
      rfl

/-! ## Code that is run -/

/-- What is not too deep to be evaluated is not too deep to be run. -/
theorem depth_le_greatestDepth : Limit.depth ≤ greatestDepth := by decide

/-- Running code for its effects is running it as a whole for its value and dropping that. -/
theorem runCode_eq (quiet : scope.Quiet) {code : String} {statements : List Statement}
    (readable : (read code).outcome = .ok statements) (shallow : depthOf statements ≤ Limit.depth) :
    runCode scope code = do
      let _ ← runForValue scope statements
      return .nothing := by
  unfold runCode
  rw [statementsOf_eq quiet readable (Nat.le_trans shallow depth_le_greatestDepth)]
  simp only [pure_bind, runProgram_eq, bind_assoc]

/-- Evaluating code is running it as a whole for its value, if the expression that it ends in has no literal
of its own in common with the statements before it and is not all there is. -/
theorem evaluateCode_eq (quiet : scope.Quiet) {code : String} {statements : List Statement}
    (filled : isOnlySeparators code = false) (readable : (read code).outcome = .ok statements)
    (shallow : depthOf statements ≤ Limit.depth) (more : loneText? statements = none)
    (apart : literalsApart statements = true) : evaluateCode scope code = runForValue scope statements := by
  have fits := Nat.le_trans shallow depth_le_greatestDepth
  rcases splitLast_eq statements with split | ⟨head, last, split, -⟩
  · have whole : runForValue scope statements = do
        let _ ← runForValue scope statements
        return .nothing := by
      simp only [runForValue, split, bind_assoc, pure_bind]
    have enough : requireDepth Limit.depth (depthOf statements) = (return () : Run World Unit) :=
      if_neg (Nat.not_lt.2 shallow)
    rw [evaluateCode_of_statements quiet filled readable fits split, whole, enough]
    simp only [runProgram_eq, pure_bind, bind_assoc]
  · obtain ⟨front, back⟩ := depth_le_of_splitLast split
    have above : ¬ Limit.depth < depthOf head := by omega
    have below : last.depth ≤ Limit.depth := Nat.le_trans (back last rfl) shallow
    rw [evaluateCode_of_expression quiet filled readable fits split, runInTwo_eq quiet split below apart more,
      requireDepth, if_neg above, pure_bind]

/-- The value of a text that stands alone. -/
def loneValue (scope : Scope World) (text : String) : Run World Value := do
  let scope ← scopeFor scope [.constant (.text text)]
  return scope.valueOf (.text text)

/-- A text that stands alone is not too deep. -/
theorem lone_fits (text : String) :
    depthOf [.simple (.expression (.constant (.text text)))] ≤ greatestDepth := by
  show 1 ≤ greatestDepth
  decide

/-- A text that stands alone is evaluated to itself. -/
theorem evaluateCode_of_loneText (quiet : scope.Quiet) {code text : String}
    (filled : isOnlySeparators code = false)
    (readable : (read code).outcome = .ok [.simple (.expression (.constant (.text text)))]) :
    evaluateCode scope code = loneValue scope text := by
  rw [evaluateCode_of_expression quiet filled readable (lone_fits text) rfl]
  unfold runInTwo
  simp only [lookAt_eq quiet, quiet.forM]
  rfl

/-- A text that stands alone is run by binding it as the description. -/
theorem runCode_of_loneText (quiet : scope.Quiet) {code text : String}
    (readable : (read code).outcome = .ok [.simple (.expression (.constant (.text text)))]) :
    runCode scope code = do
      bindName scope descriptionName (← loneValue scope text)
      return .nothing := by
  unfold runCode
  rw [statementsOf_eq quiet readable (lone_fits text), pure_bind]
  unfold runProgram loneValue
  simp only [lookAt_eq quiet, scopeFor_eq, bind_map_left, bind_assoc, pure_bind]
  rfl

/-! ## Code that is executed -/

/-- What came of code but for its value. -/
def Execution.withoutValue (execution : Execution) : Execution :=
  { execution with value := { execution.value with root := .nothing } }

/-- What is captured of a step whose value is dropped. -/
theorem capture_dropped (step : Run World Value) (store : Store World) :
    capture (do let _ ← step; return .nothing) store =
      ((capture step store).1.map Execution.withoutValue, (capture step store).2) := by
  unfold capture
  simp only [ExceptT.run, bind, ExceptT.bind, ExceptT.mk, StateT.bind, ExceptT.bindCont]
  rcases step { store with output := "" } with ⟨fault | value, after⟩ <;> rfl

/-- Code behind `return` and a blank is evaluated, if it opens with no blank. -/
theorem dispatch_return {code : String} (solid : code.toList.head?.any Text.isBlank = false) :
    dispatch scope ("return " ++ code) = evaluateCode scope code := by
  have opens : ("return " ++ code).toList = "return".toList ++ ' ' :: code.toList := by
    rw [String.toList_append]
    rfl
  have kept : Text.trimStart (' ' :: code.toList) = code.toList := by
    rw [Text.trimStart, List.dropWhile_cons_of_pos (by decide)]
    cases chars : code.toList with
    | nil => rfl
    | cons first rest =>
      rw [chars, List.head?_cons, Option.any_some] at solid
      exact Text.trimStart_cons_of_not_blank solid
  rw [dispatch, Line.returned?_of_opens (by decide) opens, kept, String.ofList_toList]

/-- Code without a leading `return` is run for its effects. -/
theorem dispatch_plain {code : String} (plain : ¬ Line.OpensWithReturn code) :
    dispatch scope code = runCode scope code := by
  rw [dispatch, Line.returned?_eq_none plain]

/-- A program that is a text and nothing else. -/
theorem eq_of_loneText? {statements : List Statement} {text : String}
    (lone : loneText? statements = some text) :
    statements = [.simple (.expression (.constant (.text text)))] := by
  unfold loneText? at lone
  split at lone
  · cases lone
    rfl
  · cases lone

/--
Code behind `return` is executed as it is without, but for its value. Separators alone are answered without a
value, where they are no code otherwise. Code that does not compile fails on both ways before anything
changes. Code that is not too deep is run as one program on both ways, and its value is that of the
expression that it ends in: if that expression has no literal of its own in common with the statements
before it, and if there is more than a text, which is taken as a description where it is not evaluated.
-/
theorem evaluating_agrees_with_running {Outside : Type} (call : Host.Step Outside Unit) (space code : String)
    (solid : code.toList.head?.any Text.isBlank = false) (plain : ¬ Line.OpensWithReturn code)
    (store : Store (Host Outside)) :
    let scope := Host.scope call space
    let direct := execute scope code store
    let valued := execute scope ("return " ++ code) store
    (isOnlySeparators code = true → valued = (.ok ⟨"", store.heap, .nothing⟩, store)) ∧
    (isOnlySeparators code = false →
      (compiles code = false →
        (∃ fault, direct = (.error fault, store)) ∧ ∃ fault, valued = (.error fault, store)) ∧
      (∀ fault, (read code).outcome = .error fault →
        direct = (.error fault, store) ∧ valued = (.error fault, store)) ∧
      ∀ statements, (read code).outcome = .ok statements → depthOf statements ≤ Limit.depth →
        (∀ text, loneText? statements = some text →
          valued = capture (loneValue scope text) store ∧
            direct = capture (do bindName scope descriptionName (← loneValue scope text); return .nothing)
              store) ∧
        (loneText? statements = none → literalsApart statements = true →
          valued = capture (runForValue scope statements) store ∧
            direct = (valued.1.map Execution.withoutValue, valued.2))) := by
  intro scope direct valued
  have quiet : scope.Quiet := fun _ => rfl
  have ran : direct = capture (runCode scope code) store := by rw [← dispatch_plain plain]; rfl
  have evaluated : valued = capture (evaluateCode scope code) store := by rw [← dispatch_return solid]; rfl
  rw [ran, evaluated]
  refine ⟨fun idle => ?_, fun filled => ⟨fun refused => ?_, fun fault unreadable => ?_, ?_⟩⟩
  · rw [evaluateCode, if_pos idle]
    rfl
  · obtain ⟨first, fails⟩ := runCode_of_not_compiles quiet refused
    obtain ⟨second, alsoFails⟩ := evaluateCode_of_not_compiles quiet filled refused
    rw [fails, alsoFails]
    exact ⟨⟨first, rfl⟩, second, rfl⟩
  · have running : runCode scope code = throw fault := by
      rw [runCode, statementsOf_of_error quiet unreadable]
      rfl
    have evaluating : evaluateCode scope code = throw fault := by
      rw [evaluateCode, filled, statementsOf_of_error quiet unreadable]
      rfl
    rw [running, evaluating]
    exact ⟨rfl, rfl⟩
  · intro statements readable shallow
    refine ⟨fun text lone => ?_, fun more apart => ?_⟩
    · rw [eq_of_loneText? lone] at readable
      rw [evaluateCode_of_loneText quiet filled readable, runCode_of_loneText quiet readable]
      exact ⟨rfl, rfl⟩
    · rw [evaluateCode_eq quiet filled readable shallow more apart, runCode_eq quiet readable shallow,
        capture_dropped]
      exact ⟨rfl, rfl⟩

/-- A sum behind an assignment is evaluated as it is run. -/
theorem evaluating_sum_agrees :
    let scope := Host.scope (pure () : Host.Step Unit Unit) "main"
    let store : Store (Host Unit) := ⟨⟨[], 0⟩, [], "", .ofModules [] ()⟩
    let valued := execute scope "return x = 1; x + 1" store
    execute scope "x = 1; x + 1" store = (valued.1.map Execution.withoutValue, valued.2) := by
  intro scope store valued
  have checked : (read "x = 1; x + 1").outcome.toOption.any (fun statements =>
      decide (depthOf statements ≤ Limit.depth) && (loneText? statements).isNone &&
        literalsApart statements) = true := by
    decide +kernel
  cases outcome : (read "x = 1; x + 1").outcome with
  | error fault =>
    rw [outcome] at checked
    cases checked
  | ok statements =>
    rw [outcome, Except.toOption, Option.any_some, Bool.and_eq_true, Bool.and_eq_true, decide_eq_true_eq,
      Option.isNone_iff_eq_none] at checked
    have plain : ¬ Line.OpensWithReturn "x = 1; x + 1" := by
      rw [← Line.isSome_afterReturn_iff]
      decide
    have agrees := evaluating_agrees_with_running (pure () : Host.Step Unit Unit) "main" "x = 1; x + 1"
      (by decide) plain store
    exact ((agrees.2 (by decide)).2.2 statements outcome checked.1.1).2 checked.1.2 checked.2 |>.2

/-- A text that stands alone is bound as a description where it is run, but not where it is evaluated, and a
literal in both pieces is one value where they are run, but two where they are evaluated. -/
theorem evaluating_differs_from_running :
    let scope := Host.scope (pure () : Host.Step Unit Unit) "main"
    let store : Store (Host Unit) := ⟨⟨[], 0⟩, [], "", .ofModules [] ()⟩
    (("'a'".toList.head?.any Text.isBlank = false ∧ ¬ Line.OpensWithReturn "'a'") ∧
      ((execute scope "'a'" store).2.space "main").has descriptionName = true ∧
        ((execute scope "return 'a'" store).2.space "main").has descriptionName = false) ∧
      (execute scope "x = 1000; print(x is 1000)" store).1.toOption.any (·.output == "True\n") = true ∧
        (execute scope "return x = 1000; print(x is 1000)" store).1.toOption.any (·.output == "False\n") =
          true := by
  refine ⟨⟨⟨by decide, ?_⟩, ?_, ?_⟩, ?_, ?_⟩
  · rw [← Line.isSome_afterReturn_iff]
    decide
  all_goals decide +kernel

end LiveConsole.Program
