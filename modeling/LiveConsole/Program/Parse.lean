import LiveConsole.Program.Syntax

/-!
# Statements from tokens

`statements?` turns tokens into statements, if they form some that can be run. The parts of the grammar
read a token list from the front and hand back the rest; what they expect there they ask for with `skip?`
and `oneOf?`. Each of them takes an allowance of steps; `statements?` gives more than a token list can use.
-/
namespace LiveConsole.Program

/-- What follows some tokens that a token list opens with. -/
def skip? : List Token → List Placed → Option (List Placed)
  | [], tokens => some tokens
  | _ :: _, [] => none
  | token :: others, first :: rest => if first.token = token then skip? others rest else none

/-- What the token that a token list opens with means, if it means anything, and what follows it. -/
def oneOf? {Meaning : Type} (meaning : Token → Option Meaning) :
    List Placed → Option (Meaning × List Placed)
  | [] => none
  | first :: rest => (meaning first.token).map (·, rest)

/-- Whether a token list opens with a token. -/
def opensWith (token : Token) (tokens : List Placed) : Bool := (tokens.head?.map (·.token)) == some token

/-- The line that a token list starts on. -/
def lineOf (tokens : List Placed) : Nat := (tokens.head?.map (·.place.line)).getD 1

/-- The name that a token is. -/
def Token.name? : Token → Option String
  | name value => some value
  | _ => none

/-- The quoted text that a token is. -/
def Token.text? : Token → Option String
  | text value => some value
  | _ => none

/-- The expression that a token is. -/
def Token.expression? : Token → Option Expr
  | name value => some (.name value)
  | number value => some (.constant (.int value))
  | keyword "None" => some (.constant .nothing)
  | keyword "True" => some (.constant (.bool true))
  | keyword "False" => some (.constant (.bool false))
  | _ => none

/-- The comparison that a token is. -/
def Token.comparison? : Token → Option Comparison
  | mark "==" => some .equal
  | mark "!=" => some .different
  | mark "<" => some .less
  | mark "<=" => some .lessEqual
  | mark ">" => some .greater
  | mark ">=" => some .greaterEqual
  | keyword "in" => some .member
  | _ => none

/-- The operator between two terms that a token is. -/
def Token.additive? : Token → Option Operator
  | mark "+" => some .add
  | mark "-" => some .subtract
  | _ => none

/-- The operator between two factors that a token is. -/
def Token.multiplicative? : Token → Option Operator
  | mark "*" => some .multiply
  | mark "//" => some .floorDivide
  | mark "%" => some .modulo
  | _ => none

/-- The operator of an update that a token is. -/
def Token.updating? : Token → Option Operator
  | mark "+=" => some .add
  | mark "-=" => some .subtract
  | mark "*=" => some .multiply
  | mark "//=" => some .floorDivide
  | mark "%=" => some .modulo
  | _ => none

/-- The comparison that a token list opens with. -/
def comparison? (tokens : List Placed) : Option (Comparison × List Placed) :=
  if let some (comparison, rest) := oneOf? Token.comparison? tokens then some (comparison, rest)
  else if let some rest := skip? [.keyword "not", .keyword "in"] tokens then some (.notMember, rest)
  else if let some rest := skip? [.keyword "is", .keyword "not"] tokens then some (.notSame, rest)
  else do
    let rest ← skip? [.keyword "is"] tokens
    some (.same, rest)

/-- The quoted texts at the front of a token list, joined. -/
def joinTexts : List Placed → String × List Placed
  | [] => ("", [])
  | first :: rest =>
    match first.token.text? with
    | some value =>
      let (more, rest) := joinTexts rest
      (value ++ more, rest)
    | none => ("", first :: rest)

/-- One or more quoted texts, joined. -/
def quoted? (tokens : List Placed) : Option (String × List Placed) := do
  let (value, rest) ← oneOf? Token.text? tokens
  let (more, rest) := joinTexts rest
  some (value ++ more, rest)

/-- The value of expressions in a row, behind which a comma may stand: a single one alone is that one, all
others are a fixed sequence. -/
def valueOfItems (items : List Expr) (comma : Bool) : Expr :=
  match items, comma with
  | [item], false => item
  | items, _ => .tuple items

mutual

/-- An expression: alternatives by `or`. -/
def disjunction : Nat → List Placed → Option (Expr × List Placed)
  | 0, _ => none
  | steps + 1, tokens => do
    let (left, rest) ← conjunction steps tokens
    if let some rest := skip? [.keyword "or"] rest then
      let (right, rest) ← disjunction steps rest
      some (.or left right, rest)
    else some (left, rest)

/-- Requirements by `and`. -/
def conjunction : Nat → List Placed → Option (Expr × List Placed)
  | 0, _ => none
  | steps + 1, tokens => do
    let (left, rest) ← inversion steps tokens
    if let some rest := skip? [.keyword "and"] rest then
      let (right, rest) ← conjunction steps rest
      some (.and left right, rest)
    else some (left, rest)

/-- A comparison, or its opposite. -/
def inversion : Nat → List Placed → Option (Expr × List Placed)
  | 0, _ => none
  | steps + 1, tokens =>
    if let some rest := skip? [.keyword "not"] tokens then do
      let (operand, rest) ← inversion steps rest
      some (.not operand, rest)
    else do
      let (first, rest) ← sum steps tokens
      let ((comparisons, others), rest) ← comparisonTail steps rest
      some (if comparisons.isEmpty then first else .compare (lineOf tokens) first comparisons others, rest)

/-- What is compared with the value in front. -/
def comparisonTail : Nat → List Placed → Option ((List Comparison × List Expr) × List Placed)
  | 0, _ => none
  | steps + 1, tokens =>
    if let some (comparison, rest) := comparison? tokens then do
      let (other, rest) ← sum steps rest
      let ((comparisons, others), rest) ← comparisonTail steps rest
      some ((comparison :: comparisons, other :: others), rest)
    else some (([], []), tokens)

/-- Terms added and subtracted. -/
def sum : Nat → List Placed → Option (Expr × List Placed)
  | 0, _ => none
  | steps + 1, tokens => do
    let (first, rest) ← product steps tokens
    sumTail steps first rest

/-- What is added to or subtracted from the value in front. -/
def sumTail : Nat → Expr → List Placed → Option (Expr × List Placed)
  | 0, _, _ => none
  | steps + 1, left, tokens =>
    if let some (operator, rest) := oneOf? Token.additive? tokens then do
      let (right, rest) ← product steps rest
      sumTail steps (.binary operator left right) rest
    else some (left, tokens)

/-- Factors multiplied and divided. -/
def product : Nat → List Placed → Option (Expr × List Placed)
  | 0, _ => none
  | steps + 1, tokens => do
    let (first, rest) ← factor steps tokens
    productTail steps first rest

/-- What the value in front is multiplied with or divided by. -/
def productTail : Nat → Expr → List Placed → Option (Expr × List Placed)
  | 0, _, _ => none
  | steps + 1, left, tokens =>
    if let some (operator, rest) := oneOf? Token.multiplicative? tokens then do
      let (right, rest) ← factor steps rest
      productTail steps (.binary operator left right) rest
    else some (left, tokens)

/-- A value with signs in front. -/
def factor : Nat → List Placed → Option (Expr × List Placed)
  | 0, _ => none
  | steps + 1, tokens =>
    if let some rest := skip? [.mark "-"] tokens then do
      let (operand, rest) ← factor steps rest
      some (.negate operand, rest)
    else if let some rest := skip? [.mark "+"] tokens then do
      let (operand, rest) ← factor steps rest
      some (.plus operand, rest)
    else do
      let (first, rest) ← atom steps tokens
      callTail steps (lineOf tokens) first rest

/-- Calls of the value in front, which starts on a given line. -/
def callTail : Nat → Nat → Expr → List Placed → Option (Expr × List Placed)
  | 0, _, _, _ => none
  | steps + 1, line, callee, tokens =>
    if let some rest := skip? [.mark "("] tokens then do
      let ((items, _), rest) ← commaList steps ")" rest
      callTail steps line (.call line callee items) rest
    else if let some rest := skip? [.mark ".", .name "append", .mark "("] tokens then do
      let ((items, _), rest) ← commaList steps ")" rest
      callTail steps line (.append callee items) rest
    else some (callee, tokens)

/-- A literal, a name, or an expression between brackets. -/
def atom : Nat → List Placed → Option (Expr × List Placed)
  | 0, _ => none
  | steps + 1, tokens =>
    if let some (value, rest) := oneOf? Token.expression? tokens then some (value, rest)
    else if let some (value, rest) := quoted? tokens then some (.constant (.text value), rest)
    else if let some rest := skip? [.mark "("] tokens then do
      let ((items, trailing), rest) ← commaList steps ")" rest
      some (valueOfItems items trailing, rest)
    else if let some rest := skip? [.mark "["] tokens then do
      let ((items, _), rest) ← commaList steps "]" rest
      some (.list items, rest)
    else if let some rest := skip? [.mark "\x7b", .mark "\x7d"] tokens then some (.dict [], rest)
    else do
      let rest ← skip? [.mark "\x7b"] tokens
      let (first, rest) ← disjunction steps rest
      if let some rest := skip? [.mark ":"] rest then
        let (items, rest) ← pairs steps first rest
        some (.dict items, rest)
      else if let some rest := skip? [.mark ","] rest then
        let ((items, _), rest) ← commaList steps "\x7d" rest
        some (.set (first :: items), rest)
      else
        let rest ← skip? [.mark "\x7d"] rest
        some (.set [first], rest)

/-- Expressions separated by commas up to a closing bracket, and whether a comma stands before it. -/
def commaList : Nat → String → List Placed → Option ((List Expr × Bool) × List Placed)
  | 0, _, _ => none
  | steps + 1, closing, tokens =>
    if let some rest := skip? [.mark closing] tokens then some (([], false), rest)
    else commaItems steps closing tokens

/-- At least one expression, others separated by commas, up to a closing bracket. -/
def commaItems : Nat → String → List Placed → Option ((List Expr × Bool) × List Placed)
  | 0, _, _ => none
  | steps + 1, closing, tokens => do
    let (first, rest) ← disjunction steps tokens
    if let some rest := skip? [.mark ",", .mark closing] rest then some (([first], true), rest)
    else if let some rest := skip? [.mark ","] rest then
      let ((items, trailing), rest) ← commaItems steps closing rest
      some ((first :: items, trailing), rest)
    else
      let rest ← skip? [.mark closing] rest
      some (([first], false), rest)

/-- The value of a first key behind its colon, and other keys and values, up to the closing brace. -/
def pairs : Nat → Expr → List Placed → Option (List Expr × List Placed)
  | 0, _, _ => none
  | steps + 1, key, tokens => do
    let (value, rest) ← disjunction steps tokens
    if let some rest := skip? [.mark "\x7d"] rest then some ([key, value], rest)
    else if let some rest := skip? [.mark ",", .mark "\x7d"] rest then some ([key, value], rest)
    else
      let rest ← skip? [.mark ","] rest
      let (next, rest) ← disjunction steps rest
      let rest ← skip? [.mark ":"] rest
      let (items, rest) ← pairs steps next rest
      some (key :: value :: items, rest)

end

/-- Whether a token ends a simple statement. -/
def Token.isStop : Token → Bool
  | mark ";" => true
  | lineEnd => true
  | _ => false

/-- Whether a simple statement may end before a token list. -/
def endsSimple (tokens : List Placed) : Bool := tokens.head?.all (·.token.isStop)

/-- Whether a comma in front of a token list is the last one outside brackets. -/
def endsItems (tokens : List Placed) : Bool := endsSimple tokens || opensWith (.mark "=") tokens

/-- Expressions separated by commas outside brackets, and whether a comma stands behind them. -/
def bareItems : Nat → Nat → List Placed → Option ((List Expr × Bool) × List Placed)
  | 0, _, _ => none
  | fuel + 1, steps, tokens => do
    let (first, rest) ← disjunction steps tokens
    if let some rest := skip? [.mark ","] rest then
      if endsItems rest then some (([first], true), rest)
      else
        let ((items, _), rest) ← bareItems fuel steps rest
        some ((first :: items, true), rest)
    else some (([first], false), rest)

/-- A value outside brackets: one expression alone, several as a fixed sequence. -/
def bareValue (steps : Nat) (tokens : List Placed) : Option (Expr × List Placed) := do
  let ((items, comma), rest) ← bareItems steps steps tokens
  some (valueOfItems items comma, rest)

/-- Names separated by commas. -/
def nameList : Nat → List Placed → Option (List String × List Placed)
  | 0, _ => none
  | steps + 1, tokens => do
    let (first, rest) ← oneOf? Token.name? tokens
    if let some rest := skip? [.mark ","] rest then
      let (names, rest) ← nameList steps rest
      some (first :: names, rest)
    else some ([first], rest)

mutual

/-- A name to unbind, or several between brackets. -/
def unbound : Nat → List Placed → Option (List String × List Placed)
  | 0, _ => none
  | steps + 1, tokens =>
    if let some (name, rest) := oneOf? Token.name? tokens then some ([name], rest)
    else if let some rest := skip? [.mark "("] tokens then unboundUpTo steps ")" rest
    else do
      let rest ← skip? [.mark "["] tokens
      unboundUpTo steps "]" rest

/-- Names to unbind, separated by commas, up to a closing bracket. -/
def unboundUpTo : Nat → String → List Placed → Option (List String × List Placed)
  | 0, _, _ => none
  | steps + 1, closing, tokens =>
    if let some rest := skip? [.mark closing] tokens then some ([], rest)
    else do
      let (first, rest) ← unbound steps tokens
      if let some rest := skip? [.mark ","] rest then
        let (others, rest) ← unboundUpTo steps closing rest
        some (first ++ others, rest)
      else
        let rest ← skip? [.mark closing] rest
        some (first, rest)

end

/-- Names to unbind, separated by commas; a comma may stand behind them. -/
def unboundList : Nat → List Placed → Option (List String × List Placed)
  | 0, _ => none
  | steps + 1, tokens => do
    let (first, rest) ← unbound steps tokens
    if let some rest := skip? [.mark ","] rest then
      if endsSimple rest then some (first, rest)
      else
        let (others, rest) ← unboundList steps rest
        some (first ++ others, rest)
    else some (first, rest)

/-- A name with points. -/
def dottedName : Nat → List Placed → Option (String × List Placed)
  | 0, _ => none
  | steps + 1, tokens => do
    let (first, rest) ← oneOf? Token.name? tokens
    if let some rest := skip? [.mark "."] rest then
      let (name, rest) ← dottedName steps rest
      some (first ++ "." ++ name, rest)
    else some (first, rest)

/-- Names with points, separated by commas. -/
def moduleList : Nat → List Placed → Option (List String × List Placed)
  | 0, _ => none
  | steps + 1, tokens => do
    let (first, rest) ← dottedName steps tokens
    if let some rest := skip? [.mark ","] rest then
      let (names, rest) ← moduleList steps rest
      some (first :: names, rest)
    else some ([first], rest)

/-- The name that an expression is. -/
def Expr.name? : Expr → Option String
  | name value => some value
  | _ => none

/-- The targets of an assignment, of which the first one is given, and its value. -/
def assignment : Nat → Nat → String → List Placed → Option ((List String × Expr) × List Placed)
  | 0, _, _, _ => none
  | fuel + 1, steps, target, tokens => do
    let (value, rest) ← bareValue steps tokens
    if let some rest := skip? [.mark "="] rest then
      let next ← value.name?
      let ((targets, value), rest) ← assignment fuel steps next rest
      some ((target :: targets, value), rest)
    else some (([target], value), rest)

/-- The statement that a value opens: an assignment or an update if that is a name, or the value alone. -/
def behindValue (steps : Nat) (value : Expr) (tokens : List Placed) : Option (Simple × List Placed) :=
  match value.name? with
  | none => some (.expression value, tokens)
  | some target =>
    if let some rest := skip? [.mark "="] tokens then do
      let ((targets, value), rest) ← assignment steps steps target rest
      some (.assign targets value, rest)
    else if let some (operator, rest) := oneOf? Token.updating? tokens then do
      let (operand, rest) ← bareValue steps rest
      some (.update target operator operand, rest)
    else some (.expression value, tokens)

/-- A statement that opens with a value. -/
def valueStatement (steps : Nat) (tokens : List Placed) : Option (Simple × List Placed) := do
  let (value, rest) ← bareValue steps tokens
  behindValue steps value rest

/-- What is asserted on a line, and what is said if it does not hold. -/
def assertion (steps line : Nat) (tokens : List Placed) : Option (Simple × List Placed) := do
  let (condition, rest) ← disjunction steps tokens
  if let some rest := skip? [.mark ","] rest then
    let (message, rest) ← disjunction steps rest
    some (.assert line condition (some message), rest)
  else some (.assert line condition none, rest)

/-- A statement without a body. -/
def simpleStatement (steps : Nat) (tokens : List Placed) : Option (Simple × List Placed) :=
  if let some rest := skip? [.keyword "pass"] tokens then some (.pass, rest)
  else if let some rest := skip? [.keyword "del"] tokens then do
    let (names, rest) ← unboundList steps rest
    some (.delete names, rest)
  else if let some rest := skip? [.keyword "global"] tokens then do
    let (names, rest) ← nameList steps rest
    some (.global names, rest)
  else if let some rest := skip? [.keyword "import"] tokens then do
    let (names, rest) ← moduleList steps rest
    some (.bindModules names, rest)
  else if let some rest := skip? [.keyword "raise"] tokens then
    if endsSimple rest then some (.raise none, rest)
    else do
      let (error, rest) ← disjunction steps rest
      some (.raise (some error), rest)
  else if let some rest := skip? [.keyword "assert"] tokens then assertion steps (lineOf tokens) rest
  else valueStatement steps tokens

/-- Simple statements separated by semicolons up to the end of the line. -/
def simpleLine : Nat → Nat → List Placed → Option (List Simple × List Placed)
  | 0, _, _ => none
  | fuel + 1, steps, tokens => do
    let (first, rest) ← simpleStatement steps tokens
    if let some rest := skip? [.lineEnd] rest then some ([first], rest)
    else if let some rest := skip? [.mark ";", .lineEnd] rest then some ([first], rest)
    else
      let rest ← skip? [.mark ";"] rest
      let (statements, rest) ← simpleLine fuel steps rest
      some (first :: statements, rest)

/-- A name to bind, which may stand between round brackets. -/
def boundName : Nat → List Placed → Option (String × List Placed)
  | 0, _ => none
  | steps + 1, tokens =>
    if let some (name, rest) := oneOf? Token.name? tokens then some (name, rest)
    else do
      let rest ← skip? [.mark "("] tokens
      let (name, rest) ← boundName steps rest
      let rest ← skip? [.mark ")"] rest
      some (name, rest)

/-- What stands in front of the simple statements of a line: what they make up together. -/
def header (steps : Nat) (tokens : List Placed) : Option ((List Simple → List Statement) × List Placed) :=
  if let some rest := skip? [.keyword "for"] tokens then do
    let (target, rest) ← boundName steps rest
    let rest ← skip? [.keyword "in"] rest
    let (items, rest) ← bareValue steps rest
    let rest ← skip? [.mark ":"] rest
    some (fun body => [.forEach target items body], rest)
  else if let some rest := skip? [.keyword "while"] tokens then do
    let (condition, rest) ← disjunction steps rest
    let rest ← skip? [.mark ":"] rest
    some (fun body => [.repeatWhile condition body], rest)
  else if let some rest := skip? [.keyword "if"] tokens then do
    let (condition, rest) ← disjunction steps rest
    let rest ← skip? [.mark ":"] rest
    some (fun body => [.when condition body], rest)
  else some (fun statements => statements.map .simple, tokens)

/-- One line of a program. -/
def line (steps : Nat) (tokens : List Placed) : Option (List Statement × List Placed) := do
  let (whole, rest) ← header steps tokens
  let (statements, rest) ← simpleLine steps steps rest
  some (whole statements, rest)

/-- The lines of a program up to its end. -/
def lines : Nat → Nat → List Placed → Option (List Statement)
  | 0, _, _ => none
  | fuel + 1, steps, tokens =>
    if opensWith .finish tokens then some []
    else do
      let (statements, rest) ← line steps tokens
      (statements ++ ·) <$> lines fuel steps rest

/-- Allowance of steps for a number of tokens: each token is passed by at most twelve parts of the grammar. -/
def allowance (tokens : Nat) : Nat := 12 * tokens + 24

/-- The statements that tokens up to the end of a program form. -/
def statements? (tokens : List Placed) : Option (List Statement) :=
  lines (tokens.length + 1) (allowance tokens.length) tokens

end LiveConsole.Program
