import LiveConsole.Program.Grammar.Expressions
import LiveConsole.Program.Grammar.Mistakes
import LiveConsole.Program.Grammar.Statements

/-!
# The grammar of programs

All rules together; the first one is that of a whole program.
-/
namespace LiveConsole.Program.Grammar

/-- The rules of programs. -/
def programRules : Array Rule :=
  (rulesOf (simpleStatements ++ compoundStatements ++ patternStatements ++ operations ++
    functionExpressions ++ displays ++ targets ++ expressionMistakes ++ parameterMistakes ++
    statementMistakes)).toArray

/-- The number of the rule of a whole program. -/
def programRule : Nat := 0

end LiveConsole.Program.Grammar
