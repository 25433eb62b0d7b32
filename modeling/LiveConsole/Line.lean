import LiveConsole.Text.Blank

/-!
# Lines typed at the prompt

A line is brought to a normal form before it is run: no leading blanks, and exactly one semicolon at
its end. A normal line is a statement when it opens with one of the statement keywords, followed by
a blank or an opening parenthesis, and an expression otherwise. The code run for an expression is the
line behind the word `return`, which is put in front unless the line has it already.
-/
namespace LiveConsole.Line

open Text

/-- The words that make a line a statement. -/
def keywords : List String :=
  ["echo", "global", "unset", "function", "do", "while", "for", "foreach", "if", "switch", "include",
    "include_once", "require", "require_once", "import", "from", "def", "class", "with", "try", "del",
    "raise", "assert", "pass", "nonlocal", "async", "print"]

/-- What a line asks for: an effect, or a value to show. -/
inductive Kind where
  /-- Run for its effects. -/
  | statement
  /-- Run for its value. -/
  | expression
  deriving DecidableEq, Repr

namespace Kind

/-- The name of a kind. -/
def name : Kind → String
  | statement => "statement"
  | expression => "expression"

end Kind

/-- Whether a character may stand right behind a leading word: a blank or an opening parenthesis. -/
def endsWord (c : Char) : Bool := c == '(' || isBlank c

/-- What follows a leading word in a line, from the character that ends the word on. -/
def afterWord (word : String) (line : List Char) : Option (List Char) :=
  match afterOpening word.toList line with
  | some (c :: rest) => if endsWord c then some (c :: rest) else none
  | _ => none

/-- Drop leading blanks and end the line with exactly one semicolon. -/
def normalize (line : String) : String :=
  String.ofList (dropEndWhile (· == ';') (trimStart line.toList) ++ [';'])

/-- The kind of a line, decided by its leading word; case matters. -/
def classify (line : String) : Kind :=
  if keywords.any fun keyword => (afterWord keyword line.toList).isSome then .statement
  else .expression

/-- Put `return` in front, unless the line opens with that word. -/
def asReturn (line : String) : String :=
  if (afterWord "return" line.toList).isSome then line else "return " ++ line

/-- The code whose value a line asks for, without leading blanks, when the line opens with `return`. -/
def returned? (line : String) : Option String :=
  (afterWord "return" line.toList).map fun rest => String.ofList (trimStart rest)

/-- The code that is run for a line of either kind. -/
def code (line : String) : String :=
  let line := normalize line
  match classify line with
  | .statement => line
  | .expression => asReturn line

end LiveConsole.Line
