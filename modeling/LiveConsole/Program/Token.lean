/-!
# Tokens of evaluated code

Program text is cut into names, keywords, numbers, quoted texts and marks. A line end is a token outside
brackets and means nothing inside them; a line without a token leaves no trace. A line that stands
further right than the one before it opens with a token of its own, and so does one that goes back to
where an earlier line stands.
-/
namespace LiveConsole.Program

/-- A token of program text. -/
inductive Token where
  /-- A name. -/
  | name (value : String)
  /-- A word with a meaning of its own, which cannot be a name. -/
  | keyword (value : String)
  /-- An integer. -/
  | number (value : Nat)
  /-- A number with a fraction or an exponent. -/
  | fraction
  /-- A multiple of the imaginary unit. -/
  | imaginary
  /-- An integer with more digits than can be read. -/
  | vast
  /-- A quoted text, escapes resolved. -/
  | text (value : String)
  /-- Quoted bytes, or a text that is put together only when the program runs. -/
  | otherText (isBytes : Bool)
  /-- A quoted text with an escape that stands for nothing. -/
  | brokenText
  /-- An operator or a bracket. -/
  | mark (value : String)
  /-- The end of a line. -/
  | lineEnd
  /-- The line stands further right than the one before it. -/
  | indent
  /-- The line goes back to the left. -/
  | dedent
  /-- The end of the program. -/
  | finish
  deriving DecidableEq, Repr

/-- Where a token stands and what is said of it. -/
structure Place where
  /-- The line that it starts on. -/
  line : Nat
  /-- The number of brackets that are open behind it. -/
  nesting : Nat
  /-- What is odd about it, if anything. -/
  oddity : Option String
  deriving Repr

/-- A token in its place. -/
structure Placed where
  /-- The token. -/
  token : Token
  /-- Its place. -/
  place : Place
  deriving Repr

/-- The words that cannot be names. -/
def keywords : List String :=
  ["False", "None", "True", "and", "as", "assert", "async", "await", "break", "class", "continue",
    "def", "del", "elif", "else", "except", "finally", "for", "from", "global", "if", "import", "in",
    "is", "lambda", "nonlocal", "not", "or", "pass", "raise", "return", "try", "while", "with", "yield"]

/-- The operators and brackets of more than one character, longer ones before those that they start
with. -/
def longMarks : List String :=
  ["//=", "**=", ">>=", "<<=", "...", "//", "**", ">>", "<<", "==", "!=", "<=", ">=", "<>", "+=", "-=",
    "*=", "/=", "%=", "&=", "|=", "^=", "@=", "->", ":="]

/-- The first mark that a text opens with, and what follows it; any single character can be one. -/
def takeMark (chars : List Char) : String × List Char :=
  let long := longMarks.find? fun mark => mark.toList.isPrefixOf chars
  let mark := long.getD (String.ofList (chars.take 1))
  (mark, chars.drop mark.length)

end LiveConsole.Program
