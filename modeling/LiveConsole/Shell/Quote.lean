/-!
# Words of a shell script

A text is written as one word of a shell script: as it is when all its characters stand for themselves,
and otherwise between single quotes, where only a single quote needs care: it is written between double
quotes, outside the single ones.
-/
namespace LiveConsole.Shell

/-- Whether a character stands for itself outside quotes. -/
def isPlain (c : Char) : Bool :=
  c.isAlphanum || c == '_' || c == '@' || c == '%' || c == '+' || c == '=' || c == ':' || c == ',' ||
    c == '.' || c == '/' || c == '-'

/-- A single quote, written in the midst of single quotes. -/
def quotedQuote : List Char := ['\'', '"', '\'', '"', '\'']

/-- What stands between single quotes for a text. -/
def quotedBody : List Char → List Char
  | [] => []
  | c :: rest => if c = '\'' then quotedQuote ++ quotedBody rest else c :: quotedBody rest

/-- A text as one word of a shell script. -/
def quoteChars (chars : List Char) : List Char :=
  if chars.all isPlain && !chars.isEmpty then chars else '\'' :: quotedBody chars ++ ['\'']

/-- A text as one word of a shell script. -/
def quote (text : String) : String := String.ofList (quoteChars text.toList)

end LiveConsole.Shell
