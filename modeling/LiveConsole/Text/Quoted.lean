import LiveConsole.Text.Printable

/-!
# Quoted texts and byte strings

A quoted text stands between single quotes, or between double quotes when it holds a single quote
and no double quote. Backslashes and the quote in use are escaped by a backslash, the three common
controls by a letter, every other character that is not printable by its code in hexadecimal.
-/
namespace LiveConsole.Text

/-- A hexadecimal digit, in lower case. -/
def hexDigit (value : Nat) : Char :=
  if value < 10 then Char.ofNat ('0'.toNat + value) else Char.ofNat ('a'.toNat + (value - 10))

/-- The last `width` hexadecimal digits of a number, most significant first. -/
def hexDigits : Nat → Nat → List Char
  | 0, _ => []
  | width + 1, value => hexDigits width (value / 16) ++ [hexDigit (value % 16)]

/-- The quote that needs the fewest escapes, single unless only double quotes avoid one. -/
def chooseQuote (chars : List Char) : Char :=
  if chars.contains '\'' && !chars.contains '"' then '"' else '\''

/-- How one character is written between the given quotes. -/
def escape (quote c : Char) : List Char :=
  if c == '\\' || c == quote then ['\\', c]
  else if c == '\n' then ['\\', 'n']
  else if c == '\r' then ['\\', 'r']
  else if c == '\t' then ['\\', 't']
  else if isPrintable c then [c]
  else if c.toNat < 0x100 then '\\' :: 'x' :: hexDigits 2 c.toNat
  else if c.toNat < 0x10000 then '\\' :: 'u' :: hexDigits 4 c.toNat
  else '\\' :: 'U' :: hexDigits 8 c.toNat

/-- A text between quotes, every character escaped where it has to be. -/
def quoted (text : String) : String :=
  let chars := text.toList
  let quote := chooseQuote chars
  String.ofList (quote :: chars.flatMap (escape quote) ++ [quote])

/-- How one byte is written when the characters `escaped` need a backslash: printable ASCII as itself. -/
def escapeByte (escaped : List Char) (byte : UInt8) : List Char :=
  let c := Char.ofNat byte.toNat
  if escaped.contains c then ['\\', c]
  else if c == '\n' then ['\\', 'n']
  else if c == '\r' then ['\\', 'r']
  else if c == '\t' then ['\\', 't']
  else if 0x20 ≤ byte && byte < 0x7F then [c]
  else '\\' :: 'x' :: hexDigits 2 byte.toNat

/-- Bytes between quotes, behind the mark `b`; `alwaysEscaped` needs a backslash between any quotes. -/
def quotedBytesWith (alwaysEscaped : List Char) (bytes : List UInt8) : String :=
  let quote := chooseQuote (bytes.map fun byte => Char.ofNat byte.toNat)
  let escaped := '\\' :: quote :: alwaysEscaped
  String.ofList ('b' :: quote :: bytes.flatMap (escapeByte escaped) ++ [quote])

/-- A fixed byte string between quotes: the quote in use is escaped. -/
def quotedBytes (bytes : List UInt8) : String := quotedBytesWith [] bytes

/-- A growable byte string between quotes: the single quote is escaped between double quotes too. -/
def quotedGrowableBytes (bytes : List UInt8) : String := quotedBytesWith ['\''] bytes

end LiveConsole.Text
