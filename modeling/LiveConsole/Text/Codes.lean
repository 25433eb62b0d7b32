import LiveConsole.Text.LowerCase
import LiveConsole.Text.Quoted
import LiveConsole.Text.Utf8

/-!
# Texts as codes

A text can be spelled by codes some of which belong to no character: the halves of a pair that stands for
one character, written singly. Such a text can be looked at, quoted and compared like any other, but it
is no `String`. `Codes.text?` gives the `String` where there is one.
-/
namespace LiveConsole.Text

/-- A text by its codes. -/
abbrev Codes := List Nat

namespace Codes

/-- The codes of characters. -/
def ofChars (chars : List Char) : Codes := chars.map Char.toNat

/-- The codes of a text. -/
def ofText (text : String) : Codes := ofChars text.toList

/-- Whether a code belongs to no character. -/
def isHalf (code : Nat) : Bool := 0xD800 ≤ code && code < 0xE000

/-- The characters of codes; a code that belongs to none gives the null character. -/
def chars (codes : Codes) : List Char := codes.map Char.ofNat

/-- The text that codes spell, if all of them belong to characters. -/
def text? (codes : Codes) : Option String :=
  if codes.any isHalf then none else some (String.ofList codes.chars)

/-- The text that codes spell, with a character in place of each code that belongs to none. -/
def shown (codes : Codes) : String :=
  String.ofList (codes.map fun code => if isHalf code then replacement else Char.ofNat code)

/-- How a code is written between the given quotes. -/
def escape (quote : Char) (code : Nat) : List Char :=
  if isHalf code then '\\' :: 'u' :: hexDigits 4 code else Text.escape quote (Char.ofNat code)

/-- A text between quotes, every code escaped where it has to be. -/
def quoted (codes : Codes) : String :=
  let quote := chooseQuote codes.chars
  String.ofList (quote :: codes.flatMap (escape quote) ++ [quote])

/-- The codes in lower case; `run` are the characters since the last code that belongs to none, the last
one first. -/
def lowerGo (run : List Char) : Codes → Codes
  | [] => ofText (Text.lower (String.ofList run.reverse))
  | code :: rest =>
    if isHalf code then ofText (Text.lower (String.ofList run.reverse)) ++ code :: lowerGo [] rest
    else lowerGo (Char.ofNat code :: run) rest

/-- The codes in lower case. -/
def lower (codes : Codes) : Codes := lowerGo [] codes

/-- What follows a text at the front of codes. -/
def after? (front : String) (codes : Codes) : Option Codes :=
  if (ofText front).isPrefixOf codes then some (codes.drop front.length) else none

/-- The codes between those of a character. -/
def splitAt (c : Char) : Codes → List Codes
  | [] => [[]]
  | code :: rest =>
    if code == c.toNat then [] :: splitAt c rest
    else
      match splitAt c rest with
      | [] => [[code]]
      | first :: others => (code :: first) :: others

/-- Whether each code that belongs to no character stands for a byte that is not read as one: then the
text can be passed on as bytes. -/
def isPassable (codes : Codes) : Bool :=
  codes.all fun code => !isHalf code || (0xDC80 ≤ code && code ≤ 0xDCFF)

end Codes

end LiveConsole.Text
