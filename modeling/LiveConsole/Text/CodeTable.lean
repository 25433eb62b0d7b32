import LiveConsole.Text.Blank

/-!
# Tables of characters

A property of characters that a standard fixes by a table is kept as an ascending list of closed ranges of
code points. A table from characters to characters is kept as text: its entries are separated by blanks, and
each has code points in hexadecimal, `1D400-1D419=41` for a run of characters whose images follow one another,
and `FB01=66+69` for a character with several.
-/
namespace LiveConsole.Text

/-- Whether a code point lies in one of the closed ranges. -/
def inRanges (ranges : List (Nat × Nat)) (code : Nat) : Bool :=
  ranges.any fun range => range.1 ≤ code && code ≤ range.2

/-- Successive characters with what they stand for; a run has images that follow one another too. -/
structure CodeRun where
  /-- The first character. -/
  first : Nat
  /-- The last character. -/
  last : Nat
  /-- What the first character stands for. -/
  image : List Nat
  deriving DecidableEq, Repr

namespace CodeRun

/-- The value of hexadecimal digits in upper case. -/
def hexValue (digits : List Char) : Nat :=
  digits.foldl
    (fun value c => value * 16 + (if c.isDigit then c.toNat - '0'.toNat else c.toNat - 'A'.toNat + 10)) 0

/-- One entry of a table. -/
def ofEntry? (entry : List Char) : Option CodeRun :=
  match splitAt '=' entry with
  | [source, image] =>
    let image := (splitAt '+' image).map hexValue
    match splitAt '-' source with
    | [only] => some ⟨hexValue only, hexValue only, image⟩
    | [first, last] => some ⟨hexValue first, hexValue last, image⟩
    | _ => none
  | _ => none

/-- The entries of a table. -/
def ofText (text : String) : List CodeRun := (splitAt ' ' text.toList).filterMap ofEntry?

/-- What a character of a run stands for. -/
def imageOf (run : CodeRun) (code : Nat) : List Nat :=
  match run.image with
  | [image] => [image + (code - run.first)]
  | image => image

/-- The run that a character belongs to. -/
def find? (runs : List CodeRun) (code : Nat) : Option CodeRun :=
  runs.find? fun run => run.first ≤ code && code ≤ run.last

end CodeRun

end LiveConsole.Text
