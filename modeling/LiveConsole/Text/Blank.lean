/-!
# Blank characters and trimming

A character is blank when it separates words in running text: the ASCII white space, the four ASCII
information separators, and the Unicode space separators, line separator and paragraph separator.
Trimming drops a run of characters from one end of a text and leaves the rest untouched.
-/
namespace LiveConsole.Text

/-- Whether a character is white space of any kind, ASCII or not. -/
def isBlank (c : Char) : Bool :=
  let code := c.toNat
  (0x09 ≤ code && code ≤ 0x0D) || (0x1C ≤ code && code ≤ 0x20) || code == 0x85 || code == 0xA0 ||
    code == 0x1680 || (0x2000 ≤ code && code ≤ 0x200A) || code == 0x2028 || code == 0x2029 ||
    code == 0x202F || code == 0x205F || code == 0x3000

/-- Drop the longest run of characters with a property from the end of a text. -/
def dropEndWhile (drop : Char → Bool) (chars : List Char) : List Char :=
  (chars.reverse.dropWhile drop).reverse

/-- Drop blank characters from the front. -/
def trimStart (chars : List Char) : List Char := chars.dropWhile isBlank

/-- Drop blank characters from both ends. -/
def trim (chars : List Char) : List Char := dropEndWhile isBlank (trimStart chars)

/-- A text without the blank characters at its ends. -/
def trimmed (text : String) : String := String.ofList (trim text.toList)

/-- Whether a text holds nothing but blank characters. -/
def allBlank (text : String) : Bool := text.toList.all isBlank

/-- What follows a given opening in a text, when the text opens with it. -/
def afterOpening : List Char → List Char → Option (List Char)
  | [], rest => some rest
  | _ :: _, [] => none
  | c :: opening, d :: rest => if c = d then afterOpening opening rest else none

/-- Texts between the occurrences of a separator character, in order; never empty. -/
def splitAt (separator : Char) : List Char → List (List Char)
  | [] => [[]]
  | c :: rest =>
    if c = separator then [] :: splitAt separator rest
    else
      match splitAt separator rest with
      | [] => [[c]]
      | piece :: pieces => (c :: piece) :: pieces

/-- Join texts with a separator between each two neighbours. -/
def joinWith (separator : String) (texts : List String) : String :=
  String.intercalate separator texts

end LiveConsole.Text
