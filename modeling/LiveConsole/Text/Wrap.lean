/-!
# Running text in lines

A text is set in lines of at most a given width. Lines are broken at spaces, which the break swallows,
and behind the hyphen of a word, which stays at the end of the line. Each line holds as much as fits.
-/
namespace LiveConsole.Text

/-- A piece of a text that no line is broken inside of. -/
structure Piece where
  /-- Whether a space stands in front of it. -/
  isSpaced : Bool
  /-- Its characters. -/
  chars : List Char
  deriving DecidableEq, Repr

/-- The parts of a word, each but the last with its hyphen; only one between letters divides. -/
def hyphenParts : List Char → List Char → List (List Char)
  | done, [] => [done.reverse]
  | done, c :: rest =>
    if c = '-' ∧ 2 ≤ (done.takeWhile Char.isAlpha).length ∧ 2 ≤ (rest.takeWhile Char.isAlpha).length then
      ('-' :: done).reverse :: hyphenParts [] rest
    else hyphenParts (c :: done) rest

/-- The pieces of a word. -/
def piecesOf (word : String) : List Piece :=
  match hyphenParts [] word.toList with
  | [] => []
  | first :: others => ⟨true, first⟩ :: others.map fun part => ⟨false, part⟩

/-- Set pieces in lines, given the characters of the line that is open. -/
def setPieces (width : Int) : List Char → List Piece → List String
  | line, [] => if line.isEmpty then [] else [String.ofList line]
  | line, piece :: rest =>
    let longer := line ++ (if piece.isSpaced then [' '] else []) ++ piece.chars
    if line.isEmpty then setPieces width piece.chars rest
    else if longer.length ≤ width then setPieces width longer rest
    else String.ofList line :: setPieces width piece.chars rest

/-- The lines of a text at a width; a piece that is wider has a line of its own. -/
def wrapped (width : Int) (text : String) : List String :=
  setPieces width [] ((text.splitOn " ").flatMap piecesOf)

end LiveConsole.Text
