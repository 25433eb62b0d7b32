import LiveConsole.Fault
import LiveConsole.Number.Reading

/-!
# Places in a YAML text

A cursor is a place in a text: what is still to be read, and where that is. Lines end at a line feed,
at the next-line control, or at the Unicode line and paragraph separators; the last two stay what they
are when lines are joined, the others become line feeds.
-/
namespace LiveConsole.Yaml

/-- Why a text gives no value. -/
inductive Trouble where
  /-- The text is not YAML, or YAML that is not understood. -/
  | malformed
  /-- The text ends where it may not. -/
  | ended
  /-- A value of the text cannot be built. -/
  | unbuildable (fault : Fault)
  deriving DecidableEq, Repr

namespace Trouble

/-- The trouble of an integer that is written with so many digits. -/
def tooManyDigits (count : Nat) : Trouble :=
  unbuildable (.raised "ValueError"
    (s!"Exceeds the limit ({Number.longestRead} digits) for integer string conversion: value has " ++
      s!"{count} digits; use sys.set_int_max_str_digits() to increase the limit"))

end Trouble

/-- The outcome of reading. -/
abbrev Outcome (Result : Type) := Except Trouble Result

/-- The outcome of a text that is not YAML. -/
def malformed {Result : Type} : Outcome Result := .error .malformed

/-- The outcome of a text that ends where it may not. -/
def ended {Result : Type} : Outcome Result := .error .ended

/-- A place in a text. -/
structure Cursor where
  /-- What is still to be read. -/
  rest : List Char
  /-- The number of characters read. -/
  index : Nat
  /-- The number of lines read. -/
  line : Nat
  /-- The number of characters read in this line. -/
  column : Nat
  deriving DecidableEq, Repr

/-- The mark that may stand in front of a whole text. -/
def orderMark : Char := Char.ofNat 0xFEFF

/-- Whether a character ends a line. -/
def isBreak (c : Char) : Bool :=
  c == '\n' || c == Char.ofNat 0x85 || c == Char.ofNat 0x2028 || c == Char.ofNat 0x2029

/-- Whether a character may occur in a text at all. -/
def isAllowed (c : Char) : Bool :=
  let code := c.toNat
  code == 0x09 || code == 0x0A || code == 0x0D || (0x20 ≤ code && code ≤ 0x7E) || code == 0x85 ||
    (0xA0 ≤ code && code ≤ 0xD7FF) || (0xE000 ≤ code && code ≤ 0xFFFD) || 0x10000 ≤ code

/-- Whether a character is a blank, a tab or a line end. -/
def isSpace (c : Char) : Bool := c == ' ' || c == '\t' || isBreak c

/-- Whether a character is an ASCII letter or digit, a dash or an underscore. -/
def isNamePart (c : Char) : Bool := c.isAlphanum || c == '-' || c == '_'

namespace Cursor

/-- The start of a text. -/
def start (text : List Char) : Cursor := ⟨text, 0, 0, 0⟩

/-- The next character. -/
def peek? (cursor : Cursor) : Option Char := cursor.rest.head?

/-- The character at a distance. -/
def peekAt? (cursor : Cursor) (distance : Nat) : Option Char := cursor.rest[distance]?

/-- Whether the next character is the given one. -/
def isAt (cursor : Cursor) (c : Char) : Bool := cursor.peek? == some c

/-- Whether the character at a distance has a property; the end of the text has every property. -/
def endsAt (cursor : Cursor) (distance : Nat) (property : Char → Bool) : Bool :=
  match cursor.peekAt? distance with
  | none => true
  | some c => property c

/-- Whether the text is read to its end or the next character ends a line. -/
def atLineEnd (cursor : Cursor) : Bool := cursor.endsAt 0 isBreak

/-- Read one character. -/
def step (cursor : Cursor) : Cursor :=
  match cursor.rest with
  | [] => cursor
  | c :: rest =>
    if isBreak c then ⟨rest, cursor.index + 1, cursor.line + 1, 0⟩
    else if c = orderMark then ⟨rest, cursor.index + 1, cursor.line, cursor.column⟩
    else ⟨rest, cursor.index + 1, cursor.line, cursor.column + 1⟩

/-- Read a number of characters. -/
def skip (cursor : Cursor) : Nat → Cursor
  | 0 => cursor
  | count + 1 => skip cursor.step count

/-- Read characters as long as they have a property. -/
def takeWhile (cursor : Cursor) (property : Char → Bool) : List Char × Cursor :=
  let taken := cursor.rest.takeWhile property
  (taken, cursor.skip taken.length)

/-- Skip blanks. -/
def skipBlanks (cursor : Cursor) : Cursor := (cursor.takeWhile (· == ' ')).2

/-- Skip a comment, if one starts here. -/
def skipComment (cursor : Cursor) : Cursor :=
  if cursor.isAt '#' then (cursor.takeWhile fun c => !isBreak c).2 else cursor

/-- Read a line end, if there is one: what it becomes in a value, and the place behind it. -/
def takeBreak (cursor : Cursor) : List Char × Cursor :=
  match cursor.rest with
  | c :: _ =>
    if isBreak c then
      ([if c = '\n' ∨ c = Char.ofNat 0x85 then '\n' else c], cursor.step)
    else ([], cursor)
  | [] => ([], cursor)

/-- Read to the end of the line, which may hold nothing but a comment. -/
def finishLine (cursor : Cursor) : Outcome Cursor :=
  let cursor := cursor.skipBlanks.skipComment
  if cursor.atLineEnd then .ok cursor.takeBreak.2 else malformed

/-- Whether three given characters stand here with a space or the end of the text behind them. -/
def isMarker (cursor : Cursor) (marker : Char) : Bool :=
  cursor.rest.take 3 == [marker, marker, marker] && cursor.endsAt 3 isSpace

/-- Whether a mark between documents stands here. -/
def isSeparator (cursor : Cursor) : Bool := cursor.isMarker '-' || cursor.isMarker '.'

end Cursor

end LiveConsole.Yaml
