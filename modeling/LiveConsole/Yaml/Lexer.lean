import LiveConsole.Yaml.Supply
import LiveConsole.Yaml.Token

/-!
# Reading tokens

What a word means can show behind it only: a colon makes it the key of a mapping. So the place of every
word that may be a key is kept in mind until the line is over; a colon then puts the mark of a key, and
where it is the first of its column the start of a mapping, in front of the word.
-/
namespace LiveConsole.Yaml

/-- A token that turns out to be a key if a colon follows on the same line. -/
structure PendingKey where
  /-- The number of tokens in front of it. -/
  number : Nat
  /-- Whether nothing but a key can stand here. -/
  required : Bool
  /-- Where it starts. -/
  index : Nat
  /-- The line that it stands on. -/
  line : Nat
  /-- The column that it starts at. -/
  column : Nat

/-- What is known while tokens are read. -/
structure Lexer where
  /-- The place reached. -/
  cursor : Cursor
  /-- The tokens read, the last one first. -/
  reversed : List Token
  /-- The number of open brackets. -/
  flowLevel : Nat
  /-- The column of the innermost collection in block style; -1 outside of all. -/
  indent : Int
  /-- The columns of the collections around it. -/
  indents : List Int
  /-- Whether a key may start here. -/
  allowsKey : Bool
  /-- The latest possible key for each number of open brackets. -/
  pending : List (Nat × PendingKey)

namespace Lexer

/-- The state in front of a text. -/
def start (text : List Char) : Lexer :=
  let cursor := Cursor.start text
  ⟨if cursor.isAt orderMark then cursor.step else cursor, [], 0, -1, [], true, []⟩

/-- Put a token behind those read. -/
def emit (token : Token) (lexer : Lexer) : Lexer :=
  { lexer with reversed := token :: lexer.reversed }

/-- Put a token behind a number of tokens. -/
def insertAt (number : Nat) (token : Token) (lexer : Lexer) : Lexer :=
  let later := lexer.reversed.length - number
  { lexer with reversed := lexer.reversed.take later ++ token :: lexer.reversed.drop later }

/-- Go to a place. -/
def moveTo (cursor : Cursor) (lexer : Lexer) : Lexer := { lexer with cursor }

/-- Put a mark of so many characters behind the tokens read. -/
def mark (token : Token) (size : Nat) (lexer : Lexer) : Lexer :=
  (lexer.emit token).moveTo (lexer.cursor.skip size)

/-- Say whether a key may come next. -/
def allowKey (allowsKey : Bool) (lexer : Lexer) : Lexer := { lexer with allowsKey }

/-- Skip blanks, comments and line ends; on a new line in block style a key may start. -/
def skipSpace : Nat → Lexer → Lexer
  | 0, lexer => lexer
  | lines + 1, lexer =>
    let cursor := lexer.cursor.skipBlanks.skipComment
    match cursor.takeBreak with
    | ([], cursor) => lexer.moveTo cursor
    | (_, cursor) =>
      skipSpace lines ((lexer.allowKey (lexer.flowLevel == 0 || lexer.allowsKey)).moveTo cursor)

/-- The greatest number of characters from the start of a key to its colon. -/
def maxKeySize : Nat := 1024

/-- Whether a pending key can no longer be one. -/
def isStale (cursor : Cursor) (key : PendingKey) : Bool :=
  key.line != cursor.line || key.index + maxKeySize < cursor.index

/-- Forget pending keys that can no longer be keys; one that has to be a key is a trouble. -/
def dropStale (lexer : Lexer) : Outcome Lexer :=
  let (stale, kept) := lexer.pending.partition fun entry => isStale lexer.cursor entry.2
  if stale.any fun entry => entry.2.required then malformed else .ok { lexer with pending := kept }

/-- Forget the pending key of the current brackets; one that has to be a key is a trouble. -/
def dropPending (lexer : Lexer) : Outcome Lexer :=
  match lexer.pending.lookup lexer.flowLevel with
  | none => .ok lexer
  | some key =>
    if key.required then malformed
    else .ok { lexer with pending := lexer.pending.filter fun entry => entry.1 != lexer.flowLevel }

/-- Keep in mind that the next token may be a key. -/
def savePending (lexer : Lexer) : Outcome Lexer := do
  if !lexer.allowsKey then return lexer
  let cursor := lexer.cursor
  let required := lexer.flowLevel == 0 && lexer.indent == cursor.column
  let key := ⟨lexer.reversed.length, required, cursor.index, cursor.line, cursor.column⟩
  let lexer ← lexer.dropPending
  return { lexer with pending := (lexer.flowLevel, key) :: lexer.pending }

/-- Close the collections in block style that are further in than a column. -/
def unwindGo (column : Int) : List Int → Lexer → Lexer
  | [], lexer => lexer
  | outer :: rest, lexer =>
    if column < lexer.indent then
      unwindGo column rest { lexer.emit .blockEnd with indent := outer, indents := rest }
    else lexer

/-- Close the collections in block style that are further in than a column, outside brackets. -/
def unwind (column : Int) (lexer : Lexer) : Lexer :=
  if lexer.flowLevel = 0 then unwindGo column lexer.indents lexer else lexer

/-- Open a collection at a column, unless one is open there: whether it was opened. -/
def addIndent (column : Nat) (lexer : Lexer) : Bool × Lexer :=
  if lexer.indent < column then
    (true, { lexer with indent := column, indents := lexer.indent :: lexer.indents })
  else (false, lexer)

/-- End what is open, as in front of the marks between documents. -/
def endBlocks (lexer : Lexer) : Outcome Lexer := do
  return (← (lexer.unwind (-1)).dropPending).allowKey false

/-- A mark between documents. -/
def documentMark (token : Token) (lexer : Lexer) : Outcome Lexer := do
  return (← lexer.endBlocks).mark token 3

/-- An opening bracket. -/
def openBracket (token : Token) (lexer : Lexer) : Outcome Lexer := do
  let lexer ← lexer.savePending
  return { (lexer.mark token 1).allowKey true with flowLevel := lexer.flowLevel + 1 }

/-- A closing bracket. -/
def closeBracket (token : Token) (lexer : Lexer) : Outcome Lexer := do
  let lexer ← lexer.dropPending
  match lexer.flowLevel with
  | 0 => malformed
  | level + 1 => return { (lexer.mark token 1).allowKey false with flowLevel := level }

/-- A comma between entries. -/
def comma (lexer : Lexer) : Outcome Lexer := do
  return ((← lexer.dropPending).allowKey true).mark .comma 1

/-- Open a collection in block style here, where a key may start. -/
def openBlock (token : Token) (lexer : Lexer) : Outcome Lexer :=
  if lexer.flowLevel != 0 then .ok lexer
  else if !lexer.allowsKey then malformed
  else
    match lexer.addIndent lexer.cursor.column with
    | (true, lexer) => .ok (lexer.emit token)
    | (false, lexer) => .ok lexer

/-- The mark of an item in block style. -/
def item (lexer : Lexer) : Outcome Lexer := do
  let lexer ← lexer.openBlock .blockSequence
  return ((← lexer.dropPending).allowKey true).mark .item 1

/-- A written mark of a key. -/
def key (lexer : Lexer) : Outcome Lexer := do
  let lexer ← lexer.openBlock .blockMapping
  return ((← lexer.dropPending).allowKey (lexer.flowLevel == 0)).mark .key 1

/-- The mark of a value: a pending key becomes a key. -/
def value (lexer : Lexer) : Outcome Lexer := do
  match lexer.pending.lookup lexer.flowLevel with
  | some key =>
    let lexer :=
      { lexer with pending := lexer.pending.filter fun entry => entry.1 != lexer.flowLevel }
    let lexer := lexer.insertAt key.number .key
    let lexer :=
      if lexer.flowLevel = 0 then
        match lexer.addIndent key.column with
        | (true, lexer) => lexer.insertAt key.number .blockMapping
        | (false, lexer) => lexer
      else lexer
    return (lexer.allowKey false).mark .value 1
  | none =>
    let lexer ← lexer.openBlock .blockMapping
    return ((← lexer.dropPending).allowKey (lexer.flowLevel == 0)).mark .value 1

/-- A token that may be a key, or stand in front of one. -/
def possibleKey (read : Cursor → Outcome (Token × Cursor)) (lexer : Lexer) : Outcome Lexer := do
  let lexer ← lexer.savePending
  let (token, cursor) ← read lexer.cursor
  return ((lexer.allowKey false).emit token).moveTo cursor

/-- A scalar written as a block. -/
def block (folded : Bool) (lexer : Lexer) : Outcome Lexer := do
  let lexer ← lexer.dropPending
  let (text, cursor) ← blockText folded lexer.indent lexer.cursor
  return ((lexer.allowKey true).emit (.scalar (.ofChars text) false)).moveTo cursor

/-- A scalar between quotes. -/
def quoted (double : Bool) : Lexer → Outcome Lexer :=
  possibleKey fun cursor => do
    let (text, cursor) ← quotedText double cursor
    return (.scalar text false, cursor)

/-- A plain scalar; when a line ends behind it, a key may start there. -/
def plain (lexer : Lexer) : Outcome Lexer := do
  let lexer ← lexer.savePending
  let found := plainText (lexer.flowLevel != 0) (lexer.indent + 1) lexer.cursor
  return ((lexer.allowKey found.lineEnded).emit (.scalar (.ofChars found.text) true)).moveTo
    found.cursor

/-- Whether a plain scalar can start here. -/
def startsPlain (lexer : Lexer) (c : Char) : Bool :=
  let isSign := "-?:,[]\x7b\x7d#&*!|>'\"%@".toList.contains c || c == Char.ofNat 0x60
  !(isSpace c || isSign) ||
    (!lexer.cursor.endsAt 1 isSpace &&
      (c == '-' || (lexer.flowLevel == 0 && (c == '?' || c == ':'))))

/-- Read the token that starts with a character; the cursor is at that character. -/
def token (lexer : Lexer) (c : Char) : Outcome Lexer :=
  let cursor := lexer.cursor
  let inFlow := lexer.flowLevel != 0
  let isAlone := cursor.endsAt 1 isSpace
  if c == '%' && cursor.column == 0 then do
    let lexer ← lexer.endBlocks
    let (token, cursor) ← readDirective lexer.cursor
    return (lexer.emit token).moveTo cursor
  else if cursor.column == 0 && cursor.isMarker '-' then lexer.documentMark .documentStart
  else if cursor.column == 0 && cursor.isMarker '.' then lexer.documentMark .documentEnd
  else if c == '[' then lexer.openBracket .openSequence
  else if c == '\x7b' then lexer.openBracket .openMapping
  else if c == ']' then lexer.closeBracket .closeSequence
  else if c == '\x7d' then lexer.closeBracket .closeMapping
  else if c == ',' then lexer.comma
  else if c == '-' && isAlone then lexer.item
  else if c == '?' && (inFlow || isAlone) then lexer.key
  else if c == ':' && (inFlow || isAlone) then lexer.value
  else if c == '*' then
    lexer.possibleKey fun cursor => do
      let (name, cursor) ← nodeName cursor
      return (.alias name, cursor)
  else if c == '&' then
    lexer.possibleKey fun cursor => do
      let (name, cursor) ← nodeName cursor
      return (.anchor name, cursor)
  else if c == '!' then lexer.possibleKey readTag
  else if c == '|' && !inFlow then lexer.block false
  else if c == '>' && !inFlow then lexer.block true
  else if c == '\'' then lexer.quoted false
  else if c == '"' then lexer.quoted true
  else if lexer.startsPlain c then lexer.plain
  else malformed

/-- Read the next token; at the end of the text, with `true`, what is open is closed. -/
def next (lexer : Lexer) : Outcome (Lexer × Bool) := do
  let lexer ← (lexer.skipSpace (lexer.cursor.rest.length + 1)).dropStale
  let lexer := lexer.unwind lexer.cursor.column
  match lexer.cursor.peek? with
  | none => return (← lexer.endBlocks, true)
  | some c => return (← lexer.token c, false)

/-- The tokens that a reader gets before a trouble: none from the first pending key on. -/
def delivered (lexer : Lexer) : List Token :=
  let pending := lexer.pending.filter fun entry => !isStale lexer.cursor entry.2
  let count := pending.foldl (fun least entry => min least entry.2.number) lexer.reversed.length
  lexer.reversed.reverse.take count

/-- Whether the characters behind those supplied are asked for when a place is reached. -/
def asksForMore (cursor : Cursor) : Bool := cursor.rest.length ≤ 1

/-- Read all tokens of a supply with, perhaps, a trouble behind its text. -/
def run (behind : Option Trouble) : Nat → Lexer → List Token
  | 0, lexer => lexer.delivered ++ [.failed .malformed]
  | steps + 1, lexer =>
    match lexer.next, behind with
    | .error .ended, some trouble => lexer.delivered ++ [.failed trouble]
    | .error trouble, _ => lexer.delivered ++ [.failed trouble]
    | .ok (next, ended), some trouble =>
      if ended || asksForMore next.cursor then lexer.delivered ++ [.failed trouble]
      else run behind steps next
    | .ok (next, true), none => next.reversed.reverse
    | .ok (next, false), none => run behind steps next

end Lexer

/-- The tokens of a text that is supplied. -/
def tokens (supply : Supply) : List Token :=
  (Lexer.start supply.text).run supply.trouble (supply.text.length + 1)

end LiveConsole.Yaml
