import LiveConsole.Text.Codes
import LiveConsole.Yaml.Cursor

/-!
# The text of scalars

A scalar is written plain, between quotes, or as a block of indented lines. Where a written scalar goes
over several lines the lines are joined: a single line end becomes a blank, and of several line ends
all but the first are kept.
-/
namespace LiveConsole.Yaml

open Text (Codes)

/-! ## Between quotes -/

/-- What a letter behind a backslash stands for. -/
def escapeLetters : List (Char × Char) :=
  [('0', Char.ofNat 0), ('a', Char.ofNat 7), ('b', Char.ofNat 8), ('t', '\t'), ('\t', '\t'),
    ('n', '\n'), ('v', Char.ofNat 0x0B), ('f', Char.ofNat 0x0C), ('r', '\r'), ('e', Char.ofNat 0x1B),
    (' ', ' '), ('"', '"'), ('\\', '\\'), ('/', '/'), ('N', Char.ofNat 0x85), ('_', Char.ofNat 0xA0),
    ('L', Char.ofNat 0x2028), ('P', Char.ofNat 0x2029)]

/-- The number of digits behind a letter that opens a character code. -/
def codeLetters : List (Char × Nat) := [('x', 2), ('u', 4), ('U', 8)]

/-- The value of a hexadecimal digit. -/
def hexValue? (c : Char) : Option Nat :=
  if c.isDigit then some (c.toNat - '0'.toNat)
  else if 'a' ≤ c ∧ c ≤ 'f' then some (c.toNat - 'a'.toNat + 10)
  else if 'A' ≤ c ∧ c ≤ 'F' then some (c.toNat - 'A'.toNat + 10)
  else none

/-- The number that exactly so many hexadecimal digits spell at the front of a text. -/
def hexNumber? : Nat → Nat → List Char → Option Nat
  | 0, value, _ => some value
  | _ + 1, _, [] => none
  | count + 1, value, c :: rest => do hexNumber? count (value * 16 + (← hexValue? c)) rest

/-- A code, which need not belong to a character. -/
def checkCode (code : Nat) : Outcome Nat :=
  if code ≤ 0x10FFFF then .ok code
  else if code < 0x80000000 then
    .error (.unbuildable (.raised "ValueError" "chr() arg not in range(0x110000)"))
  else .error (.unbuildable (.raised "OverflowError" "Python int too large to convert to C int"))

/-- Line ends and the blanks in front of lines, inside quotes; marks between documents are refused. -/
def quotedBreaks : Nat → Cursor → Outcome (List Char × Cursor)
  | 0, _ => malformed
  | lines + 1, cursor =>
    if cursor.isSeparator then malformed
    else
      let (_, cursor) := cursor.takeWhile fun c => c == ' ' || c == '\t'
      match cursor.takeBreak with
      | ([], cursor) => .ok ([], cursor)
      | (found, cursor) => do
        let (more, cursor) ← quotedBreaks lines cursor
        return (found ++ more, cursor)

/-- How a line end joins lines, given the kept line ends behind it. -/
def joined (first : List Char) (kept : List Char) : List Char :=
  if first != ['\n'] then first ++ kept else if kept.isEmpty then [' '] else kept

/-- Blanks and line ends inside quotes. -/
def quotedSpaces (cursor : Cursor) : Outcome (List Char × Cursor) := do
  let (blanks, cursor) := cursor.takeWhile fun c => c == ' ' || c == '\t'
  match cursor.peek? with
  | none => ended
  | some _ =>
    match cursor.takeBreak with
    | ([], _) => return (blanks, cursor)
    | (first, cursor) =>
      let (kept, cursor) ← quotedBreaks (cursor.rest.length + 1) cursor
      return (joined first kept, cursor)

/-- What a backslash and the characters behind it stand for; the cursor is behind the backslash. -/
def escaped (cursor : Cursor) : Outcome (Codes × Cursor) :=
  match cursor.peek? with
  | none => ended
  | some c =>
    match escapeLetters.lookup c, codeLetters.lookup c with
    | some found, _ => .ok ([found.toNat], cursor.step)
    | none, some count => do
      match hexNumber? count 0 cursor.step.rest with
      | none => if cursor.step.rest.length < count then ended else malformed
      | some code => return ([← checkCode code], cursor.step.skip count)
    | none, none => do
      if isBreak c then
        let cursor := cursor.takeBreak.2
        let (found, cursor) ← quotedBreaks (cursor.rest.length + 1) cursor
        return (Codes.ofChars found, cursor)
      else malformed

/-- Characters inside quotes up to a space, a line end or the closing quote. -/
def quotedRun (double : Bool) : Nat → Cursor → Outcome (Codes × Cursor)
  | 0, _ => malformed
  | rounds + 1, cursor => do
    let isPlain := fun c : Char => !(c == '\'' || c == '"' || c == '\\' || isSpace c)
    let (found, cursor) := cursor.takeWhile isPlain
    let found := Codes.ofChars found
    let onward := fun (part : Codes) (cursor : Cursor) => do
      let (more, cursor) ← quotedRun double rounds cursor
      return (found ++ part ++ more, cursor)
    match cursor.peek? with
    | none => return (found, cursor)
    | some c =>
      if !double && c == '\'' && cursor.peekAt? 1 == some '\'' then onward (Codes.ofChars ['\'']) (cursor.skip 2)
      else if (double && c == '\'') || (!double && (c == '"' || c == '\\')) then onward [c.toNat] cursor.step
      else if double && c == '\\' then
        let (part, cursor) ← escaped cursor.step
        onward part cursor
      else return (found, cursor)

/-- The rest of a scalar between quotes, behind a run of characters. -/
def quotedRest (double : Bool) : Nat → Cursor → Outcome (Codes × Cursor)
  | 0, _ => malformed
  | rounds + 1, cursor => do
    if cursor.isAt (if double then '"' else '\'') then return ([], cursor.step)
    let (spaces, cursor) ← quotedSpaces cursor
    let (run, cursor) ← quotedRun double (cursor.rest.length + 1) cursor
    let (more, cursor) ← quotedRest double rounds cursor
    return (Codes.ofChars spaces ++ run ++ more, cursor)

/-- A scalar between quotes; the cursor is at the opening quote. -/
def quotedText (double : Bool) (cursor : Cursor) : Outcome (Codes × Cursor) := do
  let cursor := cursor.step
  let (run, cursor) ← quotedRun double (cursor.rest.length + 1) cursor
  let (more, cursor) ← quotedRest double (cursor.rest.length + 1) cursor
  return (run ++ more, cursor)

/-! ## Plain -/

/-- A plain scalar: its text, the place behind it, and whether a line ended behind it. -/
structure PlainText where
  /-- The text. -/
  text : List Char
  /-- The place behind it. -/
  cursor : Cursor
  /-- Whether the spaces behind the last word hold a line end. -/
  lineEnded : Bool

/-- Whether a character ends a word of a plain scalar; `next` is the character behind it. -/
def endsPlain (inFlow : Bool) (c : Char) (next : Option Char) : Bool :=
  let isFlowSign := c == ',' || c == '?' || c == '[' || c == ']' || c == '\x7b' || c == '\x7d'
  isSpace c || (inFlow && isFlowSign) ||
    (c == ':' &&
      match next with
      | none => true
      | some d =>
        isSpace d ||
          (inFlow && (d == ',' || d == '[' || d == ']' || d == '\x7b' || d == '\x7d')))

/-- The word of a plain scalar at the front of a text. -/
def plainWord (inFlow : Bool) : List Char → List Char
  | [] => []
  | c :: rest => if endsPlain inFlow c rest.head? then [] else c :: plainWord inFlow rest

/-- Blank lines and indentation behind a line end; nothing when a mark between documents follows. -/
def plainBreaks : Nat → Cursor → Option (List Char) × Cursor
  | 0, cursor => (some [], cursor)
  | lines + 1, cursor =>
    let cursor := cursor.skipBlanks
    match cursor.takeBreak with
    | ([], cursor) => (some [], cursor)
    | (found, cursor) =>
      if cursor.isSeparator then (none, cursor)
      else
        let (more, cursor) := plainBreaks lines cursor
        (more.map (found ++ ·), cursor)

/-- Spaces between words of a plain scalar: what they become, and whether a line ended. -/
def plainSpaces (cursor : Cursor) : List Char × Bool × Cursor :=
  let (blanks, cursor) := cursor.takeWhile (· == ' ')
  match cursor.takeBreak with
  | ([], cursor) => (blanks, false, cursor)
  | (first, cursor) =>
    if cursor.isSeparator then ([], true, cursor)
    else
      match plainBreaks (cursor.rest.length + 1) cursor with
      | (none, cursor) => ([], true, cursor)
      | (some kept, cursor) => (joined first kept, true, cursor)

/-- Read words of a plain scalar, each behind the spaces in front of it. -/
def plainWords (inFlow : Bool) (indent : Int) : Nat → List Char → Bool → Cursor → PlainText
  | 0, _, lineEnded, cursor => ⟨[], cursor, lineEnded⟩
  | words + 1, spaces, lineEnded, cursor =>
    let word := if cursor.isAt '#' then [] else plainWord inFlow cursor.rest
    if word.isEmpty then ⟨[], cursor, lineEnded⟩
    else
      let (next, ended, behind) := plainSpaces (cursor.skip word.length)
      if next.isEmpty || behind.isAt '#' || (!inFlow && (behind.column : Int) < indent) then
        ⟨spaces ++ word, behind, ended⟩
      else
        let more := plainWords inFlow indent words next ended behind
        ⟨spaces ++ word ++ more.text, more.cursor, more.lineEnded⟩

/-- A plain scalar, its lines indented at least so far. -/
def plainText (inFlow : Bool) (indent : Int) (cursor : Cursor) : PlainText :=
  plainWords inFlow indent (cursor.rest.length + 1) [] false cursor

/-! ## As a block -/

/-- What becomes of the line ends behind the last line of a block. -/
inductive Chomp where
  /-- One is kept. -/
  | clip
  /-- None is kept. -/
  | strip
  /-- All are kept. -/
  | keep
  deriving DecidableEq, Repr

/-- What a sign in the header of a block says. -/
def chompOf? (c : Char) : Option Chomp :=
  if c = '+' then some .keep else if c = '-' then some .strip else none

/-- The header of a block: what becomes of the last line ends, and the indentation if it is given. -/
def blockHeader (cursor : Cursor) : Outcome (Chomp × Option Nat × Cursor) :=
  let digit := fun cursor : Cursor =>
    match cursor.peek? with
    | some c => if c.isDigit then some (c.toNat - '0'.toNat) else none
    | none => none
  let sign := fun cursor : Cursor => cursor.peek?.bind chompOf?
  let finish := fun (chomp : Chomp) (indent : Option Nat) (cursor : Cursor) =>
    if indent = some 0 then malformed
    else if cursor.endsAt 0 (fun c => c == ' ' || isBreak c) then .ok (chomp, indent, cursor)
    else malformed
  match sign cursor, digit cursor with
  | some chomp, _ =>
    match digit cursor.step with
    | some indent => finish chomp (some indent) cursor.step.step
    | none => finish chomp none cursor.step
  | none, some indent =>
    match sign cursor.step with
    | some chomp => finish chomp (some indent) cursor.step.step
    | none => finish .clip (some indent) cursor.step
  | none, none => finish .clip none cursor

/-- Skip blanks up to a column. -/
def skipToColumn (indent : Nat) : Nat → Cursor → Cursor
  | 0, cursor => cursor
  | room + 1, cursor =>
    if cursor.column < indent && cursor.isAt ' ' then skipToColumn indent room cursor.step else cursor

/-- Line ends of blank lines, and the indentation of the line behind them. -/
def blockBreaks (indent : Nat) : Nat → Cursor → List Char × Cursor
  | 0, cursor => ([], cursor)
  | lines + 1, cursor =>
    let cursor := skipToColumn indent indent cursor
    match cursor.takeBreak with
    | ([], cursor) => ([], cursor)
    | (found, cursor) =>
      let (more, cursor) := blockBreaks indent lines cursor
      (found ++ more, cursor)

/-- Line ends of the blank lines in front of a block, and the widest indentation met. -/
def blockIndentation : Nat → Cursor → Nat → List Char × Nat × Cursor
  | 0, cursor, widest => ([], widest, cursor)
  | room + 1, cursor, widest =>
    if cursor.isAt ' ' then
      let cursor := cursor.step
      blockIndentation room cursor (max widest cursor.column)
    else
      match cursor.takeBreak with
      | ([], cursor) => ([], widest, cursor)
      | (found, cursor) =>
        let (more, widest, cursor) := blockIndentation room cursor widest
        (found ++ more, widest, cursor)

/-- The lines of a block: its text, the last line end, and the line ends behind that. -/
structure BlockLines where
  /-- The text. -/
  text : List Char
  /-- The line end of the last line. -/
  lastBreak : List Char
  /-- The line ends of the blank lines behind it. -/
  breaks : List Char
  /-- The place behind the block. -/
  cursor : Cursor

/-- How a line end inside a block joins two lines, given the line ends of blank lines between them. -/
def blockJoint (folded : Bool) (lineBreak : List Char) (spaced nextSpaced : Bool) (breaks : List Char) :
    List Char :=
  if folded && lineBreak == ['\n'] && !spaced && !nextSpaced then
    if breaks.isEmpty then [' '] else []
  else lineBreak

/-- Read the lines of a block, given the line ends of blank lines in front. -/
def blockLines (folded : Bool) (indent : Nat) : Nat → List Char → Cursor → BlockLines
  | 0, breaks, cursor => ⟨[], [], breaks, cursor⟩
  | lines + 1, breaks, cursor =>
    let startsLine := fun cursor : Cursor => cursor.column == indent && cursor.peek?.isSome
    let isSpaced := fun cursor : Cursor => cursor.isAt ' ' || cursor.isAt '\t'
    if !startsLine cursor then ⟨[], [], breaks, cursor⟩
    else
      let (line, behind) := cursor.takeWhile fun c => !isBreak c
      let (lineBreak, behind) := behind.takeBreak
      let (kept, behind) := blockBreaks indent (behind.rest.length + 1) behind
      if startsLine behind then
        let joint := blockJoint folded lineBreak (isSpaced cursor) (isSpaced behind) kept
        let more := blockLines folded indent lines kept behind
        { more with text := breaks ++ line ++ joint ++ more.text }
      else ⟨breaks ++ line, lineBreak, kept, behind⟩

/-- A scalar written as a block; the cursor is at the sign that opens it. -/
def blockText (folded : Bool) (indent : Int) (cursor : Cursor) : Outcome (List Char × Cursor) := do
  let (chomp, given, cursor) ← blockHeader cursor.step
  let cursor ← cursor.finishLine
  let least := (max (indent + 1) 1).toNat
  let room := cursor.rest.length + 1
  let (breaks, width, cursor) :=
    match given with
    | none =>
      let (breaks, widest, cursor) := blockIndentation room cursor 0
      (breaks, max least widest, cursor)
    | some given =>
      let width := least + given - 1
      let (breaks, cursor) := blockBreaks width room cursor
      (breaks, width, cursor)
  let found := blockLines folded width (cursor.rest.length + 1) breaks cursor
  let lastBreak := if chomp = .strip then [] else found.lastBreak
  let breaks := if chomp = .keep then found.breaks else []
  return (found.text ++ lastBreak ++ breaks, found.cursor)

end LiveConsole.Yaml
