import LiveConsole.Yaml.ScalarText
import LiveConsole.Number.Binary64
import LiveConsole.Text.Utf8

/-!
# Tokens of a YAML text

Structure is shown by indentation in block style and by brackets in flow style; both give tokens that
open and close collections. A trouble met on the way is a token too: it counts only for a reader that
comes so far.
-/
namespace LiveConsole.Yaml

/-- A line that says how a document is to be read. -/
inductive Directive where
  /-- The version of the language, by its first number. -/
  | version (major : Nat)
  /-- A handle, and the text that it stands for at the front of tags. -/
  | handle (name : String) (stem : String)
  /-- A directive without meaning. -/
  | other
  deriving DecidableEq, Repr

/-- A token of a YAML text; the end of the text is the end of the tokens. -/
inductive Token where
  /-- A directive. -/
  | directive (directive : Directive)
  /-- The mark in front of a document. -/
  | documentStart
  /-- The mark behind a document. -/
  | documentEnd
  /-- The start of a sequence in block style. -/
  | blockSequence
  /-- The start of a mapping in block style. -/
  | blockMapping
  /-- The end of a collection in block style. -/
  | blockEnd
  /-- An opening square bracket. -/
  | openSequence
  /-- A closing square bracket. -/
  | closeSequence
  /-- An opening curly bracket. -/
  | openMapping
  /-- A closing curly bracket. -/
  | closeMapping
  /-- The mark in front of an item in block style. -/
  | item
  /-- The mark between entries in flow style. -/
  | comma
  /-- The mark, written or not, in front of a key. -/
  | key
  /-- The mark in front of a value. -/
  | value
  /-- A node met before, by its name. -/
  | alias (name : String)
  /-- A name for the node behind it. -/
  | anchor (name : String)
  /-- The tag of the node behind it, with a handle unless it is written out. -/
  | tag (handle : Option String) (suffix : String)
  /-- A scalar, with whether it is written plain. -/
  | scalar (text : Text.Codes) (plain : Bool)
  /-- A place from which no more tokens can be read. -/
  | failed (trouble : Trouble)
  deriving DecidableEq, Repr

/-- Whether a character is a blank or a line end. -/
def isGap (c : Char) : Bool := c == ' ' || isBreak c

/-! ## Names and tags -/

/-- Whether a character may stand right behind the name of a node. -/
def endsName (c : Char) : Bool :=
  isSpace c || "?:,]\x7d%@".toList.contains c || c == Char.ofNat 0x60

/-- The name of a node; the cursor is at the sign in front of it. -/
def nodeName (cursor : Cursor) : Outcome (String × Cursor) :=
  let (name, cursor) := cursor.step.takeWhile isNamePart
  if name.isEmpty || !cursor.endsAt 0 endsName then malformed else .ok (String.ofList name, cursor)

/-- Whether a character stands for itself in a tag. -/
def isTagChar (c : Char) : Bool := c.isAlphanum || "-;/?:@&=+$,_.!~*'()[]".toList.contains c

/-- The bytes that are written as percent signs and hexadecimal digits at the front of a text. -/
def percentBytes : List Char → Outcome (List UInt8)
  | '%' :: high :: low :: rest => do
    match hexNumber? 2 0 [high, low] with
    | none => malformed
    | some code => return UInt8.ofNat code :: (← percentBytes rest)
  | '%' :: _ => malformed
  | _ => .ok []

/-- The parts of a tag behind its handle. -/
def tagParts : Nat → Cursor → Outcome (List Char × Cursor)
  | 0, _ => malformed
  | rounds + 1, cursor => do
    let (found, cursor) := cursor.takeWhile isTagChar
    if cursor.isAt '%' then
      let bytes ← percentBytes cursor.rest
      match Text.ofUtf8? bytes with
      | none => malformed
      | some text =>
        let (more, cursor) ← tagParts rounds (cursor.skip (3 * bytes.length))
        return (found ++ text.toList ++ more, cursor)
    else return (found, cursor)

/-- The text of a tag behind its handle; it is not empty. -/
def tagSuffix (cursor : Cursor) : Outcome (String × Cursor) := do
  let (found, behind) ← tagParts (cursor.rest.length + 1) cursor
  if behind.index = cursor.index then malformed else return (String.ofList found, behind)

/-- The handle of a tag: an exclamation mark, or a name between two of them. -/
def tagHandle (cursor : Cursor) : Outcome (String × Cursor) :=
  if !cursor.isAt '!' then malformed
  else if cursor.peekAt? 1 == some ' ' then .ok ("!", cursor.step)
  else
    let (name, cursor) := cursor.step.takeWhile isNamePart
    if cursor.isAt '!' then .ok (String.ofList ('!' :: name ++ ['!']), cursor.step) else malformed

/-- A tag; the cursor is at its exclamation mark. -/
def readTag (cursor : Cursor) : Outcome (Token × Cursor) := do
  let (handle, suffix, cursor) ←
    if cursor.peekAt? 1 == some '<' then do
      let (suffix, cursor) ← tagSuffix (cursor.skip 2)
      if cursor.isAt '>' then pure (none, suffix, cursor.step) else malformed
    else if cursor.endsAt 1 isSpace then pure (none, "!", cursor.step)
    else do
      let word := cursor.step.rest.takeWhile fun c => !isGap c
      let (handle, cursor) ← if word.contains '!' then tagHandle cursor else pure ("!", cursor.step)
      let (suffix, cursor) ← tagSuffix cursor
      pure (some handle, suffix, cursor)
  if cursor.endsAt 0 isGap then return (.tag handle suffix, cursor) else malformed

/-! ## Directives -/

/-- A number of a version. -/
def versionNumber (cursor : Cursor) : Outcome (Nat × Cursor) :=
  let (digits, cursor) := cursor.takeWhile Char.isDigit
  if digits.isEmpty then malformed
  else if Number.longestRead < digits.length then .error (.tooManyDigits digits.length)
  else .ok (Number.ofDigits digits, cursor)

/-- A version. -/
def version (cursor : Cursor) : Outcome (Directive × Cursor) := do
  let (major, cursor) ← versionNumber cursor.skipBlanks
  if !cursor.isAt '.' then malformed
  else
    let (_, cursor) ← versionNumber cursor.step
    if cursor.endsAt 0 isGap then return (.version major, cursor) else malformed

/-- A handle and what it stands for. -/
def handleMeaning (cursor : Cursor) : Outcome (Directive × Cursor) := do
  let (name, cursor) ← tagHandle cursor.skipBlanks
  if !cursor.isAt ' ' then malformed
  else
    let (stem, cursor) ← tagSuffix cursor.skipBlanks
    if cursor.endsAt 0 isGap then return (.handle name stem, cursor) else malformed

/-- A directive; the cursor is at its percent sign. -/
def readDirective (cursor : Cursor) : Outcome (Token × Cursor) := do
  let (name, cursor) := cursor.step.takeWhile isNamePart
  if name.isEmpty || !cursor.endsAt 0 isGap then malformed
  else
    let (directive, cursor) ←
      if name = "YAML".toList then version cursor
      else if name = "TAG".toList then handleMeaning cursor
      else pure (.other, (cursor.takeWhile fun c => !isBreak c).2)
    return (.directive directive, ← cursor.finishLine)

end LiveConsole.Yaml
