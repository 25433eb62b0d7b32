import LiveConsole.Text.Utf8
import LiveConsole.Yaml.Cursor

/-!
# How a text is supplied

The bytes of a file are read and looked at in portions, and no further than is needed: two portions at the
start, and another one each time the reader has come to the end of what it has. So a trouble of the bytes
counts only for a reader that comes so far. Bytes are taken in somewhat larger pieces than characters are
handed out, and a line end may be split between two pieces.
-/
namespace LiveConsole.Yaml

/-- A text as far as it can be read, and the trouble behind it, if there is one. -/
structure Supply where
  /-- The characters in front of the trouble, or all of them. -/
  text : List Char
  /-- The trouble of the portion behind them. -/
  trouble : Option Trouble

/-- The trouble of bytes that spell no text. -/
def misspelt : Trouble := .unbuildable (.raised "UnicodeDecodeError" "")

/-- What characters are taken from. -/
structure Source where
  /-- The bytes not yet taken. -/
  bytes : List UInt8
  /-- A character that is begun. -/
  begun : Option Text.Begun
  /-- Whether a carriage return waits for what comes behind it. -/
  waiting : Bool
  /-- The characters not yet handed out. -/
  ready : List Char
  /-- The number of bytes in the last piece, and that of the characters that it gave. -/
  last : Nat × Nat

namespace Source

/-- The least number of bytes that are taken at a time. -/
def pieceSize : Nat := 8192

/-- The number of characters in a portion. -/
def portionSize : Nat := 4096

/-- The number of bytes to take where so many characters are wanted. -/
def pieceFor (wanted : Nat) (source : Source) : Nat :=
  let (bytes, chars) := source.last
  if bytes ≤ chars || chars = 0 then max pieceSize wanted else max pieceSize (wanted * bytes / chars)

/-- Hold back a carriage return at the end of characters, given with the last one first. -/
def holdBack : List Char → List Char × Bool
  | '\r' :: rest => (rest, true)
  | chars => (chars, false)

/-- Take another piece of bytes; nothing is given at the end. -/
def more (wanted : Nat) (source : Source) : Outcome (Option Source) :=
  let size := source.pieceFor wanted
  let piece := source.bytes.take size
  let front := if source.waiting then ['\r'] else []
  if piece.isEmpty then
    if source.begun.isSome then .error misspelt
    else if source.waiting then .ok (some { source with waiting := false, ready := ['\n'] })
    else .ok none
  else
    match Text.readPart front source.begun piece with
    | none => .error misspelt
    | some (reversed, begun) =>
      let (reversed, waiting) := if reversed = front then ([], source.waiting) else holdBack reversed
      let ready := Text.unifyLineEnds reversed.reverse
      .ok (some ⟨source.bytes.drop size, begun, waiting, ready, (piece.length, ready.length)⟩)

/-- Hand out so many characters behind others, or all that are left; a number bounds the pieces taken. -/
def portionGo : Nat → Nat → List Char → Source → Outcome (List Char × Source)
  | 0, _, done, source => .ok (done, source)
  | pieces + 1, wanted, done, source => do
    let done := done ++ source.ready.take wanted
    let left := wanted - source.ready.length
    let source := { source with ready := source.ready.drop wanted }
    if left = 0 then return (done, source)
    match ← source.more left with
    | none => return (done, source)
    | some source => portionGo pieces left done source

/-- Hand out a portion. -/
def portion (source : Source) : Outcome (List Char × Source) :=
  portionGo (source.bytes.length + 3) portionSize [] source

/-- Check that all characters may occur. -/
def check (chars : List Char) : Outcome Unit := if chars.all isAllowed then .ok () else malformed

/-- The two portions at the start, or three if the first one is a single character. -/
def opening (source : Source) : Outcome (List Char × Source) := do
  let (first, source) ← source.portion
  let (first, source) ←
    if first.length = 1 then do
      let (second, source) ← source.portion
      pure (first ++ second, source)
    else pure (first, source)
  let (last, source) ← source.portion
  check (first ++ last)
  return (first ++ last, source)

/-- A portion behind the start. -/
def following (source : Source) : Outcome (List Char × Source) := do
  let (chars, source) ← source.portion
  check chars
  return (chars, source)

/-- The portions behind a text, up to one with a trouble; a number bounds the portions. -/
def supplyGo : Nat → List Char → Source → Supply
  | 0, text, _ => ⟨text, none⟩
  | portions + 1, text, source =>
    match source.following with
    | .error trouble => ⟨text, some trouble⟩
    | .ok ([], _) => ⟨text, none⟩
    | .ok (chars, source) => supplyGo portions (text ++ chars) source

end Source

/-- How the bytes of a file are supplied. -/
def Supply.ofBytes (bytes : List UInt8) : Supply :=
  match Source.opening ⟨bytes, none, false, [], (0, 0)⟩ with
  | .error trouble => ⟨[], some trouble⟩
  | .ok (text, source) => source.supplyGo (bytes.length + 1) text

end LiveConsole.Yaml
