import LiveConsole.Shell.Bytes

/-!
# Lines of an input

A line ends at a line feed. In surroundings where characters take several bytes, a byte that starts a
character reads the bytes that it asks for, as long as they go on with the character; a line feed among
them ends no line. A null byte is skipped, but one that was read in the midst of a character cuts the
line.
-/
namespace LiveConsole.Shell

/-- How many bytes are read behind the first byte of a character before it is looked at again. -/
def bytesBehind (byte : UInt8) : Nat :=
  if byte < 0xC2 then 0
  else if byte < 0xE0 then 1
  else if byte < 0xF0 then 2
  else if byte < 0xF8 then 3
  else if byte < 0xFC then 4
  else if byte < 0xFE then 5
  else 0

/-- How many bytes a character still takes behind a byte of it; one that cannot go on with it ends it. -/
def stillBehind (byte : UInt8) (pending : Nat) : Nat :=
  if 0x80 ≤ byte && byte < 0xC0 then pending else 0

/-- A line as it was read. -/
structure InputLine where
  /-- Whether a line feed ended it. -/
  ended : Bool
  /-- Its bytes. -/
  bytes : Bytes
  /-- What follows it. -/
  rest : Bytes
  deriving DecidableEq, Repr

namespace InputLine

/-- The line with a byte in front. -/
def behind (byte : UInt8) (line : InputLine) : InputLine := { line with bytes := byte :: line.bytes }

/-- Take a line; the first argument tells how many bytes may go on with a character, given its first
byte, and the second how many may still do so here. -/
def take (wanted : UInt8 → Nat) : Nat → Bytes → InputLine
  | _, [] => ⟨false, [], []⟩
  | 0, byte :: rest =>
    if byte = 0x0A then ⟨true, [], rest⟩
    else if byte = 0 then take wanted 0 rest
    else (take wanted (wanted byte) rest).behind byte
  | pending + 1, byte :: rest => (take wanted (stillBehind byte pending) rest).behind byte

/-- Take a line in which backslashes shield the byte behind them; a shielded line feed is dropped. -/
def takeShielded (wanted : UInt8 → Nat) : Nat → Bytes → InputLine
  | _, [] => ⟨false, [], []⟩
  | 0, 0x5C :: byte :: rest =>
    let line := takeShielded wanted (wanted byte) rest
    if byte = 0x0A then line else line.behind byte
  | 0, byte :: rest =>
    if byte = 0x0A then ⟨true, [], rest⟩
    else if byte = 0 ∨ byte = 0x5C then takeShielded wanted 0 rest
    else (takeShielded wanted (wanted byte) rest).behind byte
  | pending + 1, byte :: rest => (takeShielded wanted (stillBehind byte pending) rest).behind byte

/-- The text of the line: what stands before a null byte. -/
def text (line : InputLine) : Bytes := line.bytes.takeWhile (· ≠ 0)

end InputLine

end LiveConsole.Shell
