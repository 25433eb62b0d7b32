import LiveConsole.Shell.System

/-!
# Formats

A format is a text with places for arguments and escapes for bytes. It is filled again and again until
the arguments are used up.
-/
namespace LiveConsole.Shell

/-- The value of a digit of a base up to sixteen. -/
def digitValue (base : Nat) (byte : UInt8) : Option Nat :=
  let code := byte.toNat
  let digit :=
    if 0x30 ≤ code ∧ code ≤ 0x39 then code - 0x30
    else if 0x61 ≤ code ∧ code ≤ 0x66 then code - 0x61 + 10
    else if 0x41 ≤ code ∧ code ≤ 0x46 then code - 0x41 + 10
    else 16
  if digit < base then some digit else none

/-- A number at the front of bytes, of at most so many digits: its value and how many it has. -/
def takeNumber (base : Nat) : Nat → Nat → Nat → Bytes → Nat × Nat
  | 0, value, count, _ => (value, count)
  | _, value, count, [] => (value, count)
  | room + 1, value, count, byte :: rest =>
    match digitValue base byte with
    | some digit => takeNumber base room (value * base + digit) (count + 1) rest
    | none => (value, count)

/-- The byte that a letter behind a backslash stands for. -/
def escapeLetter (letter : UInt8) : Option UInt8 :=
  [(0x6E, 0x0A), (0x74, 0x09), (0x72, 0x0D), (0x61, 0x07), (0x62, 0x08), (0x66, 0x0C), (0x76, 0x0B),
    (0x65, 0x1B), (0x5C, 0x5C), (0x22, 0x22), (0x27, 0x27)].lookup letter

/-- One escape at the front of bytes, behind the backslash: what it stands for and its length. -/
def escape (bytes : Bytes) : Bytes × Nat :=
  match bytes with
  | [] => ([0x5C], 0)
  | 0x78 :: rest =>
    let (value, count) := takeNumber 16 2 0 0 rest
    if count = 0 then ([0x5C, 0x78], 1) else ([UInt8.ofNat value], count + 1)
  | letter :: _ =>
    match escapeLetter letter with
    | some byte => ([byte], 1)
    | none =>
      let (value, count) := takeNumber 8 3 0 0 bytes
      if count = 0 then ([0x5C], 0) else ([UInt8.ofNat (value % 256)], count)

/-- Replace the escapes of a text; the first argument counts bytes that belong to an escape. -/
def replaceEscapes : Nat → Bytes → Bytes
  | _, [] => []
  | skip + 1, _ :: rest => replaceEscapes skip rest
  | 0, byte :: rest =>
    if byte = 0x5C then
      let (found, length) := escape rest
      found ++ replaceEscapes length rest
    else byte :: replaceEscapes 0 rest

/-- Fill a format once: what is written, the arguments left, and whether an argument was taken. -/
def fillOnce : Nat → Bytes → List Bytes → Bytes × List Bytes × Bool
  | _, [], arguments => ([], arguments, false)
  | skip + 1, _ :: rest, arguments => fillOnce skip rest arguments
  | 0, 0x25 :: 0x25 :: rest, arguments =>
    let (written, arguments, took) := fillOnce 1 (0x25 :: rest) arguments
    (0x25 :: written, arguments, took)
  | 0, 0x25 :: letter :: rest, arguments =>
    let argument := arguments.headD []
    let shown :=
      if letter = 0x64 then encode (toString (((textOf argument).toInt?).getD 0)).toList
      else if letter = 0x62 then replaceEscapes 0 argument
      else argument
    let (written, left, _) := fillOnce 1 (letter :: rest) arguments.tail
    (shown ++ written, left, true)
  | 0, byte :: rest, arguments =>
    if byte = 0x5C then
      let (found, length) := escape rest
      let (written, arguments, took) := fillOnce length rest arguments
      (found ++ written, arguments, took)
    else
      let (written, arguments, took) := fillOnce 0 rest arguments
      (byte :: written, arguments, took)

/-- Fill a format again and again until the arguments are used up, at most so many times. -/
def fill (format : Bytes) : Nat → List Bytes → Bytes
  | 0, _ => []
  | times + 1, arguments =>
    let (written, rest, took) := fillOnce 0 format arguments
    if rest.isEmpty || !took then written else written ++ fill format times rest

/-- The text that a format and arguments give. -/
def formatted (words : List Bytes) : Bytes :=
  match words with
  | [] => []
  | format :: arguments => fill format (arguments.length + 1) arguments

end LiveConsole.Shell
