/-!
# Reading UTF-8

Bytes are read as UTF-8 in two ways. The strict reading refuses bytes that are not UTF-8. The lenient
reading never fails: every maximal run of bytes that starts a character but does not finish it, and
every byte that cannot start one, becomes one replacement character.
-/
namespace LiveConsole.Text

/-- The bytes of a text in UTF-8. -/
def utf8Bytes (text : String) : List UInt8 := text.toUTF8.toList

/-- The text that the bytes spell in UTF-8, if they spell one. -/
def ofUtf8? (bytes : List UInt8) : Option String := String.fromUTF8? ⟨bytes.toArray⟩

/-- A character begun: the bytes read, how many are missing, the range of the next one, and the bits. -/
structure Begun where
  /-- The bytes read so far, the last one first. -/
  bytes : List UInt8
  /-- Number of continuation bytes still to come. -/
  missing : Nat
  /-- Least value of the next byte. -/
  low : UInt8
  /-- Greatest value of the next byte. -/
  high : UInt8
  /-- The bits read so far. -/
  bits : Nat

/-- What a first byte starts: a finished character, a character with bytes to come, or none. -/
inductive Opening where
  /-- A character. -/
  | finished (c : Char)
  /-- The start of a character. -/
  | begun (begun : Begun)
  /-- Nothing. -/
  | misfit

/-- What a first byte starts. -/
def beginCharacter (byte : UInt8) : Opening :=
  let value := byte.toNat
  if value < 0x80 then .finished (Char.ofNat value)
  else if 0xC2 ≤ value && value ≤ 0xDF then .begun ⟨[byte], 1, 0x80, 0xBF, value - 0xC0⟩
  else if value == 0xE0 then .begun ⟨[byte], 2, 0xA0, 0xBF, 0⟩
  else if value == 0xED then .begun ⟨[byte], 2, 0x80, 0x9F, 13⟩
  else if 0xE1 ≤ value && value ≤ 0xEF then .begun ⟨[byte], 2, 0x80, 0xBF, value - 0xE0⟩
  else if value == 0xF0 then .begun ⟨[byte], 3, 0x90, 0xBF, 0⟩
  else if 0xF1 ≤ value && value ≤ 0xF3 then .begun ⟨[byte], 3, 0x80, 0xBF, value - 0xF0⟩
  else if value == 0xF4 then .begun ⟨[byte], 3, 0x80, 0x8F, 4⟩
  else .misfit

/-- Read on after the character begun, if one is; `spell` stands in for bytes that spell no character. -/
def readWith (spell : List UInt8 → List Char) : Option Begun → List UInt8 → List Char
  | none, [] => []
  | some begun, [] => spell begun.bytes.reverse
  | none, byte :: rest =>
    match beginCharacter byte with
    | .finished c => c :: readWith spell none rest
    | .begun begun => readWith spell (some begun) rest
    | .misfit => spell [byte] ++ readWith spell none rest
  | some begun, byte :: rest =>
    if begun.low ≤ byte && byte ≤ begun.high then
      let bits := begun.bits * 64 + (byte.toNat - 0x80)
      if begun.missing ≤ 1 then Char.ofNat bits :: readWith spell none rest
      else readWith spell (some ⟨byte :: begun.bytes, begun.missing - 1, 0x80, 0xBF, bits⟩) rest
    else
      spell begun.bytes.reverse ++
        match beginCharacter byte with
        | .finished c => c :: readWith spell none rest
        | .begun next => readWith spell (some next) rest
        | .misfit => spell [byte] ++ readWith spell none rest

/-- Go on reading a part of some bytes, strictly: the characters, put behind those `done`, the last one
first, and the one begun at the end; nothing where bytes spell no character. -/
def readPart (done : List Char) : Option Begun → List UInt8 → Option (List Char × Option Begun)
  | begun, [] => some (done, begun)
  | none, byte :: rest =>
    match beginCharacter byte with
    | .finished c => readPart (c :: done) none rest
    | .begun begun => readPart done (some begun) rest
    | .misfit => none
  | some begun, byte :: rest =>
    if begun.low ≤ byte && byte ≤ begun.high then
      let bits := begun.bits * 64 + (byte.toNat - 0x80)
      if begun.missing ≤ 1 then readPart (Char.ofNat bits :: done) none rest
      else readPart done (some ⟨byte :: begun.bytes, begun.missing - 1, 0x80, 0xBF, bits⟩) rest
    else none

/-- The character that stands for bytes that spell none. -/
def replacement : Char := Char.ofNat 0xFFFD

/-- The text that bytes spell in UTF-8, with replacement characters where they spell none. -/
def ofUtf8Lenient (bytes : List UInt8) : String :=
  String.ofList (readWith (fun _ => [replacement]) none bytes)

/-- Write every line end, whether carriage return, line feed or both, as one line feed. -/
def unifyLineEnds : List Char → List Char
  | '\r' :: '\n' :: rest => '\n' :: unifyLineEnds rest
  | '\r' :: rest => '\n' :: unifyLineEnds rest
  | c :: rest => c :: unifyLineEnds rest
  | [] => []

end LiveConsole.Text
