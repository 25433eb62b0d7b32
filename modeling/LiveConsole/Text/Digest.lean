import LiveConsole.Text.Utf8
import LiveConsole.Text.Quoted

/-!
# Message digests

The MD5 digest of a text: sixteen bytes, shown as 32 hexadecimal digits. The bytes of the text are
padded to a multiple of 64 with their count in bits at the end; every block of 64 bytes changes the
four words of the state in 64 rounds.
-/
namespace LiveConsole.Text.Digest

/-- The four words of the state. -/
structure State where
  /-- The first word. -/
  a : UInt32
  /-- The second word. -/
  b : UInt32
  /-- The third word. -/
  c : UInt32
  /-- The fourth word. -/
  d : UInt32

/-- The state before the first block. -/
def start : State := ⟨0x67452301, 0xefcdab89, 0x98badcfe, 0x10325476⟩

/-- The constant added in each round: the integer part of `2 ^ 32 * |sin (round + 1)|`. -/
def sines : Array UInt32 :=
  #[
    0xd76aa478, 0xe8c7b756, 0x242070db, 0xc1bdceee, 0xf57c0faf, 0x4787c62a,
    0xa8304613, 0xfd469501, 0x698098d8, 0x8b44f7af, 0xffff5bb1, 0x895cd7be,
    0x6b901122, 0xfd987193, 0xa679438e, 0x49b40821, 0xf61e2562, 0xc040b340,
    0x265e5a51, 0xe9b6c7aa, 0xd62f105d, 0x02441453, 0xd8a1e681, 0xe7d3fbc8,
    0x21e1cde6, 0xc33707d6, 0xf4d50d87, 0x455a14ed, 0xa9e3e905, 0xfcefa3f8,
    0x676f02d9, 0x8d2a4c8a, 0xfffa3942, 0x8771f681, 0x6d9d6122, 0xfde5380c,
    0xa4beea44, 0x4bdecfa9, 0xf6bb4b60, 0xbebfbc70, 0x289b7ec6, 0xeaa127fa,
    0xd4ef3085, 0x04881d05, 0xd9d4d039, 0xe6db99e5, 0x1fa27cf8, 0xc4ac5665,
    0xf4292244, 0x432aff97, 0xab9423a7, 0xfc93a039, 0x655b59c3, 0x8f0ccc92,
    0xffeff47d, 0x85845dd1, 0x6fa87e4f, 0xfe2ce6e0, 0xa3014314, 0x4e0811a1,
    0xf7537e82, 0xbd3af235, 0x2ad7d2bb, 0xeb86d391]

/-- How far each round turns its sum, by the four quarters and the place in the quarter modulo four. -/
def turns : Array UInt32 := #[7, 12, 17, 22, 5, 9, 14, 20, 4, 11, 16, 23, 6, 10, 15, 21]

/-- A number in little endian bytes. -/
def littleEndian (value : Nat) : Nat → List UInt8
  | 0 => []
  | count + 1 => UInt8.ofNat (value % 256) :: littleEndian (value / 256) count

/-- Bytes with a mark, zeros, and their count in bits, to fill blocks of 64. -/
def padded (bytes : List UInt8) : List UInt8 :=
  let zeros := (119 - bytes.length % 64) % 64
  bytes ++ 0x80 :: List.replicate zeros 0 ++ littleEndian (8 * bytes.length % 0x10000000000000000) 8

/-- The little endian words that bytes form, four by four. -/
def wordsOf : List UInt8 → List UInt32
  | a :: b :: c :: d :: rest =>
    (a.toUInt32 ||| (b.toUInt32 <<< 8) ||| (c.toUInt32 <<< 16) ||| (d.toUInt32 <<< 24)) :: wordsOf rest
  | _ => []

/-- Turn a word to the left. -/
def turnLeft (word amount : UInt32) : UInt32 := (word <<< amount) ||| (word >>> (32 - amount))

/-- One round: mix three words, add a word of the block, turn, and move every word on. -/
def round (block : Array UInt32) (state : State) (index : Nat) : State :=
  let (mixed, place) :=
    if index < 16 then ((state.b &&& state.c) ||| (~~~state.b &&& state.d), index)
    else if index < 32 then ((state.d &&& state.b) ||| (~~~state.d &&& state.c), (5 * index + 1) % 16)
    else if index < 48 then (state.b ^^^ state.c ^^^ state.d, (3 * index + 5) % 16)
    else (state.c ^^^ (state.b ||| ~~~state.d), 7 * index % 16)
  let sum := state.a + mixed + sines.getD index 0 + block.getD place 0
  ⟨state.d, state.b + turnLeft sum (turns.getD (index / 16 * 4 + index % 4) 0), state.b, state.c⟩

/-- Take one block of sixteen words into the state. -/
def step (state : State) (block : Array UInt32) : State :=
  let mixed := (List.range 64).foldl (round block) state
  ⟨state.a + mixed.a, state.b + mixed.b, state.c + mixed.c, state.d + mixed.d⟩

/-- Cut words into blocks of sixteen, at most so many. -/
def blocks : Nat → List UInt32 → List (Array UInt32)
  | 0, _ => []
  | _, [] => []
  | count + 1, words => (words.take 16).toArray :: blocks count (words.drop 16)

/-- The digest of bytes. -/
def ofBytes (bytes : List UInt8) : List UInt8 :=
  let words := wordsOf (padded bytes)
  let state := (blocks words.length words).foldl step start
  [state.a, state.b, state.c, state.d].flatMap fun word => littleEndian word.toNat 4

/-- The digest of a text as 32 hexadecimal digits. -/
def ofText (text : String) : String :=
  String.ofList ((ofBytes (utf8Bytes text)).flatMap fun byte => hexDigits 2 byte.toNat)

end LiveConsole.Text.Digest
