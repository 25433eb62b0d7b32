import LiveConsole.Number.Arithmetic
import LiveConsole.Number.Places
import LiveConsole.Value.Compare
import LiveConsole.Value.Raised

/-!
# Texts with places for values

In a format, a percent sign opens a place for a value: an optional key between parentheses, flags, a
width, a precision and a letter that says how the value is written. The values are the items of a fixed
sequence in order, or a single value; a place with a key takes the value under that key. All values have
to be used, unless there are keys to choose from. A format is a text or a byte string, of which each byte
is taken as the character with its code.
-/
namespace LiveConsole.Formatted

open Number (Binary64)

/-- What a format is made of. -/
inductive Medium where
  /-- Characters. -/
  | text
  /-- Bytes. -/
  | bytes
  deriving DecidableEq, Repr

namespace Medium

/-- What a format is called in messages. -/
def name : Medium → String
  | text => "string"
  | bytes => "bytes"

/-- The type of its keys. -/
def keyType : Medium → String
  | text => "str"
  | bytes => "bytes"

/-- The characters of bytes. -/
def ofBytes (data : List UInt8) : List Char := data.map fun byte => Char.ofNat byte.toNat

/-- The bytes of characters that stand for bytes. -/
def toBytes (chars : List Char) : List UInt8 := chars.map fun c => UInt8.ofNat c.toNat

/-- A key as a value. -/
def key (medium : Medium) (chars : List Char) : Value :=
  match medium with
  | text => .ofText (String.ofList chars)
  | bytes => .bytes (toBytes chars) ⟨"bytes"⟩ 0

end Medium

/-- A place for a value. -/
structure Place where
  /-- Whether what is written stands at the left of its width. -/
  toLeft : Bool
  /-- Whether a plus sign stands in front of a number that is not negative. -/
  plus : Bool
  /-- Whether a blank stands in front of a number that is not negative. -/
  blank : Bool
  /-- Whether a number tells its base, or keeps its point. -/
  alternate : Bool
  /-- Whether a number is filled with zeros. -/
  zeros : Bool
  /-- The least number of characters. -/
  width : Option Nat
  /-- The number of digits, or the greatest number of characters. -/
  precision : Option Nat

namespace Place

/-- A place with nothing but a letter. -/
def plain : Place := ⟨false, false, false, false, false, none, none⟩

/-- A place with one more flag, if a character is a flag. -/
def flag? (place : Place) (c : Char) : Option Place :=
  if c == '-' then some { place with toLeft := true }
  else if c == '+' then some { place with plus := true }
  else if c == ' ' then some { place with blank := true }
  else if c == '#' then some { place with alternate := true }
  else if c == '0' then some { place with zeros := true }
  else none

end Place

/-- A piece of a format with its places filled. -/
structure Piece where
  /-- The characters. -/
  chars : List Char
  /-- The text that the piece is, when it is one as it was given. -/
  source : Option Value

namespace Piece

/-- A character that stands for itself. -/
def literal (c : Char) : Piece := ⟨[c], none⟩

/-- The characters of pieces. -/
def join (pieces : List Piece) : List Char := pieces.flatMap Piece.chars

/-- The text that pieces are together, when all but the last one are empty and that is one as it was
given. -/
def source? : List Piece → Option Value
  | [] => none
  | [piece] => piece.source
  | piece :: rest => if piece.chars.isEmpty then source? rest else none

end Piece

/-- The values that places have not taken yet, and what keys are looked up in. -/
structure Supply where
  /-- The values left for places without a key. -/
  rest : List Value
  /-- What places with a key choose from. -/
  keyed : Option Value

/-- The fault of a value that a format cannot take. -/
def formatFault (message : String) : Fault := .raised "ValueError" message

/-- The fault of a format that ends inside of a place. -/
def incomplete : Fault := formatFault "incomplete format"

/-- The fault of a value for which there is no place. -/
def unused (medium : Medium) : Fault :=
  .ofType s!"not all arguments converted during {medium.name} formatting"

/-- The fault of a place for which there is no value. -/
def missing : Fault := .ofType "not enough arguments for format string"

/-- The next value, and the values left behind it. -/
def Supply.next (supply : Supply) : Except Fault (Value × Supply) :=
  match supply.rest with
  | [] => .error missing
  | value :: rest => .ok (value, { supply with rest })

section Fill

variable (heap : Heap) (medium : Medium)

/-- The values that are given to a format; a byte string has no keys for another one. -/
def Supply.ofValue (value : Value) : Supply :=
  match value with
  | .bytes .. => ⟨[value], if medium = .text then some value else none⟩
  | .range .. => ⟨[value], some value⟩
  | .ref identity =>
    match heap.get? identity with
    | some (.tuple items _) => ⟨items, none⟩
    | some (.list ..) | some (.dict ..) => ⟨[value], some value⟩
    | some (.buffer ..) => ⟨[value], if medium = .text then some value else none⟩
    | _ => ⟨[value], none⟩
  | value => ⟨[value], none⟩

/-- The value under a key. -/
def lookUp (keyed : Option Value) (key : List Char) : Except Fault Value :=
  let unfit := fun kind : String =>
    .error (.ofType s!"{kind} indices must be integers or slices, not {medium.keyType}")
  match keyed with
  | none => .error (.ofType "format requires a mapping")
  | some (.bytes ..) => unfit "byte"
  | some (.ref identity) =>
    match heap.get? identity with
    | some (.dict items _) =>
      match items.find? fun item => Value.isSameKey heap item.1 (medium.key key) with
      | some item => .ok item.2
      | none => .error (.raised "KeyError" ((medium.key key).written heap))
    | some (.buffer ..) => unfit "bytearray"
    | _ => unfit "list"
  | some _ => unfit "range"

/-- Read a key up to the parenthesis that closes it, behind the one that opens it. -/
def takeKey : Nat → List Char → Option (List Char × List Char)
  | _, [] => none
  | nesting, c :: rest =>
    if c == ')' then
      match nesting with
      | 0 => some ([], rest)
      | nesting + 1 => (takeKey nesting rest).map fun (key, rest) => (c :: key, rest)
    else
      let nesting := if c == '(' then nesting + 1 else nesting
      (takeKey nesting rest).map fun (key, rest) => (c :: key, rest)

/-- Read flags. -/
def takeFlags (place : Place) : List Char → Place × List Char
  | [] => (place, [])
  | c :: rest =>
    match place.flag? c with
    | some place => takeFlags place rest
    | none => (place, c :: rest)

/-- A width that is given as a value; a negative one means the left. -/
def widthOf (place : Place) (value : Value) : Except Fault Place :=
  match value.integer? with
  | none => .error (.ofType "* wants int")
  | some width =>
    if !Limit.isCount width then .error Limit.uncountable
    else if width < 0 then .ok { place with width := some width.natAbs, toLeft := true }
    else .ok { place with width := some width.toNat }

/-- The greatest precision. -/
def greatestPrecision : Nat := 0x7FFFFFFF

/-- A precision that is given as a value; a negative one means zero. -/
def precisionOf (place : Place) (value : Value) : Except Fault Place :=
  match value.integer? with
  | none => .error (.ofType "* wants int")
  | some precision =>
    if (greatestPrecision : Int) < precision || precision < -(greatestPrecision : Int) - 1 then
      .error (.raised "OverflowError" "Python int too large to convert to C int")
    else .ok { place with precision := some precision.toNat }

/-- Read a width. -/
def takeWidth (place : Place) (supply : Supply) (chars : List Char) :
    Except Fault (Place × Supply × List Char) :=
  match chars with
  | '*' :: rest => do
    let (value, supply) ← supply.next
    return (← widthOf place value, supply, rest)
  | chars =>
    let digits := chars.takeWhile Char.isDigit
    if digits.isEmpty then .ok (place, supply, chars)
    else
      let width := Number.ofDigits digits
      if Limit.count < width then .error (formatFault "width too big")
      else .ok ({ place with width := some width }, supply, chars.dropWhile Char.isDigit)

/-- Read a precision behind a point. -/
def takePrecision (place : Place) (supply : Supply) (chars : List Char) :
    Except Fault (Place × Supply × List Char) :=
  match chars with
  | '.' :: '*' :: rest => do
    let (value, supply) ← supply.next
    return (← precisionOf place value, supply, rest)
  | '.' :: rest =>
    let precision := Number.ofDigits (rest.takeWhile Char.isDigit)
    if greatestPrecision < precision then
      .error (formatFault (if medium = .text then "precision too big" else "prec too big"))
    else .ok ({ place with precision := some precision }, supply, rest.dropWhile Char.isDigit)
  | chars => .ok (place, supply, chars)

/-- Leave out a mark of the size of a number. -/
def skipSize : List Char → List Char
  | c :: rest => if c == 'h' || c == 'l' || c == 'L' then rest else c :: rest
  | [] => []

/-- A character beyond ASCII by its code. -/
def asciiForm (c : Char) : List Char :=
  let code := c.toNat
  if code < 0x80 then [c]
  else if code < 0x100 then '\\' :: 'x' :: Text.hexDigits 2 code
  else if code < 0x10000 then '\\' :: 'u' :: Text.hexDigits 4 code
  else '\\' :: 'U' :: Text.hexDigits 8 code

/-- What fills a place: the text, and whether it is a number, which has a sign. -/
structure Filling where
  /-- The text. -/
  text : List Char
  /-- Whether it may have a sign in front. -/
  isNumber : Bool

/-- The integer that a value is written as, in decimal if `decimal`. -/
def integerOf (letter : Char) (decimal : Bool) (value : Value) : Except Fault Int :=
  let kind := value.typeName heap
  let letter := if medium = .bytes && letter == 'i' then 'd' else letter
  match value with
  | .bool value => .ok (if value then 1 else 0)
  | .int value _ _ => .ok value
  | .float number _ _ =>
    if decimal then
      match number with
      | .undefined => .error (formatFault "cannot convert float NaN to integer")
      | .infinite _ => .error (.raised "OverflowError" "cannot convert float infinity to integer")
      | number => .ok ((number.fraction?.map fun (top, bottom) => top.tdiv bottom).getD 0)
    else .error (.ofType s!"%{letter} format: an integer is required, not {kind}")
  | _ =>
    if decimal then .error (.ofType s!"%{letter} format: a real number is required, not {kind}")
    else .error (.ofType s!"%{letter} format: an integer is required, not {kind}")

/-- An integer in a base, with as many digits as the precision asks for. -/
def writeInteger (place : Place) (base : Nat) (mark : List Char) (value : Int) : List Char :=
  let digits := if base = 10 then (toString value.natAbs).toList else Nat.toDigits base value.natAbs
  let filled := List.replicate (place.precision.getD 0 - digits.length) '0' ++ digits
  (if value < 0 then ['-'] else []) ++ (if place.alternate then mark else []) ++ filled

/-- Letters in upper case. -/
def upper (chars : List Char) : List Char := chars.map Char.toUpper

/-- The floating point number that a value is written as. -/
def floatOf (value : Value) : Except Fault Binary64 :=
  let unfit := Fault.ofType s!"float argument required, not {value.typeName heap}"
  match value with
  | .float number _ _ => .ok number
  | value =>
    match value.integer? with
    | none =>
      .error (if medium = .bytes then unfit
        else .ofType s!"must be real number, not {value.typeName heap}")
    | some integer =>
      match Binary64.ofInt integer with
      | .infinite _ =>
        .error (if medium = .bytes then unfit
          else .raised "OverflowError" "int too large to convert to float")
      | number => .ok number

/-- A floating point number as a letter asks for. -/
def writeFloat (place : Place) (letter : Char) (number : Binary64) : List Char :=
  match number with
  | .undefined => ['n', 'a', 'n']
  | .infinite negative => (if negative then ['-'] else []) ++ ['i', 'n', 'f']
  | .finite negative _ _ =>
    let (top, bottom) := number.fraction?.getD (0, 1)
    let precision := place.precision.getD 6
    let write :=
      if letter == 'e' then Number.Places.scientific precision
      else if letter == 'f' then Number.Places.fixed precision
      else Number.Places.general precision
    (if negative then ['-'] else []) ++ write place.alternate top.natAbs bottom

/-- The byte of a value, as a character. -/
def byteOf (value : Value) : Except Fault (List Char) :=
  let unfit := Except.error (Fault.ofType "%c requires an integer in range(256) or a single byte")
  match value.bytes? heap with
  | some data => if data.length = 1 then .ok (Medium.ofBytes data) else unfit
  | none =>
    match value.integer? with
    | none => unfit
    | some code =>
      if code < 0 || 256 ≤ code then .error (.raised "OverflowError" "%c arg not in range(256)")
      else .ok [Char.ofNat code.toNat]

/-- The bytes of a value that has some, as characters. -/
def bytesOf (value : Value) : Except Fault (List Char) :=
  match value.bytes? heap, value with
  | some data, _ => .ok (Medium.ofBytes data)
  | none, .path text _ => .ok (Medium.ofBytes text.toUTF8.toList)
  | none, value =>
    .error (.ofType ("%b requires a bytes-like object, or an object that implements __bytes__, " ++
      s!"not '{value.typeName heap}'"))

/-- The character of a value. -/
def characterOf (value : Value) : Except Fault (List Char) :=
  let unfit := Except.error (Fault.ofType "%c requires int or char")
  match value with
  | .text text _ _ => if text.length = 1 then .ok text.toList else unfit
  | value =>
    match value.integer? with
    | none => unfit
    | some code =>
      if code < 0 || 0x110000 ≤ code then .error (.raised "OverflowError" "%c arg not in range(0x110000)")
      else .ok [Char.ofNat code.toNat]

/-- Write a value, unless an obstacle is met. -/
def unlessObstacle (value : Value) (write : Value → String) : Except Fault Filling :=
  match value.obstacle? heap with
  | some fault => .error fault
  | none => .ok ⟨(write value).toList, false⟩

/-- The fault of a letter that does not say how a value is written. -/
def unknownLetter (letter : Char) (index : Nat) : Fault :=
  let code := letter.toNat
  if medium = .bytes && 0x80 ≤ code then
    .raised "OverflowError" "character argument not in range(0x110000)"
  else
    let isShown := medium = .bytes || (0x1F ≤ code && code ≤ 0x7E)
    let shown := if isShown then letter else '?'
    let digits := String.ofList (Nat.toDigits 16 code)
    formatFault s!"unsupported format character '{shown}' (0x{digits}) at index {index}"

/-- The greatest precision of an integer. -/
def greatestDigits : Nat := greatestPrecision - 3

/-- What fills a place with a letter. -/
def fillingOf (place : Place) (letter : Char) (index : Nat) (value : Value) : Except Fault Filling :=
  let integer := fun (base : Nat) (mark : List Char) => do
    let integer ← integerOf heap medium letter (base = 10) value
    if place.precision.any (greatestDigits < ·) then
      .error (.raised "OverflowError" "precision too large")
    if base = 10 && Value.isTooLong integer then .error Limit.tooManyDigits
    return Filling.mk (writeInteger place base mark integer) true
  let float := fun (letter : Char) => do return Filling.mk (writeFloat place letter (← floatOf heap medium value)) true
  let raised := fun (filling : Except Fault Filling) =>
    filling.map fun filling => { filling with text := upper filling.text }
  let inAscii := unlessObstacle heap value fun value =>
    String.ofList ((value.written heap).toList.flatMap asciiForm)
  let inBytes := do return Filling.mk (← bytesOf heap value) false
  match letter with
  | 's' =>
    if medium = .bytes then inBytes
    else
      match value with
      | .text text _ _ => .ok ⟨text.toList, false⟩
      | value => unlessObstacle heap value (Value.toText heap)
  | 'b' => if medium = .bytes then inBytes else .error (unknownLetter medium letter index)
  | 'r' => if medium = .bytes then inAscii else unlessObstacle heap value (Value.written heap)
  | 'a' => inAscii
  | 'd' | 'i' | 'u' => integer 10 []
  | 'o' => integer 8 ['0', 'o']
  | 'x' => integer 16 ['0', 'x']
  | 'X' => raised (integer 16 ['0', 'x'])
  | 'c' => do return ⟨← if medium = .bytes then byteOf heap value else characterOf value, false⟩
  | 'e' => float 'e'
  | 'f' => float 'f'
  | 'g' => float 'g'
  | 'E' => raised (float 'e')
  | 'F' => raised (float 'f')
  | 'G' => raised (float 'g')
  | letter => .error (unknownLetter medium letter index)

/-- Put what fills a place into its width. -/
def pad (place : Place) (letter : Char) (filling : Filling) : List Char :=
  let isCut := letter == 's' || letter == 'b' || letter == 'r' || letter == 'a'
  let body := match place.precision with
    | some precision => if isCut then filling.text.take precision else filling.text
    | none => filling.text
  let (sign, body) :=
    if !filling.isNumber then ([], body)
    else
      match body with
      | '-' :: rest => (['-'], rest)
      | rest => (if place.plus then ['+'] else if place.blank then [' '] else [], rest)
  let marked := place.alternate && (letter == 'o' || letter == 'x' || letter == 'X')
  let (mark, body) := if marked then (body.take 2, body.drop 2) else ([], body)
  let missing := place.width.getD 0 - (sign.length + mark.length + body.length)
  if place.toLeft then sign ++ mark ++ body ++ List.replicate missing ' '
  else if place.zeros && filling.isNumber then sign ++ mark ++ List.replicate missing '0' ++ body
  else List.replicate missing ' ' ++ sign ++ mark ++ body

/-- The value that stands in a place as it is, if one does: a plain text that nothing is put around. -/
def keptValue? (place : Place) (letter : Char) (value : Value) (written : List Char) : Option Value :=
  match value with
  | .text text type _ =>
    if medium = .text && letter == 's' && type.qualified == "str" && !place.plus && !place.blank &&
        text.toList == written then some value
    else none
  | _ => none

/-- Read a place behind its percent sign and fill it; `size` is the length of the format. -/
def fillPlace (size : Nat) (supply : Supply) (chars : List Char) :
    Except Fault (Piece × Supply × List Char) := do
  let (supply, chars) ← match chars with
    | '(' :: rest =>
      if supply.keyed.isNone then .error (.ofType "format requires a mapping")
      match takeKey 0 rest with
      | none => .error (formatFault "incomplete format key")
      | some (key, rest) => do
        let value ← lookUp heap medium supply.keyed key
        pure ({ supply with rest := [value] }, rest)
    | chars => pure (supply, chars)
  let (place, chars) := takeFlags .plain chars
  let (place, supply, chars) ← takeWidth place supply chars
  let (place, supply, chars) ← takePrecision medium place supply chars
  match skipSize chars with
  | [] => .error incomplete
  | letter :: rest => do
    let (value, supply) ← supply.next
    let filling ← fillingOf heap medium place letter (size - rest.length - 1) value
    if Limit.room < place.width.getD 0 then .error Limit.noRoom
    let written := pad place letter filling
    return (⟨written, keptValue? medium place letter value written⟩, supply, rest)

/-- Fill the places of a format; the first argument bounds the number of its parts. -/
def fillFrom (size : Nat) : Nat → Supply → List Char → Except Fault (List Piece)
  | 0, _, _ => .ok []
  | _ + 1, supply, [] =>
    if supply.rest.isEmpty || supply.keyed.isSome then .ok [] else .error (unused medium)
  | parts + 1, supply, '%' :: '%' :: rest => do
    return .literal '%' :: (← fillFrom size parts supply rest)
  | parts + 1, supply, '%' :: rest => do
    let (piece, supply, rest) ← fillPlace heap medium size supply rest
    return piece :: (← fillFrom size parts supply rest)
  | parts + 1, supply, c :: rest => do return .literal c :: (← fillFrom size parts supply rest)

/-- The pieces of a format with its places filled. -/
def fill (format : List Char) (arguments : Value) : Except Fault (List Piece) :=
  fillFrom heap medium format.length (format.length + 1) (.ofValue heap medium arguments) format

end Fill

end LiveConsole.Formatted
