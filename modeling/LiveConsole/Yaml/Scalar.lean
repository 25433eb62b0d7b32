import LiveConsole.Number.Arithmetic
import LiveConsole.Number.Reading
import LiveConsole.Text.Codes
import LiveConsole.Value.Compare
import LiveConsole.Value.Written
import LiveConsole.Yaml.Kind
import LiveConsole.Yaml.Cursor
import LiveConsole.Yaml.ScalarText

/-!
# The values of scalars

A scalar of a given kind has the value that its text spells. A text that its kind does not allow is a
fault of the kind of value, not of the text as a whole, except for bytes that are not well encoded.
-/
namespace LiveConsole.Yaml

open Number (Binary64)
open Text (Codes)

/-- A fault of a value that cannot be built. -/
def unbuildable {Result : Type} (kind message : String) : Outcome Result :=
  .error (.unbuildable (.raised kind message))

/-! ## Numbers -/

/-- The longest written form of a text that a fault shows. -/
def longestShown : Nat := 200

/-- The trouble of a text that is no integer of a base. -/
def misreadInteger (base : Nat) (codes : Codes) : Number.Misread → Trouble
  | .invalid =>
    .unbuildable (.raised "ValueError"
      (s!"invalid literal for int() with base {base}: " ++
        String.ofList (codes.quoted.toList.take longestShown)))
  | .long digits => .tooManyDigits digits

/-- Read an integer in a base. -/
def integerIn (base : Nat) (codes : Codes) : Outcome Int :=
  (Number.integerIn base codes.chars).mapError (misreadInteger base codes)

/-- Read a floating point number; blanks around it and words for the infinite are allowed. -/
def floatOf (codes : Codes) : Outcome Binary64 :=
  let simple := Number.withoutBlanks (Number.simplified codes.chars)
  let (negative, unsigned) := Number.DecimalText.takeSign simple
  let word := String.ofList (unsigned.map Char.toLower)
  if word = "inf" ∨ word = "infinity" then .ok (.infinite negative)
  else if word = "nan" then .ok .undefined
  else
    match Number.DecimalText.read? simple with
    | some found => .ok found.toBinary64
    | none => unbuildable "ValueError" ("could not convert string to float: " ++ codes.quoted)

/-- The fault of a text without characters where one is needed. -/
def noCharacter {Result : Type} : Outcome Result := unbuildable "IndexError" "string index out of range"

/-- A number without underscores, split into its sign and the rest. -/
def signAndRest (codes : Codes) : Outcome (Bool × Codes) :=
  let codes : Codes := codes.filter (· != '_'.toNat)
  if codes.isEmpty then noCharacter
  else
    match codes.after? "-", codes.after? "+" with
    | some rest, _ => .ok (true, rest)
    | none, some rest => .ok (false, rest)
    | none, none => .ok (false, codes)

/-- Whether codes hold that of a colon. -/
def hasColon (codes : Codes) : Bool := codes.contains ':'.toNat

/-- A number in base sixty. -/
def sixtieths (parts : List Int) : Int := parts.foldl (fun value part => value * 60 + part) 0

/-- The integer that a text without sign spells: binary, hexadecimal, octal, in base sixty or decimal. -/
def unsignedOf (codes : Codes) : Outcome Int :=
  if codes.isEmpty then noCharacter
  else if codes = .ofText "0" then .ok 0
  else
    match codes.after? "0b", codes.after? "0x", codes.after? "0" with
    | some digits, _, _ => integerIn 2 digits
    | none, some digits, _ => integerIn 16 digits
    | none, none, some _ => integerIn 8 codes
    | none, none, none =>
      if hasColon codes then sixtieths <$> (codes.splitAt ':').mapM (integerIn 10)
      else integerIn 10 codes

/-- The integer that a text spells. -/
def integerOf (codes : Codes) : Outcome Int := do
  let (negative, codes) ← signAndRest codes
  let value ← unsignedOf codes
  return if negative then -value else value

/-- The fault of an integer that is beyond all floating point numbers. -/
def beyondFloats {Result : Type} : Outcome Result :=
  unbuildable "OverflowError" "int too large to convert to float"

/-- Add up the parts of a floating point number in base sixty, the last part first. -/
def addSixtieths : List Binary64 → Int → Binary64 → Outcome Binary64
  | [], _, sum => .ok sum
  | part :: rest, base, sum =>
    match Binary64.ofInt base with
    | .infinite _ => beyondFloats
    | factor => addSixtieths rest (base * 60) (sum.add (part.multiply factor))

/-- The floating point number that a text spells, and whether it is the one that has a word for it. -/
def decimalOf (codes : Codes) : Outcome (Binary64 × Bool) := do
  let (negative, codes) ← signAndRest codes.lower
  if codes = .ofText ".nan" then return (.undefined, true)
  let value ←
    if codes = .ofText ".inf" then pure (.infinite false)
    else if hasColon codes then do
      let parts ← (codes.splitAt ':').mapM floatOf
      addSixtieths parts.reverse 1 (Binary64.ofInt 0)
    else floatOf codes
  return (if negative then value.negate else value, false)

/-! ## Bytes -/

/-- The value of a character of an encoding with 64 characters. -/
def sixBits? (c : Char) : Option Nat :=
  if 'A' ≤ c ∧ c ≤ 'Z' then some (c.toNat - 'A'.toNat)
  else if 'a' ≤ c ∧ c ≤ 'z' then some (c.toNat - 'a'.toNat + 26)
  else if c.isDigit then some (c.toNat - '0'.toNat + 52)
  else if c = '+' then some 62
  else if c = '/' then some 63
  else none

/-- How far a group of four characters is read: the characters, the fill characters, the bits left. -/
structure Group where
  /-- The number of characters read. -/
  size : Nat
  /-- The number of fill characters behind them. -/
  fill : Nat
  /-- The bits that make no byte yet. -/
  bits : Nat

/-- Read bytes from groups of four characters; others are skipped, a filled group ends the text. -/
def bytesGo : Group → List Char → Option (List UInt8)
  | group, [] => if group.size = 0 then some [] else none
  | group, c :: rest =>
    if c = '=' then
      if 2 ≤ group.size then
        if 4 ≤ group.size + group.fill + 1 then some []
        else bytesGo { group with fill := group.fill + 1 } rest
      else bytesGo group rest
    else
      match sixBits? c with
      | none => bytesGo group rest
      | some value =>
        if group.size = 0 then bytesGo ⟨1, 0, value⟩ rest
        else if group.size = 1 then
          (bytesGo ⟨2, 0, value % 16⟩ rest).map (UInt8.ofNat (group.bits * 4 + value / 16) :: ·)
        else if group.size = 2 then
          (bytesGo ⟨3, 0, value % 4⟩ rest).map (UInt8.ofNat (group.bits * 16 + value / 4) :: ·)
        else (bytesGo ⟨0, 0, 0⟩ rest).map (UInt8.ofNat (group.bits * 64 + value) :: ·)

/-- The bytes that a text encodes. -/
def bytesOf (codes : Codes) : Outcome (List UInt8) :=
  if codes.any (0x7F < ·) then malformed
  else
    match bytesGo ⟨0, 0, 0⟩ codes.chars with
    | none => malformed
    | some bytes => .ok bytes

/-! ## Other kinds -/

/-- The truth value that a word stands for. -/
def truthOf (codes : Codes) : Outcome Bool :=
  let word := codes.lower
  match word.text?.bind fun word => Kind.truthWords.lookup word with
  | some value => .ok value
  | none => unbuildable "KeyError" word.quoted

/-- The day or moment that a text spells. -/
def momentOf (codes : Codes) : Outcome Moment :=
  match WrittenMoment.read? (Kind.dropLineEnd codes.chars) with
  | none => unbuildable "AttributeError" "'NoneType' object has no attribute 'groupdict'"
  | some written =>
    match Moment.ofWritten written with
    | .ok moment => .ok moment
    | .error fault => .error (.unbuildable fault)

/-- The value of a scalar. -/
inductive Scalar where
  /-- A value of a kind that evaluated code has too. -/
  | plain (value : Value)
  /-- A text with codes that belong to no character. -/
  | broken (codes : Codes)
  /-- A day or a moment. -/
  | moment (moment : Moment)
  deriving DecidableEq, Repr

namespace Scalar

/-- The identity of the one number that is none and has a word for it. -/
def namedIdentity : Ident := 0

/-- The value of a scalar of a kind, the one of a given number; kinds of collections have none. -/
def build (kind : Kind) (text : Codes) (number : Nat) : Outcome Scalar := do
  match kind with
  | .null => return plain .nothing
  | .bool => return plain (.bool (← truthOf text))
  | .int => return plain (.ofInt (← integerOf text))
  | .float =>
    let (value, isNamed) ← decimalOf text
    return plain (.ofFloat value (if isNamed then namedIdentity else number + 1))
  | .binary => return plain (.bytes (← bytesOf text) ⟨"bytes"⟩ 0)
  | .timestamp => return moment (← momentOf text)
  | .str => return (text.text?.map fun text => plain (.ofText text)).getD (broken text)
  | _ => malformed

/-- Whether two values are one key: numbers by their size, moments by when they are. -/
def isSameKey : Scalar → Scalar → Bool
  | plain left, plain right => Value.isSameKey Heap.empty left right
  | broken left, broken right => left == right
  | moment left, moment right => left.isSame right
  | _, _ => false

/-- What keeps a value from being written. -/
def obstacle? : Scalar → Option Fault
  | plain value => value.scalarObstacle?
  | broken _ => none
  | moment _ => none

/-- The written form of a value. -/
def written : Scalar → String
  | plain value => value.writtenScalar
  | broken codes => codes.quoted
  | moment value => value.written

end Scalar

end LiveConsole.Yaml
