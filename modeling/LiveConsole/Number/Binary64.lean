/-!
# Binary floating point numbers

A number of the 64-bit binary format is a sign, a significand below `2 ^ 53` and a power of two, or an
infinity, or not a number. Numbers are read from decimal text by exact arithmetic: the nearest number
of the format wins, and a tie goes to the even significand.
-/
namespace LiveConsole.Number

/-- A number of the 64-bit binary format; a finite one is `± significand * 2 ^ exponent`. -/
inductive Binary64 where
  /-- Not a number. -/
  | undefined
  /-- An infinity of either sign. -/
  | infinite (negative : Bool)
  /-- A finite number. -/
  | finite (negative : Bool) (significand : Nat) (exponent : Int)
  deriving DecidableEq, Repr

namespace Binary64

/-- The least power of two of the format. -/
def minExponent : Int := -1074

/-- The greatest power of two of the format. -/
def maxExponent : Int := 971

/-- The least significand of a number above the finest grid, `2 ^ 52`. -/
def leastFull : Nat := 0x10000000000000

/-- The bound of all significands, `2 ^ 53`. -/
def pastFull : Nat := 0x20000000000000

/-- Divide and round to the nearest integer, a tie to the even one. -/
def roundDiv (numerator denominator : Nat) : Nat :=
  let quotient := numerator / denominator
  let rest := numerator % denominator
  if 2 * rest < denominator then quotient
  else if 2 * rest > denominator then quotient + 1
  else if quotient % 2 = 0 then quotient
  else quotient + 1

/-- The quotient of `numerator / denominator` by `2 ^ exponent`, as a fraction. -/
def scaledBy (numerator denominator : Nat) (exponent : Int) : Nat × Nat :=
  if 0 ≤ exponent then (numerator, denominator * Nat.pow 2 exponent.toNat)
  else (numerator * Nat.pow 2 (-exponent).toNat, denominator)

/-- The power of two whose grid holds the nearest number of the format to a positive fraction. -/
def gridExponent (numerator denominator : Nat) : Int :=
  let guess : Int := (numerator.log2 : Int) - (denominator.log2 : Int) - 52
  let (top, bottom) := scaledBy numerator denominator guess
  let quotient := top / bottom
  let exact :=
    if pastFull ≤ quotient then guess + 1 else if quotient < leastFull then guess - 1 else guess
  max exact minExponent

/-- The number of the format nearest to a fraction of naturals. -/
def nearest (negative : Bool) (numerator denominator : Nat) : Binary64 :=
  if numerator = 0 ∨ denominator = 0 then .finite negative 0 minExponent
  else
    let exponent := gridExponent numerator denominator
    let (top, bottom) := scaledBy numerator denominator exponent
    let rounded := roundDiv top bottom
    let (significand, exponent) :=
      if rounded = pastFull then (leastFull, exponent + 1) else (rounded, exponent)
    if maxExponent < exponent then .infinite negative
    else if significand = 0 then .finite negative 0 minExponent
    else .finite negative significand exponent

/-- A power of ten so great that every multiple of it is infinite. -/
def infinitePower : Int := 400

/-- A power of ten so small that all numbers below it are nearest to zero. -/
def zeroPower : Int := -400

/-- The number of the format nearest to `± digits * 10 ^ power`. -/
def ofDecimal (negative : Bool) (digits : Nat) (power : Int) : Binary64 :=
  if digits = 0 ∨ power + digits.log2 < zeroPower then .finite negative 0 minExponent
  else if infinitePower < power then .infinite negative
  else if 0 ≤ power then nearest negative (digits * Nat.pow 10 power.toNat) 1
  else nearest negative digits (Nat.pow 10 (-power).toNat)

/-- A natural number rounded to the format. -/
def ofInt (value : Int) : Binary64 := nearest (value < 0) value.natAbs 1

/-- A finite number as a fraction with a positive denominator. -/
def fraction? : Binary64 → Option (Int × Nat)
  | finite negative significand exponent =>
    let magnitude : Int := if negative then -(significand : Int) else significand
    if 0 ≤ exponent then some (magnitude * Nat.pow 2 exponent.toNat, 1)
    else some (magnitude, Nat.pow 2 (-exponent).toNat)
  | _ => none

/-- Numerical comparison; nothing compares with what is not a number. -/
def compare? : Binary64 → Binary64 → Option Ordering
  | undefined, _ => none
  | _, undefined => none
  | infinite left, infinite right =>
    some (if left = right then .eq else if left then .lt else .gt)
  | infinite negative, finite .. => some (if negative then .lt else .gt)
  | finite .., infinite negative => some (if negative then .gt else .lt)
  | left@(finite ..), right@(finite ..) => do
    let (leftTop, leftBottom) ← left.fraction?
    let (rightTop, rightBottom) ← right.fraction?
    some (compare (leftTop * rightBottom) (rightTop * leftBottom))

/-- Whether a number is zero, of either sign. -/
def isZero : Binary64 → Bool
  | finite _ 0 _ => true
  | _ => false

/-- The integer that a finite number equals, if it equals one. -/
def toInt? (value : Binary64) : Option Int := do
  let (top, bottom) ← value.fraction?
  if top % bottom = 0 then some (top / bottom) else none

end Binary64

/-- A run of decimal digits as a number. -/
def ofDigits (digits : List Char) : Nat :=
  digits.foldl (fun value c => value * 10 + (c.toNat - '0'.toNat)) 0

/-- A number in decimal notation: sign, the digits around the point, and the power of ten. -/
structure DecimalText where
  /-- Whether a minus sign stands in front. -/
  negative : Bool
  /-- The digits before the point. -/
  whole : List Char
  /-- The digits after the point. -/
  fraction : List Char
  /-- The power of ten after the exponent mark. -/
  power : Int

namespace DecimalText

/-- The digits of a decimal notation without its point, and the power of ten that goes with them. -/
def scaled (text : DecimalText) : Nat × Int :=
  (ofDigits (text.whole ++ text.fraction), text.power - text.fraction.length)

/-- The number of the 64-bit format nearest to a decimal notation. -/
def toBinary64 (text : DecimalText) : Binary64 :=
  let (digits, power) := text.scaled
  Binary64.ofDecimal text.negative digits power

/-- Split a sign from the front of a text. -/
def takeSign : List Char → Bool × List Char
  | '-' :: rest => (true, rest)
  | '+' :: rest => (false, rest)
  | rest => (false, rest)

/-- Read a power of ten behind its mark `e` or `E`; no mark means zero. -/
def readPower : List Char → Option Int
  | [] => some 0
  | mark :: rest =>
    if mark == 'e' || mark == 'E' then
      let (negative, digits) := takeSign rest
      if digits.isEmpty || !digits.all Char.isDigit then none
      else some (if negative then -(ofDigits digits : Int) else ofDigits digits)
    else none

/-- Read a decimal notation: sign, digits with at most one point, power of ten. -/
def read? (chars : List Char) : Option DecimalText := do
  let (negative, unsigned) := takeSign chars
  let whole := unsigned.takeWhile Char.isDigit
  let afterWhole := unsigned.dropWhile Char.isDigit
  let (fraction, rest) :=
    match afterWhole with
    | '.' :: rest => (rest.takeWhile Char.isDigit, rest.dropWhile Char.isDigit)
    | rest => ([], rest)
  if whole.isEmpty && fraction.isEmpty then none
  else
    let power ← readPower rest
    some ⟨negative, whole, fraction, power⟩

end DecimalText

/-- The number that a text spells: a decimal notation, or a word for the infinite; else none. -/
def Binary64.ofText (text : String) : Binary64 :=
  let chars := text.toList.map Char.toLower
  let (negative, unsigned) := DecimalText.takeSign chars
  if unsigned.take 3 == ['i', 'n', 'f'] then .infinite negative
  else ((DecimalText.read? chars).map DecimalText.toBinary64).getD .undefined

end LiveConsole.Number
