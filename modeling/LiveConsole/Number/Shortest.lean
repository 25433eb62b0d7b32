import LiveConsole.Number.Binary64

/-!
# The shortest decimal that reads back

Of all decimals that the nearest-number rule reads back as a given number, the one with the fewest
digits is written, and of those the nearest one. The search runs over decimal grids of one, two and
more digits and tests the two neighbours of the number on each grid by exact integer arithmetic.
A `Layout` then decides where the point goes and when a power of ten is written.
-/
namespace LiveConsole.Number

/-- The digits of a positive number and its decimal exponent: `0.d₁d₂… * 10 ^ point`. -/
structure Digits where
  /-- Decimal digits without leading or trailing zeros. -/
  digits : List Char
  /-- Number of digits before the decimal point. -/
  point : Int
  deriving DecidableEq, Repr

/-- The interval that reads back as a number, in quarters of its last place times `2 ^ exponent`. -/
structure Interval where
  /-- Least end. -/
  low : Nat
  /-- The number itself. -/
  value : Nat
  /-- Greatest end. -/
  high : Nat
  /-- Power of two of the unit. -/
  exponent : Int
  /-- Whether the ends read back as the number too. -/
  closed : Bool

namespace Interval

/-- The interval of the reals that round to a finite positive number. -/
def around (significand : Nat) (exponent : Int) : Interval where
  low :=
    if significand = Binary64.leastFull ∧ Binary64.minExponent < exponent then 4 * significand - 1
    else 4 * significand - 2
  value := 4 * significand
  high := 4 * significand + 2
  exponent := exponent - 2
  closed := significand % 2 == 0

/-- A count of units, on the scale on which it compares with counts of `10 ^ grid`. -/
def scaleUnits (interval : Interval) (grid : Int) (units : Nat) : Nat :=
  units * Nat.pow 2 interval.exponent.toNat * Nat.pow 10 (-grid).toNat

/-- A count of `10 ^ grid`, on the scale on which it compares with counts of units. -/
def scaleGrid (interval : Interval) (grid : Int) (count : Nat) : Nat :=
  count * Nat.pow 10 grid.toNat * Nat.pow 2 (-interval.exponent).toNat

/-- Whether a count of `10 ^ grid` reads back as the number. -/
def holds (interval : Interval) (grid : Int) (count : Nat) : Bool :=
  let point := interval.scaleGrid grid count
  let low := interval.scaleUnits grid interval.low
  let high := interval.scaleUnits grid interval.high
  if interval.closed then low ≤ point && point ≤ high else low < point && point < high

/-- The count of `10 ^ grid` that reads back and is nearest to the number, if one reads back. -/
def nearestOnGrid (interval : Interval) (grid : Int) : Option Nat :=
  let value := interval.scaleUnits grid interval.value
  let step := interval.scaleGrid grid 1
  let below := value / step
  let rest := value % step
  match interval.holds grid below && below != 0, interval.holds grid (below + 1) with
  | true, true =>
    if 2 * rest < step then some below
    else if step < 2 * rest then some (below + 1)
    else if below % 2 = 0 then some below else some (below + 1)
  | true, false => some below
  | false, true => some (below + 1)
  | false, false => none

/-- The least power of ten beyond the number, found by stepping down from below one. -/
def pointBelowOne (interval : Interval) : Nat → Int → Int
  | 0, point => point
  | fuel + 1, point =>
    if interval.scaleGrid (point - 1) 1 ≤ interval.scaleUnits (point - 1) interval.value then point
    else interval.pointBelowOne fuel (point - 1)

/-- The number of digits before the decimal point of the number. -/
def point (interval : Interval) : Int :=
  let whole := interval.scaleUnits 0 interval.value / interval.scaleGrid 0 1
  if whole = 0 then interval.pointBelowOne 400 0 else (Nat.toDigits 10 whole).length

/-- Search the grids of `count` and more digits for a decimal that reads back. -/
def search (interval : Interval) (point : Int) : Nat → Nat → Nat × Int
  | 0, count => (interval.value, point - count)
  | fuel + 1, count =>
    match interval.nearestOnGrid (point - count) with
    | some found => (found, point - count)
    | none => interval.search point fuel (count + 1)

end Interval

/-- The shortest digits that read back as a finite positive number. -/
def shortest (significand : Nat) (exponent : Int) : Digits :=
  let interval := Interval.around significand exponent
  let (count, grid) := interval.search interval.point 17 1
  let digits := Nat.toDigits 10 count
  let significant := (digits.reverse.dropWhile (· == '0')).reverse
  ⟨significant, grid + digits.length⟩

/-- Where the decimal point and the power of ten go in a written number. -/
structure Layout where
  /-- The least number of digits before the point, possibly negative, that is written without power. -/
  leastPoint : Int
  /-- The greatest number of digits before the point that is written without power. -/
  greatestPoint : Int
  /-- Whether a whole number written without power ends in `.0`. -/
  pointZero : Bool
  deriving DecidableEq, Repr

namespace Layout

/-- A number that stands alone: powers of ten below `1e-04` and from `1e+16` on. -/
def alone : Layout := ⟨-3, 16, true⟩

/-- A part of a complex number: like one that stands alone, but without `.0`. -/
def part : Layout := ⟨-3, 16, false⟩

/-- A power of ten behind its mark, with a sign and at least two digits. -/
def power (value : Int) : List Char :=
  let digits := Nat.toDigits 10 value.natAbs
  let digits := if digits.length < 2 then '0' :: digits else digits
  'e' :: (if value < 0 then '-' else '+') :: digits

/-- The digits of a positive number, with point and power of ten in place. -/
def place (layout : Layout) (number : Digits) : List Char :=
  let count : Int := number.digits.length
  if number.point < layout.leastPoint || layout.greatestPoint < number.point then
    match number.digits with
    | [] => []
    | [digit] => digit :: power (number.point - 1)
    | digit :: digits => digit :: '.' :: digits ++ power (number.point - 1)
  else if number.point ≤ 0 then
    '0' :: '.' :: List.replicate (-number.point).toNat '0' ++ number.digits
  else if count ≤ number.point then
    number.digits ++ List.replicate (number.point - count).toNat '0' ++
      (if layout.pointZero then ['.', '0'] else [])
  else
    number.digits.take number.point.toNat ++ '.' :: number.digits.drop number.point.toNat

/-- The text of a number. -/
def write (layout : Layout) : Binary64 → String
  | .undefined => "nan"
  | .infinite negative => if negative then "-inf" else "inf"
  | .finite negative significand exponent =>
    let sign := if negative then ['-'] else []
    let digits :=
      if significand = 0 then if layout.pointZero then ['0', '.', '0'] else ['0']
      else layout.place (shortest significand exponent)
    String.ofList (sign ++ digits)

end Layout

end LiveConsole.Number
