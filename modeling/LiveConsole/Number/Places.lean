import LiveConsole.Number.Binary64

/-!
# Decimals with a fixed number of digits

A number is written with a given number of digits behind the point, or with a given number of digits in
all; it is rounded to the nearest such decimal, a tie to the even digit.
-/
namespace LiveConsole.Number.Places

/-- Digits of a natural number, filled with zeros in front up to a width. -/
def padded (width value : Nat) : List Char :=
  let digits := (toString value).toList
  List.replicate (width - digits.length) '0' ++ digits

/-- Digits with a point before the last `places` of them; the point goes with the last digit behind it. -/
def pointed (places : Nat) (keepPoint : Bool) (digits : List Char) : List Char :=
  let whole := digits.take (digits.length - places)
  let fraction := digits.drop (digits.length - places)
  if fraction.isEmpty && !keepPoint then whole else whole ++ '.' :: fraction

/-- A fraction of naturals rounded to so many digits behind the point. -/
def fixed (places : Nat) (keepPoint : Bool) (top bottom : Nat) : List Char :=
  pointed places keepPoint
    (padded (places + 1) (Binary64.roundDiv (top * Nat.pow 10 places) bottom))

/-- A fraction of naturals as a count of `10 ^ grid`. -/
def countOf (top bottom : Nat) (grid : Int) : Nat :=
  if 0 ≤ grid then Binary64.roundDiv top (bottom * Nat.pow 10 grid.toNat)
  else Binary64.roundDiv (top * Nat.pow 10 (-grid).toNat) bottom

/-- The power of ten of the first digit of a positive fraction. -/
def leadingPower (top bottom : Nat) : Int :=
  let guess : Int := ((toString top).length : Int) - (toString bottom).length
  let reached :=
    if 0 ≤ guess then bottom * Nat.pow 10 guess.toNat ≤ top
    else bottom ≤ top * Nat.pow 10 (-guess).toNat
  if reached then guess else guess - 1

/-- The power of ten and the digits of a fraction rounded to `count` digits, `count` not zero. -/
def significant (count : Nat) (top bottom : Nat) : Int × List Char :=
  if top = 0 then (0, List.replicate count '0')
  else
    let power := leadingPower top bottom
    let value := countOf top bottom (power - (count - 1 : Nat))
    if Nat.pow 10 count ≤ value then (power + 1, padded count (value / 10)) else (power, padded count value)

/-- A power of ten behind its mark, with a sign and at least two digits. -/
def powerText (power : Int) : List Char :=
  'e' :: (if power < 0 then '-' else '+') :: padded 2 power.natAbs

/-- A fraction of naturals with one digit before the point, `places` behind it, and a power of ten. -/
def scientific (places : Nat) (keepPoint : Bool) (top bottom : Nat) : List Char :=
  let (power, digits) := significant (places + 1) top bottom
  pointed places keepPoint digits ++ powerText power

/-- A list without the zeros at its end. -/
def withoutZeros (digits : List Char) : List Char := (digits.reverse.dropWhile (· == '0')).reverse

/--
A fraction of naturals with `count` digits in all, behind a power of ten where the point would be far
off; zeros at the end are left out unless `keepPoint` asks for them.
-/
def general (count : Nat) (keepPoint : Bool) (top bottom : Nat) : List Char :=
  let count := max count 1
  let (power, digits) := significant count top bottom
  let kept := fun digits : List Char => if keepPoint then digits else withoutZeros digits
  if power < -4 || (count : Int) ≤ power then
    let digits := digits.take 1 ++ kept (digits.drop 1)
    pointed (digits.length - 1) keepPoint digits ++ powerText power
  else if power < 0 then
    '0' :: '.' :: List.replicate (-power - 1).toNat '0' ++ kept digits
  else
    let whole := power.toNat + 1
    let digits := digits.take whole ++ kept (digits.drop whole)
    pointed (digits.length - whole) keepPoint digits

end LiveConsole.Number.Places
