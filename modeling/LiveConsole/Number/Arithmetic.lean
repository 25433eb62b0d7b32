import LiveConsole.Number.Binary64

/-!
# Arithmetic of binary floating point numbers

Sums, products and quotients are those of exact fractions, rounded once to the nearest number of the
format. Division with a remainder rounds the quotient toward minus infinity; the remainder has the sign
of the divisor.
-/
namespace LiveConsole.Number.Binary64

/-- The number with the other sign. -/
def negate : Binary64 → Binary64
  | undefined => undefined
  | infinite negative => infinite (!negative)
  | finite negative significand exponent => finite (!negative) significand exponent

/-- Whether a number has a minus sign. -/
def isNegative : Binary64 → Bool
  | undefined => false
  | infinite negative => negative
  | finite negative _ _ => negative

/-- The sum of two numbers; a sum of zero is negative only if both numbers are. -/
def add (left right : Binary64) : Binary64 :=
  match left, right with
  | undefined, _ => undefined
  | _, undefined => undefined
  | infinite negative, infinite other => if negative = other then left else undefined
  | infinite _, finite .. => left
  | finite .., infinite _ => right
  | finite .., finite .. =>
    match left.fraction?, right.fraction? with
    | some (leftTop, leftBottom), some (rightTop, rightBottom) =>
      let top := leftTop * rightBottom + rightTop * leftBottom
      let negative := if top = 0 then left.isNegative && right.isNegative else decide (top < 0)
      nearest negative top.natAbs (leftBottom * rightBottom)
    | _, _ => undefined

/-- The product of two numbers. -/
def multiply (left right : Binary64) : Binary64 :=
  let negative := left.isNegative != right.isNegative
  match left, right with
  | undefined, _ => undefined
  | _, undefined => undefined
  | infinite _, other => if other.isZero then undefined else infinite negative
  | other, infinite _ => if other.isZero then undefined else infinite negative
  | finite .., finite .. =>
    match left.fraction?, right.fraction? with
    | some (leftTop, leftBottom), some (rightTop, rightBottom) =>
      nearest negative (leftTop * rightTop).natAbs (leftBottom * rightBottom)
    | _, _ => undefined

/-- The difference of two numbers. -/
def subtract (left right : Binary64) : Binary64 := left.add right.negate

/-- Zero with a sign. -/
def zero (negative : Bool) : Binary64 := .finite negative 0 minExponent

/-- The number one. -/
def one : Binary64 := ofInt 1

/-- The quotient of two numbers, the divisor not zero. -/
def divide (left right : Binary64) : Binary64 :=
  let negative := left.isNegative != right.isNegative
  match left, right with
  | undefined, _ => undefined
  | _, undefined => undefined
  | infinite _, infinite _ => undefined
  | infinite _, finite .. => infinite negative
  | finite .., infinite _ => zero negative
  | finite .., finite .. =>
    match left.fraction?, right.fraction? with
    | some (leftTop, leftBottom), some (rightTop, rightBottom) =>
      nearest negative (leftTop.natAbs * rightBottom) (leftBottom * rightTop.natAbs)
    | _, _ => undefined

/-- What is left of a number after taking away a divisor, not zero, as often as it goes in. -/
def rest (left right : Binary64) : Binary64 :=
  match left, right with
  | undefined, _ => undefined
  | _, undefined => undefined
  | infinite _, _ => undefined
  | finite .., infinite _ => left
  | finite negative _ _, finite .. =>
    match left.fraction?, right.fraction? with
    | some (leftTop, leftBottom), some (rightTop, rightBottom) =>
      nearest negative ((leftTop.natAbs * rightBottom) % (rightTop.natAbs * leftBottom))
        (leftBottom * rightBottom)
    | _, _ => undefined

/-- The greatest whole number that is not above a number. -/
def floor : Binary64 → Binary64
  | number@(finite negative _ _) =>
    match number.fraction? with
    | some (top, bottom) =>
      let whole := top.fdiv bottom
      nearest negative whole.natAbs 1
    | none => number
  | number => number

/-- Whether a number is above another one. -/
def isAbove (left right : Binary64) : Bool := left.compare? right == some .gt

/-- The remainder of a division, with the sign of the divisor, which is not zero. -/
def modulo (left right : Binary64) : Binary64 :=
  let rest := left.rest right
  if rest = undefined then rest
  else if rest.isZero then zero right.isNegative
  else if rest.isNegative != right.isNegative then rest.add right
  else rest

/-- The quotient of a division by a number that is not zero, rounded toward minus infinity. -/
def floorQuotient (left right : Binary64) : Binary64 :=
  let rest := left.rest right
  if rest = undefined then rest
  else
    let plain := (left.subtract rest).divide right
    let lower := !rest.isZero && rest.isNegative != right.isNegative
    let quotient := if lower then plain.subtract one else plain
    if quotient.isZero then zero (left.isNegative != right.isNegative)
    else
      let whole := quotient.floor
      if (quotient.subtract whole).isAbove (nearest false 1 2) then whole.add one else whole

end LiveConsole.Number.Binary64
