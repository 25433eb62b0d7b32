/-!
# Progressions of integers

A progression holds the integers from a start by a step up to, and without, a stop. Everything asked of
it is answered by arithmetic, however long it is.
-/
namespace LiveConsole.Number

/-- The integers from a start up to a stop by a step, which may lead downwards. -/
structure Progression where
  /-- The first integer, unless there is none. -/
  start : Int
  /-- What no integer reaches. -/
  stop : Int
  /-- The difference of neighbours, never zero. -/
  step : Int
  deriving DecidableEq, Repr

namespace Progression

/-- The number of integers. -/
def count (progression : Progression) : Nat :=
  let { start, stop, step } := progression
  if 0 < step then ((stop - start + step - 1) / step).toNat
  else ((start - stop - step - 1) / (-step)).toNat

/-- The integer at an index. -/
def item (progression : Progression) (index : Nat) : Int :=
  progression.start + progression.step * (index : Int)

/-- Whether an integer is one of those in the progression. -/
def holds (progression : Progression) (value : Int) : Bool :=
  let distance := value - progression.start
  distance % progression.step == 0 && 0 ≤ distance / progression.step &&
    distance / progression.step < (progression.count : Int)

/-- Whether two progressions hold the same integers in the same order. -/
def holdsSame (left right : Progression) : Bool :=
  left.count == right.count &&
    (left.count == 0 || left.start == right.start && (left.count == 1 || left.step == right.step))

end Progression

end LiveConsole.Number
