import LiveConsole.Value.Basic

/-!
# Hashes of values

A value that can be a key has a hash, a number of 64 bits that equal values share. The hash of a number is
its remainder by a prime, where a fraction counts as the quotient of remainders; that of a fixed sequence
or a frozen set is mixed from the hashes of what is in it. The hash of a text or a byte string that is not
empty, and of all that is known by its identity, is not the same in every run, so that none is given.
-/
namespace LiveConsole

open Number (Binary64)

namespace Hash

/-- The binary digits of the prime by which numbers are reduced. -/
def primeDigits : Nat := 61

/-- The prime by which numbers are reduced. -/
def prime : Nat := Nat.pow 2 primeDigits - 1

/-- A hash, given as an integer; minus one is not used as a hash. -/
def ofInt (value : Int) : UInt64 :=
  let hash := if value = -1 then -2 else value
  UInt64.ofNat (hash % (Nat.pow 2 64 : Nat)).toNat

/-- The hash of a quotient of an integer and a power of two. -/
def ofQuotient (top : Int) (power : Nat) : UInt64 :=
  let inverse := Nat.pow 2 ((primeDigits - power % primeDigits) % primeDigits)
  let rest : Int := (top.natAbs % prime * inverse % prime : Nat)
  ofInt (if top < 0 then -rest else rest)

/-- The hash of a floating point number; that of an undefined one is its own. -/
def ofFloat? : Binary64 → Option UInt64
  | .undefined => none
  | .infinite negative => some (ofInt (if negative then -314159 else 314159))
  | number => number.fraction?.map fun (top, bottom) => ofQuotient top bottom.log2

/-- A hash that was mixed from others, unless it is minus one, for which another one stands. -/
def reserve (stand : UInt64) (hash : UInt64) : UInt64 := if hash = 0xFFFFFFFFFFFFFFFF then stand else hash

/-- The bits of a hash, turned to the left. -/
def turn (hash : UInt64) : UInt64 := (hash <<< 31) ||| (hash >>> 33)

/-- What the hash of a fixed sequence starts from. -/
def firstMix : UInt64 := 2870177450012600261

/-- The hash of a fixed sequence of values with given hashes. -/
def ofItems (items : List UInt64) : UInt64 :=
  let mixed := items.foldl
    (fun mixed item => turn (mixed + item * 14029467366897019727) * 11400714785074694791) firstMix
  reserve 1546275796 (mixed + (UInt64.ofNat items.length ^^^ firstMix ^^^ 3527539))

/-- A hash with its bits spread out. -/
def spread (hash : UInt64) : UInt64 := (hash ^^^ (89869747 : UInt64) ^^^ hash <<< 16) * 3644798167

/-- The hash of a frozen set of values with given hashes. -/
def ofMembers (members : List UInt64) : UInt64 :=
  let mixed : UInt64 := members.foldl (fun mixed member => mixed ^^^ spread member) 0
  let mixed := mixed ^^^ ((UInt64.ofNat members.length + 1) * 1927868237)
  let mixed := mixed ^^^ (mixed >>> 11) ^^^ (mixed >>> 25)
  reserve 590923713 (mixed * 69069 + 907133923)

/-- The hash of a value within so many containers, if it is the same in every run. -/
def within? (heap : Heap) : Nat → Value → Option UInt64
  | 0, _ => none
  | depth + 1, value =>
    match value with
    | .bool value => some (if value then 1 else 0)
    | .int value _ _ => some (ofQuotient value 0)
    | .float value _ _ => ofFloat? value
    | .complex re im _ _ => do
      some (reserve 0xFFFFFFFFFFFFFFFE ((← ofFloat? re) + 1000003 * (← ofFloat? im)))
    | .text value _ _ => if value.isEmpty then some 0 else none
    | .bytes data _ _ => if data.isEmpty then some 0 else none
    | .range items _ =>
      if items.count < 2 then none
      else some (ofItems ([(items.count : Int), items.start, items.step].map fun item => ofQuotient item 0))
    | .ref identity =>
      match heap.get? identity with
      | some (.tuple items _) => (items.mapM (within? heap depth)).map ofItems
      | some (.set true members _ _) => (members.mapM (within? heap depth)).map ofMembers
      | _ => none
    | _ => none

end Hash

/-- The hash of a value, if it is the same in every run. -/
def Value.hash? (heap : Heap) : Value → Option UInt64
  | value@(.ref _) => Hash.within? heap (heap.size + 1) value
  | value => Hash.within? heap 1 value

end LiveConsole
