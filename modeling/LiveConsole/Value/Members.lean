import LiveConsole.Value.Compare
import LiveConsole.Value.Hash

/-!
# The members of a set

The members of a set lie in slots, whose number is a power of two, and are met in the order of the slots.
The search for a free slot starts at the remainder of the hash by the number of slots and goes on from
there, a few neighbours at a time. When three fifths of the slots are taken, the members move to more
slots. A member that goes leaves a gap; when there are many of them, the members move too. Members
without a hash of their own are met in the order in which they were put in.
-/
namespace LiveConsole

/-- The members of a set, in the order in which they are met. -/
structure Members where
  /-- The members. -/
  inOrder : List Value
  /-- The slots that they lie in. -/
  table : Table

namespace Members

/-- A member with its hash. -/
abbrev Hashed := UInt64 × Value

/-- Slots, some of them taken. -/
abbrev Slots := Array (Option Hashed)

/-- The number of slots behind the first one that are looked at before the search jumps. -/
def neighbours : Nat := 9

/-- The least number of slots. -/
def leastSlots : Nat := 8

/-- No members. -/
def empty : Members := ⟨[], ⟨leastSlots, 0⟩⟩

/-- The least number of slots beyond a given number. -/
def slotsBeyond (count : Nat) : Nat :=
  if count < leastSlots then leastSlots else Nat.pow 2 (count.log2 + 1)

/-- Slots that are free. -/
def free (count : Nat) : Slots := Array.replicate count none

/-- Whether so many members are too many for so many slots. -/
def isCrowded (members slots : Nat) : Bool := (slots - 1) * 3 ≤ members * 5

/-- The free slot that is found from a slot on, after at most so many jumps. -/
def findFree (slots : Slots) : Nat → Nat → Nat → Nat
  | 0, _, start => start
  | jumps + 1, drive, start =>
    let run := if start + neighbours < slots.size then List.range' start (neighbours + 1) else [start]
    match run.find? fun slot => (slots.getD slot none).isNone with
    | some slot => slot
    | none =>
      let drive := drive / 32
      findFree slots jumps drive ((start * 5 + 1 + drive) % slots.size)

/-- Put a member into a free slot. -/
def place (slots : Slots) (member : Hashed) : Slots :=
  let hash := member.1.toNat
  slots.setIfInBounds (findFree slots (slots.size + 16) hash (hash % slots.size)) (some member)

/-- What lies in slots, in their order. -/
def taken (slots : Slots) : List Hashed := slots.toList.filterMap id

/-- Members in so many slots. -/
def spreadOver (count : Nat) (members : List Hashed) : Slots := members.foldl place (free count)

/-- The number of members from which on slots are doubled and no longer multiplied by four. -/
def manyMembers : Nat := 50000

/-- The number of slots for members that move. -/
def roomy (members : Nat) : Nat :=
  slotsBeyond (if manyMembers < members then members * 2 else members * 4)

/-- Put in a member that is not yet there. -/
def add (slots : Slots) (member : Hashed) : Slots :=
  let slots := place slots member
  let members := taken slots
  if isCrowded members.length slots.size then spreadOver (roomy members.length) members else slots

/-- Members that lie in slots. -/
def ofSlots (slots : Slots) : Members := ⟨(taken slots).map (·.2), ⟨slots.size, 0⟩⟩

/-- Members with their hashes, if all of them have one. -/
def hashed? (heap : Heap) (members : List Value) : Option (List Hashed) :=
  members.mapM fun member => (member.hash? heap).map (·, member)

/-- Members that move to so many slots. -/
def moved (heap : Heap) (members : List Value) (slots : Nat) : Members :=
  match hashed? heap members with
  | none => ⟨members, ⟨slots, 0⟩⟩
  | some found => ofSlots (spreadOver slots found)

/-- Distinct members, put in one after the other. -/
def grown (heap : Heap) (members : List Value) : Members :=
  match hashed? heap members with
  | none => { empty with inOrder := members }
  | some found => ofSlots (found.foldl add (free leastSlots))

/-- The members in another set, which takes them over all at once. -/
def copied (heap : Heap) (members : Members) : Members :=
  let count := members.inOrder.length
  let slots := if isCrowded count leastSlots then slotsBeyond (count * 2) else leastSlots
  if members.table = ⟨slots, 0⟩ then members else moved heap members.inOrder slots

/-- Members of a list that are not among some others. -/
def missingFrom (heap : Heap) (others members : List Value) : List Value :=
  members.filter fun member => !others.any (Value.isSameKey heap member)

/-- The members without some others, in place. -/
def lose (heap : Heap) (members others : Members) : Members :=
  let remain := missingFrom heap others.inOrder members.inOrder
  let gaps := members.table.gaps + (members.inOrder.length - remain.length)
  if gaps ≤ (members.table.slots - 1) / 4 then ⟨remain, ⟨members.table.slots, gaps⟩⟩
  else moved heap remain (roomy remain.length)

/-- The members without some others, in another set; from few others a copy is the shorter way. -/
def without (heap : Heap) (members others : Members) : Members :=
  if others.inOrder.length < members.inOrder.length / 4 then (members.copied heap).lose heap others
  else grown heap (missingFrom heap others.inOrder members.inOrder)

/-- A set with these members. -/
def cell (members : Members) (frozen : Bool) (type : TypeName) : Cell :=
  .set frozen members.inOrder members.table type

end Members

/-- A set of members; of several equal ones the first stays. -/
def Cell.setOf (heap : Heap) (frozen : Bool) (members : List Value) (type : TypeName) : Cell :=
  (Members.grown heap (Cell.distinct heap members)).cell frozen type

end LiveConsole
