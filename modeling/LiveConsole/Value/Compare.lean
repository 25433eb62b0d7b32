import LiveConsole.Text.Blank
import LiveConsole.Value.Limit

/-!
# Comparing values

Two values are equal when they have the same contents: numbers of all kinds by their size, texts and
byte strings by their characters, containers item by item, where an item is always equal to itself. A
dictionary holds at most one of several equal keys and a set at most one of several equal members.
Lists are ordered by their first different items, sets by inclusion. Containers nested too deep are
neither equal nor different.
-/
namespace LiveConsole

open Number (Binary64)

namespace Value

/-- The integer that a truth value or an integer stands for. -/
def integer? : Value → Option Int
  | bool value => some (if value then 1 else 0)
  | int value _ _ => some value
  | _ => none

/-- The order of an integer and a floating point number; nothing when the latter is undefined. -/
def compareIntFloat (left : Int) (right : Binary64) : Option Ordering :=
  match right with
  | .undefined => none
  | .infinite negative => some (if negative then .gt else .lt)
  | .finite .. =>
    match right.fraction? with
    | some (top, bottom) => some (compare (left * bottom) top)
    | none => none

/-- The order of two real numbers: outer `none` for other values, inner `none` for no order. -/
def compareReal? (left right : Value) : Option (Option Ordering) :=
  match left, right with
  | float left _ _, float right _ _ => some (left.compare? right)
  | float left _ _, right =>
    right.integer?.map fun right => (compareIntFloat right left).map Ordering.swap
  | left, float right _ _ => left.integer?.map fun left => compareIntFloat left right
  | left, right => do
    let left ← left.integer?
    let right ← right.integer?
    some (some (compare left right))

/-- A number as its real and imaginary part. -/
def parts? : Value → Option (Value × Value)
  | complex re im _ identity => some (ofFloat re identity, ofFloat im identity)
  | value@(float ..) => some (value, ofInt 0)
  | value@(int ..) => some (value, ofInt 0)
  | value@(bool _) => some (value, ofInt 0)
  | _ => none

/-- Whether two values, compared as numbers, are equal; nothing when one is no number. -/
def equalNumbers? (left right : Value) : Option Bool := do
  let (leftReal, leftImaginary) ← left.parts?
  let (rightReal, rightImaginary) ← right.parts?
  some (compareReal? leftReal rightReal == some (some .eq) &&
    compareReal? leftImaginary rightImaginary == some (some .eq))

/-- The names that a path goes through; a path from the root has the root as its first name. -/
def pathNames (shown : String) : List String :=
  let names := ((Text.splitAt '/' shown.toList).filter fun name => !name.isEmpty).map String.ofList
  let root := String.ofList (shown.toList.takeWhile (· == '/'))
  if root.isEmpty then names.filter (· != ".") else root :: names

/-- Whether two items are one and the same, or equal. -/
def matchItems (equal : Value → Value → Option Bool) (left right : Value) : Option Bool :=
  if left == right then some true else equal left right

/-- Whether two lists have equal items at equal places and nothing behind them. -/
def equalItems (equal : Value → Value → Option Bool) : List Value → List Value → Option Bool
  | left :: lefts, right :: rights => do
    if ← matchItems equal left right then equalItems equal lefts rights else some false
  | lefts, rights => some (lefts.isEmpty && rights.isEmpty)

/-- Whether an item of a list is equal to a value. -/
def hasEqual (equal : Value → Value → Option Bool) (value : Value) : List Value → Option Bool
  | [] => some false
  | item :: items => do
    if ← matchItems equal item value then some true else hasEqual equal value items

/-- Whether every item of a list is equal to one of another list. -/
def allHaveEqual (equal : Value → Value → Option Bool) (others : List Value) :
    List Value → Option Bool
  | [] => some true
  | item :: items => do
    if ← hasEqual equal item others then allHaveEqual equal others items else some false

/-- Whether every key of a list has an equal one with an equal value in another list. -/
def allHaveEqualEntry (equal : Value → Value → Option Bool) (others : List (Value × Value)) :
    List (Value × Value) → Option Bool
  | [] => some true
  | (key, value) :: entries => do
    let same := fun other : Value × Value => matchItems equal other.1 key == some true
    match others.find? same with
    | none => some false
    | some (_, other) =>
      if ← matchItems equal other value then allHaveEqualEntry equal others entries else some false

/-- Whether two values are equal, where no more than `depth` containers are open at a time. -/
def equalWithin? (heap : Heap) : Nat → Value → Value → Option Bool
  | 0, _, _ => none
  | depth + 1, left, right =>
    let equal := equalWithin? heap depth
    match left, right with
    | text left _ _, text right _ _ => some (left == right)
    | path left _, path right _ => some (left == right)
    | range left _, range right _ => some (left.holdsSame right)
    | ref leftIdent, ref rightIdent =>
      match heap.get? leftIdent, heap.get? rightIdent with
      | some (.list left _), some (.list right _) =>
        if left.length == right.length then equalItems equal left right else some false
      | some (.tuple left _), some (.tuple right _) => equalItems equal left right
      | some (.dict left _), some (.dict right _) =>
        if left.length == right.length then allHaveEqualEntry equal right left else some false
      | some (.set _ left _ _), some (.set _ right _ _) =>
        if left.length == right.length then allHaveEqual equal right left else some false
      | some (.buffer left _), some (.buffer right _) => some (left == right)
      | _, _ => some (leftIdent == rightIdent)
    | left, right =>
      match left.bytes? heap, right.bytes? heap with
      | some left, some right => some (left == right)
      | _, _ => some ((equalNumbers? left right).getD (left == right))

/-- Whether two values are equal; nothing when they are nested too deep to tell. -/
def equal? (heap : Heap) (left right : Value) : Option Bool := equalWithin? heap Limit.depth left right

/-- Whether two values are one and the same, or equal: what makes two keys one. -/
def isSameKey (heap : Heap) (left right : Value) : Bool :=
  left == right || equal? heap left right == some true

/-- Why two values have no order. -/
inductive OrderProblem where
  /-- They are nested too deep to tell. -/
  | tooDeep
  /-- Two values have none; they were compared from right to left when `swapped`. -/
  | unordered (left : Value) (right : Value) (swapped : Bool)

/-- The problem of values that were compared from right to left. -/
def OrderProblem.swap : OrderProblem → OrderProblem
  | tooDeep => tooDeep
  | unordered left right swapped => unordered left right !swapped

/-- The order of two lists: that of their first different items, else that of their lengths. -/
def orderItems (equal : Value → Value → Option Bool)
    (order : Value → Value → Except OrderProblem (Option Ordering)) :
    List Value → List Value → Except OrderProblem (Option Ordering)
  | left :: lefts, right :: rights =>
    match matchItems equal left right with
    | none => .error .tooDeep
    | some true => orderItems equal order lefts rights
    | some false => order left right
  | lefts, rights => .ok (some (compare lefts.length rights.length))

/-- The order of two sets by inclusion, which not all sets have. -/
def orderMembers (equal : Value → Value → Option Bool) (lefts rights : List Value) :
    Option (Option Ordering) := do
  if lefts.length ≤ rights.length then
    if ← allHaveEqual equal rights lefts then
      some (some (if lefts.length == rights.length then .eq else .lt))
    else some none
  else if ← allHaveEqual equal lefts rights then some (some .gt)
  else some none

/-- Compare from right to left where only the right one of two types is a special case of the plain type. -/
def orderByType (plain left right : TypeName) (order : Bool → Except OrderProblem (Option Ordering)) :
    Except OrderProblem (Option Ordering) :=
  if left = plain ∧ right ≠ plain then
    match order true with
    | .ok found => .ok (found.map Ordering.swap)
    | .error problem => .error problem.swap
  else order false

/-- The order of two values, where no more than `depth` containers are open at a time. -/
def orderWithin (heap : Heap) : Nat → Value → Value → Except OrderProblem (Option Ordering)
  | 0, _, _ => .error .tooDeep
  | depth + 1, left, right =>
    let equal := equalWithin? heap depth
    let unordered := Except.error (.unordered left right false)
    let items := fun (lefts rights : List Value) (swapped : Bool) =>
      if swapped then orderItems equal (orderWithin heap depth) rights lefts
      else orderItems equal (orderWithin heap depth) lefts rights
    match left, right with
    | text left _ _, text right _ _ => .ok (some (compare left right))
    | path left _, path right _ => .ok (some (compare (pathNames left) (pathNames right)))
    | ref leftIdent, ref rightIdent =>
      match heap.get? leftIdent, heap.get? rightIdent with
      | some (.list lefts left), some (.list rights right) =>
        orderByType ⟨"list"⟩ left right (items lefts rights)
      | some (.tuple lefts left), some (.tuple rights right) =>
        orderByType ⟨"tuple"⟩ left right (items lefts rights)
      | some (.set _ left _ _), some (.set _ right _ _) =>
        match orderMembers equal left right with
        | none => .error .tooDeep
        | some order => .ok order
      | some (.buffer left _), some (.buffer right _) => .ok (some (compare left right))
      | _, _ => unordered
    | left, right =>
      match left.bytes? heap, right.bytes? heap with
      | some left, some right => .ok (some (compare left right))
      | _, _ => (compareReal? left right).elim unordered .ok

/-- The order of two values; the inner one is missing where both are of an ordered kind without one. -/
def order? (heap : Heap) (left right : Value) : Except OrderProblem (Option Ordering) :=
  orderWithin heap Limit.depth left right

/-- Whether a value counts as true. -/
def truthy (heap : Heap) : Value → Bool
  | nothing => false
  | bool value => value
  | int value _ _ => value != 0
  | float value _ _ => !value.isZero
  | complex re im _ _ => !(re.isZero && im.isZero)
  | text value _ _ => !value.isEmpty
  | bytes data _ _ => !data.isEmpty
  | range items _ => items.count != 0
  | ref identity =>
    match heap.get? identity with
    | some (.object ..) | some (.error ..) => true
    | some cell => cell.size != 0
    | none => true
  | _ => true

end Value

namespace Cell

/-- Put a value under a key; an equal key that is there already stays in its place. -/
def putKey (heap : Heap) (items : List (Value × Value)) (key value : Value) : List (Value × Value) :=
  if items.any fun item => Value.isSameKey heap item.1 key then
    items.map fun item => if Value.isSameKey heap item.1 key then (item.1, value) else item
  else items ++ [(key, value)]

/-- A dictionary of keys and values in order; a later equal key only changes the value. -/
def dictOf (heap : Heap) (items : List (Value × Value)) (type : TypeName) : Cell :=
  dict (items.foldl (fun items item => putKey heap items item.1 item.2) []) type

/-- Members of a list in order; of several equal ones the first stays. -/
def distinct (heap : Heap) (members : List Value) : List Value :=
  members.foldl
    (fun members member =>
      if members.any (Value.isSameKey heap member) then members else members ++ [member]) []

end Cell

end LiveConsole
