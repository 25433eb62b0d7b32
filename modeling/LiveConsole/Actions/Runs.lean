/-!
# Sorting by merging runs

A list is cut into runs that are in order already; short ones are filled up by insertion. Neighbouring runs
are merged two at a time, in an order that keeps them of like sizes, and while one of two runs keeps
winning its items are taken in strides. For a comparison that is an order all this makes no difference to
the outcome; for one that is not, the outcome is whatever comes of these steps.
-/
namespace LiveConsole.Runs

variable {Item : Type} (precedes : Item → Item → Bool)

/-! ## Runs -/

/-- Divide items in front of the first one that precedes the one before it. -/
def rising (previous : Item) : List Item → List Item × List Item
  | [] => ([], [])
  | next :: rest =>
    if precedes next previous then ([], next :: rest)
    else (next :: (rising next rest).1, (rising next rest).2)

/-- Divide items in front of the first one that does not precede the one before it. -/
def falling (previous : Item) : List Item → List Item × List Item
  | [] => ([], [])
  | next :: rest =>
    if precedes next previous then (next :: (falling next rest).1, (falling next rest).2)
    else ([], next :: rest)

/-- The items at the head that are in order already, turned around if they are in reverse order, and those
behind them. -/
def ordered : List Item → List Item × List Item
  | earlier :: later :: rest =>
    if precedes later earlier then
      let (run, behind) := falling precedes later rest
      ((earlier :: later :: run).reverse, behind)
    else
      let (run, behind) := rising precedes later rest
      (earlier :: later :: run, behind)
  | items => (items, [])

/-- The first place between two from which on items are no longer below, found by halving. -/
def halve (isBelow : Nat → Bool) : Nat → Nat → Nat → Nat
  | 0, low, _ => low
  | halvings + 1, low, high =>
    if high ≤ low then low
    else
      let middle := low + (high - low) / 2
      if isBelow middle then halve isBelow halvings (middle + 1) high
      else halve isBelow halvings low middle

/-- Put an item behind all items of a run that it does not precede. -/
def insert (run : List Item) (item : Item) : List Item :=
  let isBelow := fun index => !run[index]?.any (precedes item)
  let count := halve isBelow run.length 0 run.length
  run.take count ++ item :: run.drop count

/-- The length from which on a list is cut into several runs. -/
def manyItems : Nat := 64

/-- The least length of a run of a list of so many items: its highest bits, rounded up. -/
def leastRun : Nat → Nat → Nat → Nat
  | 0, count, carry => count + carry
  | halvings + 1, count, carry =>
    if count < manyItems then count + carry else leastRun halvings (count / 2) (max carry (count % 2))

/-! ## Strides -/

/-- Go away from a place in growing strides as long as `goesOn` holds there, up to a limit: the last
distance where it held, and the next one. -/
def stride (goesOn : Nat → Bool) (limit : Nat) : Nat → Nat → Nat → Nat × Nat
  | 0, last, distance => (last, min distance limit)
  | strides + 1, last, distance =>
    if distance < limit && goesOn distance then stride goesOn limit strides distance (2 * distance + 1)
    else (last, min distance limit)

/-- The number of items that are below, looked for from a place on. -/
def countFrom (isBelow : Item → Bool) (items : Array Item) (place : Nat) : Nat :=
  let isBelow := fun index => items[index]?.any isBelow
  if isBelow place then
    let (last, next) := stride (fun distance => isBelow (place + distance)) (items.size - place) items.size 0 1
    halve isBelow items.size (place + last + 1) (place + next)
  else
    let (last, next) := stride (fun distance => !isBelow (place - distance)) (place + 1) items.size 0 1
    halve isBelow items.size (place + 1 - next) (place - last)

/-! ## Merging two runs -/

/-- Two runs that are being merged, from their heads or, backward, from their ends. -/
structure Merge (Item : Type) where
  /-- Whether the runs are merged from their ends. -/
  backward : Bool
  /-- What is left of the left run, the item to be looked at first. -/
  left : List Item
  /-- What is left of the right run, the item to be looked at first. -/
  right : List Item
  /-- What is merged, the last item first. -/
  merged : List Item
  /-- How often a run has to win before strides are taken. -/
  patience : Nat

namespace Merge

/-- Whether nothing is left to be decided. -/
def isOver (merge : Merge Item) : Bool :=
  if merge.backward then merge.left.isEmpty || merge.right.length ≤ 1
  else merge.right.isEmpty || merge.left.length ≤ 1

/-- Move items from one of the runs. -/
def take (fromLeft : Bool) (count : Nat) (merge : Merge Item) : Merge Item :=
  if fromLeft then
    { merge with
      left := merge.left.drop count, merged := (merge.left.take count).reverse ++ merge.merged }
  else
    { merge with
      right := merge.right.drop count, merged := (merge.right.take count).reverse ++ merge.merged }

/-- The number of items of what is left of a run that come next. -/
def winning (merge : Merge Item) (isBelow : Item → Bool) (items : List Item) : Nat :=
  if merge.backward then items.length - countFrom isBelow items.reverse.toArray (items.length - 1)
  else countFrom isBelow items.toArray 0

/-- The number of items of the left run that come next. -/
def winningLeft (merge : Merge Item) : Nat :=
  match merge.right with
  | [] => 0
  | key :: _ => merge.winning (fun item => !precedes key item) merge.left

/-- The number of items of the right run that come next. -/
def winningRight (merge : Merge Item) : Nat :=
  match merge.left with
  | [] => 0
  | key :: _ => merge.winning (fun item => precedes item key) merge.right

/-- The number of items from which on strides pay. -/
def worthwhile : Nat := 7

/-- Take the items of each run that come next, each time with the item of the other run behind them: the
greater of their numbers. -/
def takeStrides (merge : Merge Item) : Nat × Merge Item :=
  let left := winningLeft precedes merge
  let merge := merge.take true left
  if merge.isOver then (left, merge)
  else
    let merge := merge.take false 1
    if merge.isOver then (left, merge)
    else
      let right := winningRight precedes merge
      let merge := merge.take false right
      if merge.isOver then (max left right, merge) else (max left right, merge.take true 1)

/-- Merge: one by one, given how often each run won in a row, or in strides. -/
def go : Nat → Option (Nat × Nat) → Merge Item → Merge Item
  | 0, _, merge => merge
  | steps + 1, some (wonLeft, wonRight), merge =>
    match merge.left, merge.right with
    | left :: _, right :: _ =>
      if merge.isOver then merge
      else
        let fromLeft := precedes right left == merge.backward
        let merge := merge.take fromLeft 1
        let won := if fromLeft then (wonLeft + 1, 0) else (0, wonRight + 1)
        if merge.isOver then merge
        else if merge.patience ≤ max won.1 won.2 then
          go steps none { merge with patience := merge.patience + 1 }
        else go steps (some won) merge
    | _, _ => merge
  | steps + 1, none, merge =>
    let (won, merge) := takeStrides precedes { merge with patience := max 1 (merge.patience - 1) }
    if merge.isOver then merge
    else if worthwhile ≤ won then go steps none merge
    else go steps (some (0, 0)) { merge with patience := merge.patience + 1 }

/-- The merged run, once nothing is left to be decided. -/
def result (merge : Merge Item) : List Item :=
  if merge.backward then merge.right.reverse ++ merge.left.reverse ++ merge.merged
  else merge.merged.reverse ++ merge.right ++ merge.left

end Merge

/-- Merge two neighbouring runs, where both reach into each other; from the side of the shorter one. -/
def mergeInner (patience : Nat) (left right : List Item) : List Item × Nat :=
  let steps := left.length + right.length + 1
  let merge : Merge Item :=
    if left.length ≤ right.length then (Merge.mk false left right [] patience).take false 1
    else (Merge.mk true left.reverse right.reverse [] patience).take true 1
  let merge := if merge.isOver then merge else merge.go precedes steps (some (0, 0))
  (merge.result, merge.patience)

/-- Merge two neighbouring runs; what is in its place already stays there. -/
def mergeRuns (patience : Nat) (left right : List Item) : List Item × Nat :=
  match right with
  | [] => (left, patience)
  | first :: _ =>
    let stays := countFrom (fun item => !precedes first item) left.toArray 0
    let (before, left) := (left.take stays, left.drop stays)
    match left.getLast? with
    | none => (before ++ right, patience)
    | some last =>
      let count := countFrom (fun item => precedes item last) right.toArray (right.length - 1)
      if count = 0 then (before ++ left ++ right, patience)
      else
        let (merged, patience) := mergeInner precedes patience left (right.take count)
        (before ++ merged ++ right.drop count, patience)

/-! ## Merging all runs -/

/-- A run that waits to be merged. -/
structure Waiting (Item : Type) where
  /-- The number of items in front of the run. -/
  start : Nat
  /-- The run. -/
  items : List Item
  /-- The depth, in a balanced tree over all items, of the boundary to the next run. -/
  depth : Nat

/-- Runs that wait, the last one first, and the patience of their merges. -/
structure Stack (Item : Type) where
  /-- The runs. -/
  runs : List (Waiting Item)
  /-- The patience. -/
  patience : Nat

/-- The depth of the boundary between two runs, by twice the places of their middles among all items. -/
def boundaryDepth (total : Nat) : Nat → Nat → Nat → Nat
  | 0, _, _ => 0
  | levels + 1, left, right =>
    if total ≤ left then boundaryDepth total levels (2 * (left - total)) (2 * (right - total)) + 1
    else if total ≤ right then 1
    else boundaryDepth total levels (2 * left) (2 * right) + 1

namespace Stack

/-- Merge the last two runs. -/
def mergeLast (stack : Stack Item) : Stack Item :=
  match stack.runs with
  | right :: left :: rest =>
    let (items, patience) := mergeRuns precedes stack.patience left.items right.items
    ⟨{ left with items } :: rest, patience⟩
  | _ => stack

/-- Merge the two runs in front of the last one. -/
def mergeInFront (stack : Stack Item) : Stack Item :=
  match stack.runs with
  | last :: rest =>
    let inner := mergeLast precedes ⟨rest, stack.patience⟩
    ⟨last :: inner.runs, inner.patience⟩
  | [] => stack

/-- Merge runs whose boundary lies deeper than a new one. -/
def settle (depth : Nat) : Nat → Stack Item → Stack Item
  | 0, stack => stack
  | count + 1, stack =>
    match stack.runs with
    | _ :: earlier :: _ =>
      if depth < earlier.depth then settle depth count (mergeLast precedes stack) else stack
    | _ => stack

/-- Put a run behind those that wait. -/
def push (total : Nat) (start : Nat) (items : List Item) (stack : Stack Item) : Stack Item :=
  match stack.runs with
  | [] => ⟨[⟨start, items, 0⟩], stack.patience⟩
  | last :: _ =>
    let middle := 2 * last.start + last.items.length
    let depth := boundaryDepth total (2 * total) middle (middle + last.items.length + items.length)
    let stack := settle precedes depth stack.runs.length stack
    match stack.runs with
    | last :: rest => ⟨⟨start, items, 0⟩ :: { last with depth } :: rest, stack.patience⟩
    | [] => stack

/-- Merge all runs that wait. -/
def collapse : Nat → Stack Item → Stack Item
  | 0, stack => stack
  | count + 1, stack =>
    match stack.runs with
    | last :: _ :: before :: _ =>
      if before.items.length < last.items.length then collapse count (mergeInFront precedes stack)
      else collapse count (mergeLast precedes stack)
    | _ => collapse count (mergeLast precedes stack)

end Stack

/-- Cut items into runs and put them where they wait, each of a least length. -/
def cut (total least : Nat) : Nat → Nat → List Item → Stack Item → Stack Item
  | 0, _, _, stack => stack
  | _ + 1, _, [], stack => stack
  | runs + 1, start, items, stack =>
    let (run, behind) := ordered precedes items
    let missing := least - run.length
    let run := (behind.take missing).foldl (insert precedes) run
    cut total least runs (start + run.length) (behind.drop missing) (stack.push precedes total start run)

/-- The items in the order that comes of merging runs. -/
def sort (items : List Item) : List Item :=
  let total := items.length
  let stack := cut precedes total (leastRun total total 0) total 0 items ⟨[], Merge.worthwhile⟩
  ((stack.collapse precedes stack.runs.length).runs.map Waiting.items).flatten

end LiveConsole.Runs
