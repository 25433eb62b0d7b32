import LiveConsole.Actions.Runs
import LiveConsole.Number.Binary64

/-!
# Actions

An action is a name that the host fires at certain moments of its life. Callbacks are registered under
the name and called when it fires, those of lower priority first and among equal ones those registered
earlier. How often an action fired is counted, and a firing counts from the moment it starts.
-/
namespace LiveConsole

/-- The rank of a callback among those of its action. -/
inductive Priority where
  /-- Before all others. -/
  | first
  /-- The fraction `numerator / 2 ^ halvings`. -/
  | exact (numerator : Int) (halvings : Nat)
  /-- After all others. -/
  | last
  /-- The floating point value that is no number: the same as itself, and neither before nor after
  any other rank. -/
  | undefined
  deriving DecidableEq, Repr

namespace Priority

/-- The rank of a callback that is registered without one. -/
def usual : Priority := exact 10 0

/-- A whole number as a rank. -/
def ofInt (value : Int) : Priority := exact value 0

/-- A floating point number as a rank. -/
def ofBinary64 : Number.Binary64 → Priority
  | .undefined => undefined
  | .infinite negative => if negative then first else last
  | .finite negative significand exponent =>
    let value : Int := if negative then -(significand : Int) else significand
    if 0 ≤ exponent then exact (value * Nat.pow 2 exponent.toNat) 0 else exact value (-exponent).toNat

/-- The order of two ranks, if they have one. -/
def order? : Priority → Priority → Option Ordering
  | undefined, undefined => some .eq
  | undefined, _ => none
  | _, undefined => none
  | first, first => some .eq
  | first, _ => some .lt
  | _, first => some .gt
  | last, last => some .eq
  | last, _ => some .gt
  | _, last => some .lt
  | exact left leftHalvings, exact right rightHalvings =>
    some (compare (left * Nat.pow 2 rightHalvings) (right * Nat.pow 2 leftHalvings))

end Priority

/-- A callback registered under the name of an action. -/
structure Registration (Callback : Type) where
  /-- The name of the action. -/
  action : String
  /-- The rank of the callback. -/
  priority : Priority
  /-- How many callbacks were registered before, for any action. -/
  sequence : Nat
  /-- What is called. -/
  callback : Callback

namespace Registration

variable {Callback : Type}

/-- Whether a callback is called before another one: by rank, then by registration. -/
def precedes (left right : Registration Callback) : Bool :=
  match Priority.order? left.priority right.priority with
  | some .lt => true
  | some .eq => left.sequence < right.sequence
  | _ => false

/-- Callbacks in the order in which they are called. Among ranks that have an order the way of sorting
makes no difference. -/
def inOrder (registrations : List (Registration Callback)) : List (Registration Callback) :=
  if registrations.any fun registration => registration.priority = .undefined then
    Runs.sort precedes registrations
  else registrations.mergeSort fun left right => !precedes right left

end Registration

/-- The callbacks registered so far, and how often each action fired. -/
structure Actions (Callback : Type) where
  /-- All callbacks, in the order of registration. -/
  registrations : List (Registration Callback)
  /-- The number of firings started, by the name of the action; a name not listed has not fired. -/
  counts : List (String × Nat)

namespace Actions

variable {Callback : Type}

/-- No callbacks, and nothing fired. -/
def empty : Actions Callback := ⟨[], []⟩

/-- Register a callback under the name of an action. -/
def add (actions : Actions Callback) (name : String) (callback : Callback) (priority : Priority) :
    Actions Callback :=
  { actions with
    registrations :=
      actions.registrations ++ [⟨name, priority, actions.registrations.length, callback⟩] }

/-- How often an action fired, the firings under way included. -/
def count (actions : Actions Callback) (name : String) : Nat :=
  (actions.counts.lookup name).getD 0

/-- Count one more firing of an action. -/
def begin (actions : Actions Callback) (name : String) : Actions Callback :=
  { actions with
    counts := (name, actions.count name + 1) :: actions.counts.filter fun entry => entry.1 ≠ name }

/-- The callbacks of an action in the order in which a firing calls them. -/
def called (actions : Actions Callback) (name : String) : List (Registration Callback) :=
  Registration.inOrder (actions.registrations.filter fun registration => registration.action = name)

/-! ## Counts and registrations -/

variable (actions : Actions Callback)

/-- A new callback stands behind all others, and its number is the number of those. -/
@[simp]
theorem registrations_add (added : String) (callback : Callback) (priority : Priority) :
    (actions.add added callback priority).registrations =
      actions.registrations ++ [⟨added, priority, actions.registrations.length, callback⟩] :=
  rfl

/-- Counting a firing registers nothing. -/
@[simp]
theorem registrations_begin (name : String) : (actions.begin name).registrations = actions.registrations :=
  rfl

/-- A lookup is not affected by entries with another key. -/
theorem lookup_filter_ne {Value : Type} (entries : List (String × Value)) {name other : String}
    (different : other ≠ name) :
    (entries.filter fun entry => entry.1 ≠ name).lookup other = entries.lookup other := by
  induction entries with
  | nil => rfl
  | cons entry rest ih =>
    obtain ⟨key, value⟩ := entry
    by_cases same : key = name
    · have apart : (other == key) = false := by simpa [same] using different
      rw [List.lookup_cons, apart, List.filter_cons_of_neg (by simpa using same), ih]
    · rw [List.filter_cons_of_pos (by simpa using same), List.lookup_cons, List.lookup_cons, ih]

/-- Counting a firing raises the count of its own name by one, and no other. -/
theorem count_begin (name other : String) :
    (actions.begin name).count other = actions.count other + if other = name then 1 else 0 := by
  by_cases same : other = name
  · simp [count, begin, same]
  · have apart : (other == name) = false := by simpa using same
    rw [if_neg same, count, begin, List.lookup_cons, apart, lookup_filter_ne _ same]
    rfl

/-- A callback that is alone under a name is what a firing calls. -/
theorem called_of_single {name : String} {registration : Registration Callback}
    (single : actions.registrations.filter (fun registration => registration.action = name) = [registration])
    (defined : registration.priority ≠ .undefined) : actions.called name = [registration] := by
  rw [called, single, Registration.inOrder, List.any_cons, List.any_nil, Bool.or_false,
    if_neg (by simpa using defined), List.mergeSort_singleton]

/-- Where no callback is registered under a name, a firing calls none. -/
theorem called_of_none {name : String}
    (none : actions.registrations.filter (fun registration => registration.action = name) = []) :
    actions.called name = [] := by
  rw [called, none, Registration.inOrder, List.any_nil, if_neg (by decide), List.mergeSort_nil]

end Actions

end LiveConsole
