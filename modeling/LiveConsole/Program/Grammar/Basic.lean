import LiveConsole.Program.Scan

/-!
# Grammars

A grammar is a list of rules. A rule has alternatives, tried in order, and the first one that fits is the
one that counts. An alternative is a row of items, each of which takes tokens from the front of what is
left, or only looks at them. What an alternative gives is no syntax tree, but what later alternatives need
to know of it: whether it can be bound, how many arguments it holds.
-/
namespace LiveConsole.Program.Grammar

/-- A kind of token that an item asks for. -/
inductive Kind where
  /-- A certain token. -/
  | exactly (token : Token)
  /-- Any name. -/
  | anyName
  /-- A certain name. -/
  | softWord (name : String)
  /-- A name that has a meaning of its own in some places. -/
  | anySoftWord
  /-- Any number. -/
  | anyNumber
  /-- Any quoted text. -/
  | anyText
  deriving Repr

namespace Kind

/-- The names that have a meaning of their own in some places. -/
def softWords : List String := ["_", "case", "match"]

/-- Whether a token is of a kind. -/
def fits : Kind → Token → Bool
  | exactly wanted, token => wanted == token
  | anyName, .name _ => true
  | softWord wanted, .name name => wanted == name
  | anySoftWord, .name name => softWords.contains name
  | anyNumber, .number _ => true
  | anyNumber, .fraction => true
  | anyNumber, .imaginary => true
  | anyNumber, .vast => true
  | anyText, .text _ => true
  | anyText, .otherText _ => true
  | anyText, .brokenText => true
  | _, _ => false

end Kind

/-- What something is to be used for. -/
inductive Use where
  /-- It is assigned to. -/
  | assigned
  /-- It is unbound. -/
  | deleted
  /-- A loop binds it. -/
  | looped
  deriving DecidableEq, Repr

/-- What an alternative gives once all of its items fit. -/
inductive Effect where
  /-- Nothing that can be bound. -/
  | other
  /-- What its only part gives. -/
  | same
  /-- A row of what its parts give. -/
  | row
  /-- The part behind a star. -/
  | starred
  /-- Something that can be bound. -/
  | target
  /-- A comparison. -/
  | compared
  /-- A single argument. -/
  | argument
  /-- Quoted texts, which have to be all of one kind. -/
  | texts
  /-- A number that is no multiple of the imaginary unit. -/
  | real
  /-- A multiple of the imaginary unit. -/
  | imaginary
  /-- A mistake. -/
  | wrong
  /-- A mistake in how lines are indented. -/
  | indented
  /-- A mistake, if its last part cannot be used in a way. -/
  | unusable (use : Use)
  /-- A mistake, if its first token names a statement of old. -/
  | statementOfOld
  /-- A mistake inside brackets, unless its first part names a statement of old. -/
  | commaForgotten
  /-- A mistake, if its first part holds more than one argument. -/
  | crowded
  deriving Repr

/-- A row of items with what it gives. -/
structure Alternative (Item : Type) where
  /-- The items. -/
  items : List Item
  /-- What it gives. -/
  effect : Effect
  /-- Whether it is only there to find out what is wrong. -/
  isExplanation : Bool

/-- A part of an alternative. -/
inductive Item where
  /-- A token. -/
  | token (kind : Kind)
  /-- A rule by its number. -/
  | rule (number : Nat)
  /-- The first of some alternatives that fits. -/
  | group (alternatives : List (Alternative Item))
  /-- An item that may be missing. -/
  | optional (item : Item)
  /-- An item as often as it fits; where it has to fit at least once, `needed` holds. -/
  | many (needed : Bool) (item : Item)
  /-- An item at least once, with a separator between each two of it. -/
  | separated (separator : Item) (item : Item)
  /-- A look at what follows, which has to fit, or not to fit. -/
  | ahead (wanted : Bool) (item : Item)
  /-- A token whose absence is a mistake. -/
  | required (kind : Kind)
  /-- From here on, no other alternative is tried. -/
  | commit

/-- A rule. -/
structure Rule where
  /-- Its name. -/
  name : String
  /-- Whether it is kept what it gives at each place. -/
  isKept : Bool
  /-- Whether it may open with itself, to be tried again with what it gave so far. -/
  grows : Bool
  /-- Whether nothing inside of it looks for what is wrong. -/
  isUnexplained : Bool
  /-- Its alternatives. -/
  alternatives : List (Alternative Item)

/-- What a part gives. -/
structure Gift where
  /-- Whether it can be assigned to. -/
  isAssignable : Bool
  /-- Whether it can be unbound. -/
  isDeletable : Bool
  /-- Whether a loop can bind it, or what stands in front of `in` in it. -/
  isLoopable : Bool
  /-- The number of arguments in it. -/
  arguments : Nat
  /-- Whether it is the name of a statement of old. -/
  isOld : Bool

namespace Gift

/-- What cannot be bound. -/
def other : Gift := ⟨false, false, false, 0, false⟩

/-- What can be bound. -/
def target : Gift := ⟨true, true, true, 0, false⟩

/-- The names of the statements of old. -/
def oldNames : List String := ["print", "exec"]

/-- What a name gives. -/
def ofName (name : String) : Gift := { target with isOld := oldNames.contains name }

/-- Two parts in a row. -/
def beside (left right : Gift) : Gift :=
  ⟨left.isAssignable && right.isAssignable, left.isDeletable && right.isDeletable,
    left.isLoopable && right.isLoopable, left.arguments + right.arguments, false⟩

/-- Parts in a row. -/
def inRow (parts : List Gift) : Gift := parts.foldl beside target

/-- Whether something can be used in a way. -/
def isUsable (gift : Gift) : Use → Bool
  | .assigned => gift.isAssignable
  | .deleted => gift.isDeletable
  | .looped => gift.isLoopable

end Gift

end LiveConsole.Program.Grammar
