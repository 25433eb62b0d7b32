import LiveConsole.Program.Grammar.Basic
import LiveConsole.Value.Limit
import Std.Data.HashMap

/-!
# Matching tokens with a grammar

A match starts at a place in a row of tokens and either ends at a place further on, or fails, or stops
altogether: because the next token cannot be had, because a mistake was found, or because rules would be
inside one another deeper than there is room for. What a kept rule gives at a place is worked out once. A
rule that may open with itself is tried again, with what it gave before in place of itself, as long as it
gets further.
-/
namespace LiveConsole.Program.Grammar

/-- Why a match stops altogether. -/
inductive Stop where
  /-- Rules are inside one another too deep. -/
  | noRoom
  /-- There is no next token. -/
  | noToken
  /-- A mistake was found. -/
  | mistake (fault : Fault)
  deriving Repr

/-- What comes of a match. -/
inductive Outcome where
  /-- It ends in front of a token, and gives something or not. -/
  | reached (next : Nat) (gift : Option Gift)
  /-- It fails. -/
  | failed
  /-- It stops altogether. -/
  | stopped (cause : Stop)

/-- What is known after a match: what kept rules gave, and the number of tokens looked at. -/
structure Notes where
  /-- What kept rules gave, by place and rule: where they end and what they give, or that they fail. -/
  kept : Std.HashMap Nat (Option (Nat × Option Gift))
  /-- The number of tokens looked at. -/
  seen : Nat

/-- A match from a place. -/
abbrev Step := Nat → Notes → Outcome × Notes

/-- A part that fits, with the place behind it. -/
structure Part where
  /-- The place behind it. -/
  next : Nat
  /-- What it gives. -/
  gift : Gift

/-- What comes of matching the items of an alternative. -/
inductive Passed where
  /-- All of them fit: the place behind them and the parts, the last one first. -/
  | through (next : Nat) (parts : List Part)
  /-- One of them does not fit, perhaps when no other alternative may be tried any more. -/
  | short (committed : Bool)
  /-- The match stops. -/
  | stopped (cause : Stop)

section Combine

variable (step : Item → Step)

/-- Match items one after another. -/
def inOrder : List Item → List Part → Bool → Nat → Notes → Passed × Notes
  | [], parts, _, place, notes => (.through place parts, notes)
  | .commit :: items, parts, _, place, notes => inOrder items parts true place notes
  | item :: items, parts, committed, place, notes =>
    match step item place notes with
    | (.reached next none, notes) => inOrder items parts committed next notes
    | (.reached next (some gift), notes) => inOrder items (⟨next, gift⟩ :: parts) committed next notes
    | (.failed, notes) => (.short committed, notes)
    | (.stopped cause, notes) => (.stopped cause, notes)

/-- Match the first alternative that fits. -/
def firstOf (conclude : Effect → Nat → Nat → List Part → Outcome) (explaining : Bool) :
    List (Alternative Item) → Step
  | [], _, notes => (.failed, notes)
  | alternative :: others, place, notes =>
    if alternative.isExplanation && !explaining then firstOf conclude explaining others place notes
    else
      match inOrder step alternative.items [] false place notes with
      | (.through next parts, notes) => (conclude alternative.effect place next parts, notes)
      | (.short true, notes) => (.failed, notes)
      | (.short false, notes) => firstOf conclude explaining others place notes
      | (.stopped cause, notes) => (.stopped cause, notes)

end Combine

/-- Match something as often as it fits; the first argument bounds the number of times. -/
def asOften (step : Step) : Nat → List Gift → Step
  | 0, gifts, place, notes => (.reached place (some (.inRow gifts)), notes)
  | rounds + 1, gifts, place, notes =>
    match step place notes with
    | (.reached next gift, notes) => asOften step rounds (gift.toList ++ gifts) next notes
    | (.failed, notes) => (.reached place (some (.inRow gifts)), notes)
    | (.stopped cause, notes) => (.stopped cause, notes)

/-- Try a rule that opens with itself again as long as it gets further than `best`, where what it gives
is kept under a key; the first argument bounds the number of times. -/
def growing (step : Step) (key start : Nat) : Nat → Option (Nat × Option Gift) → Notes → Outcome × Notes
  | 0, _, notes => (.failed, notes)
  | rounds + 1, best, notes =>
    let reached := (best.map (·.1)).getD start
    let settled : Outcome :=
      match best with
      | none => .failed
      | some (next, gift) => .reached next gift
    match step start { notes with kept := notes.kept.insert key best } with
    | (.reached next gift, notes) =>
      if next ≤ reached then (settled, notes) else growing step key start rounds (some (next, gift)) notes
    | (.failed, notes) => (settled, notes)
    | (.stopped cause, notes) => (.stopped cause, notes)

/-- The number of rules that may be inside one another. -/
def greatestLevel : Nat := 6000

section Match

variable (rules : Array Rule) (tokens : Array Placed)

/-- The token at a place. -/
def tokenAt (place : Nat) : Token := (tokens[place]?.map (·.token)).getD .finish

/-- Whether quoted texts are all of one kind and stand for something. -/
def areJoinable (start next : Nat) : Bool :=
  let texts := ((List.range (next - start)).map fun offset => tokenAt tokens (start + offset))
  let isBytes := fun text : Token => text == .otherText true
  !texts.contains .brokenText && (texts.all isBytes || !texts.any isBytes)

/-- What an alternative gives whose items fit: from the place where it starts, the place where it ends
and its parts, the last one first. -/
def conclude (effect : Effect) (start next : Nat) (parts : List Part) : Outcome :=
  let give := fun gift : Gift => Outcome.reached next (some gift)
  let mistakeIf := fun (holds : Bool) => if holds then Outcome.stopped (.mistake .malformed) else .failed
  let last := (parts.head?.map (·.gift)).getD .other
  let first := (parts.getLast?.map (·.gift)).getD .other
  match effect with
  | .other => give .other
  | .same => give last
  | .row => give (.inRow (parts.map (·.gift)))
  | .starred => give ⟨last.isAssignable, false, last.isLoopable, 1, false⟩
  | .target => give .target
  | .compared =>
    let behindFirst := (parts.getLast?.map (·.next)).getD start
    let isMember := tokenAt tokens behindFirst == .keyword "in"
    give { Gift.other with isLoopable := !isMember || first.isLoopable }
  | .argument => give { Gift.other with arguments := 1 }
  | .texts => if areJoinable tokens start next then give .other else .stopped (.mistake .malformed)
  | .real =>
    if tokenAt tokens start == .imaginary then .stopped (.mistake .malformed) else give .other
  | .imaginary =>
    if tokenAt tokens start == .imaginary then give .other else .stopped (.mistake .malformed)
  | .wrong => .stopped (.mistake .malformed)
  | .indented => .stopped (.mistake .indented)
  | .unusable use => mistakeIf (!last.isUsable use)
  | .statementOfOld =>
    match tokenAt tokens start with
    | .name name => mistakeIf (Gift.oldNames.contains name)
    | _ => .failed
  | .commaForgotten =>
    let nesting := (tokens[next - 1]?.map (·.place.nesting)).getD 0
    mistakeIf (!first.isOld && nesting != 0)
  | .crowded => mistakeIf (1 < first.arguments)

/-- Match a single token. -/
def matchToken (kind : Kind) : Step := fun place notes =>
  match tokens[place]? with
  | none => (.stopped .noToken, notes)
  | some { token, .. } =>
    let notes := { notes with seen := max notes.seen (place + 1) }
    if !kind.fits token then (.failed, notes)
    else
      match kind, token with
      | .anyNumber, .vast => (.stopped (.mistake .malformed), notes)
      | _, .name name => (.reached (place + 1) (some (.ofName name)), notes)
      | _, _ => (.reached (place + 1) none, notes)

/-- Go one level deeper, if there is room. -/
def deeper (level : Nat) (step : Nat → Step) : Step := fun place notes =>
  if greatestLevel ≤ level then (.stopped .noRoom, notes) else step (level + 1) place notes

/-- Match a rule whose alternatives are matched by `inside`, and look up or keep what it gives. -/
def matchKept (rule : Rule) (number level : Nat) (inside : Nat → Step) : Step := fun place notes =>
  if tokens.size ≤ place then (.stopped .noToken, notes)
  else
    let notes := { notes with seen := max notes.seen (place + 1) }
    let key := place * rules.size + number
    match notes.kept[key]? with
    | some none => (.failed, notes)
    | some (some (next, gift)) => (.reached next gift, notes)
    | none =>
      if rule.grows then
        growing (deeper level inside) key place (tokens.size + 2) none notes
      else
        match inside level place notes with
        | (.reached next gift, notes) =>
          (.reached next gift, { notes with kept := notes.kept.insert key (some (next, gift)) })
        | (.failed, notes) => (.failed, { notes with kept := notes.kept.insert key none })
        | (.stopped cause, notes) => (.stopped cause, notes)

/-- Match an item at a level; the first argument bounds the number of items inside one another. -/
def matchItem : Nat → Bool → Nat → Item → Step
  | 0, _, _, _ => fun _ notes => (.stopped .noRoom, notes)
  | fuel + 1, explaining, level, item =>
    let rounds := tokens.size + 1
    match item with
    | .token kind => matchToken tokens kind
    | .commit => fun place notes => (.reached place none, notes)
    | .required kind => fun place notes =>
      match matchToken tokens kind place notes with
      | (.failed, notes) => (.stopped (.mistake .malformed), notes)
      | outcome => outcome
    | .ahead wanted item => fun place notes =>
      match matchItem fuel explaining level item place notes with
      | (.reached _ _, notes) => (if wanted then .reached place none else .failed, notes)
      | (.failed, notes) => (if wanted then .failed else .reached place none, notes)
      | (.stopped cause, notes) => (.stopped cause, notes)
    | .optional item => fun place notes =>
      match matchItem fuel explaining level item place notes with
      | (.failed, notes) => (.reached place none, notes)
      | outcome => outcome
    | .group alternatives =>
      deeper level fun level =>
        firstOf (matchItem fuel explaining level) (conclude tokens) explaining alternatives
    | .many false item =>
      deeper level fun level => asOften (matchItem fuel explaining level item) rounds []
    | .many true item =>
      deeper level fun level place notes =>
        match matchItem fuel explaining level item place notes with
        | (.reached next gift, notes) =>
          asOften (matchItem fuel explaining level item) rounds gift.toList next notes
        | outcome => outcome
    | .separated separator item =>
      deeper level fun level place notes =>
        match matchItem fuel explaining level item place notes with
        | (.reached next gift, notes) =>
          let more := deeper level fun level =>
            asOften (fun place notes =>
              match matchItem fuel explaining level separator place notes with
              | (.reached next _, notes) => matchItem fuel explaining level item next notes
              | outcome => outcome) rounds gift.toList
          more next notes
        | outcome => outcome
    | .rule number =>
      match rules[number]? with
      | none => fun _ notes => (.failed, notes)
      | some rule =>
        let explaining := explaining && !rule.isUnexplained
        let inside := fun level =>
          firstOf (matchItem fuel explaining level) (conclude tokens) explaining rule.alternatives
        deeper level fun level =>
          if rule.isKept || rule.grows then matchKept rules tokens rule number level inside
          else inside level

/-- Items that are no rule or group stand inside one another at most this deep. -/
def widestStack : Nat := 4

/-- Match a rule with tokens from their front. -/
def matchFrom (number : Nat) (explaining : Bool) (seen : Nat) : Outcome × Notes :=
  matchItem rules tokens (widestStack * (greatestLevel + 1)) explaining 0 (.rule number) 0 ⟨∅, seen⟩

end Match

end LiveConsole.Program.Grammar
