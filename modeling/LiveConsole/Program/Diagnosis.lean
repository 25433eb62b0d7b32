import LiveConsole.Program.Grammar.Match
import LiveConsole.Program.Grammar.Rules

/-!
# What is wrong with a text that is no program

Tokens are matched with the grammar of programs, and once more, if they do not fit, to find out what is
wrong. A mistake that is found so far gives way to trouble in the rest of the text: to characters that
form no token, and to a bracket on an earlier line that is left open.
-/
namespace LiveConsole.Program

open Grammar

/-- What is found out about a text. -/
structure Diagnosis where
  /-- The fault, unless the text is a program. -/
  fault : Option Fault
  /-- The number of tokens that were looked at. -/
  seen : Nat

namespace Scanned

/-- The fault that is told to who asks for a token behind the last one. -/
def endFault (scanned : Scanned) : Fault := (scanned.trouble.map Trouble.fault).getD .malformed

/-- A mistake that is found before the rest of the text is looked at, by one who has seen some tokens. -/
def afterAll (scanned : Scanned) (mistake : Fault) (seen : Nat) : Diagnosis :=
  let lineSeen := (scanned.tokens[seen - 1]?.map (·.place.line)).getD 1
  let fault :=
    match scanned.trouble with
    | none => mistake
    | some .told => .malformed
    | some (.untold _) => if scanned.openLine.any (· < lineSeen) then .malformed else mistake
  ⟨some fault, scanned.tokens.size⟩

/-- What comes of a match that stopped. -/
def stoppedAt (scanned : Scanned) (cause : Stop) (seen : Nat) : Diagnosis :=
  match cause with
  | .noRoom => ⟨some Limit.noRoom, seen⟩
  | .noToken => ⟨some scanned.endFault, seen⟩
  | .mistake fault => scanned.afterAll fault seen

/-- The fault of a text that ends up in front of a token for no reason that has a name. -/
def unexplained (scanned : Scanned) (seen : Nat) (seenInAll : Nat) : Diagnosis :=
  let last := tokenAt scanned.tokens (seen - 1)
  if last == .indent || last == .dedent then ⟨some .indented, seenInAll⟩
  else scanned.afterAll .malformed seenInAll

/-- Find out what is wrong with tokens. -/
def diagnose (scanned : Scanned) : Diagnosis :=
  match matchFrom programRules scanned.tokens programRule false 0 with
  | (.reached _ _, notes) => ⟨none, notes.seen⟩
  | (.stopped cause, notes) => scanned.stoppedAt cause notes.seen
  | (.failed, first) =>
    match matchFrom programRules scanned.tokens programRule true first.seen with
    | (.stopped cause, notes) => scanned.stoppedAt cause notes.seen
    | (_, notes) => scanned.unexplained first.seen notes.seen

/-- Whether a token is a sign or `not`, which may stand in front of another one. -/
def isSign (token : Placed) : Bool :=
  token.token == .mark "-" || token.token == .mark "+" || token.token == .keyword "not"

/-- The number of rules that a bracket can make for. -/
def rulesInBracket : Nat := 60

/-- Whether rules may be inside one another deeper than there is room for, as far as the numbers of signs
and of open brackets tell. -/
def mayBeTooDeep (scanned : Scanned) : Bool :=
  let signs := (scanned.tokens.toList.filter isSign).length
  let nesting := scanned.tokens.foldl (fun most token => max most token.place.nesting) 0
  greatestLevel ≤ signs + rulesInBracket * (nesting + 1)

end Scanned

end LiveConsole.Program
