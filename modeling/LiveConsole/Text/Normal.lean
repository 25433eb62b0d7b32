import LiveConsole.Text.Composition
import LiveConsole.Text.Decomposition

/-!
# The normal form of names

Names that look alike are one name: every letter is taken apart into the letters and marks that it
stands for, marks behind a letter are put in the order of their combining classes, and letters are put
together again with the marks behind them. Syllables of Hangul are taken apart and put together by
arithmetic.
-/
namespace LiveConsole.Text

namespace Hangul

/-- The first syllable. -/
def syllableBase : Nat := 0xAC00

/-- What the leading consonants follow. -/
def leadBase : Nat := 0x1100

/-- What the vowels follow. -/
def vowelBase : Nat := 0x1161

/-- What the trailing consonants follow; the base itself stands for none. -/
def trailBase : Nat := 0x11A7

/-- The number of leading consonants. -/
def leadCount : Nat := 19

/-- The number of vowels. -/
def vowelCount : Nat := 21

/-- The number of trailing consonants, none counted as one. -/
def trailCount : Nat := 28

/-- The letters of a syllable, if a code point is one. -/
def decompose? (code : Nat) : Option (List Nat) :=
  let index := code - syllableBase
  if code < syllableBase || leadCount * vowelCount * trailCount ≤ index then none
  else
    let lead := leadBase + index / (vowelCount * trailCount)
    let vowel := vowelBase + index % (vowelCount * trailCount) / trailCount
    let trail := index % trailCount
    some ([lead, vowel] ++ if trail = 0 then [] else [trailBase + trail])

/-- The syllable, whole or so far, that two letters make. -/
def compose? (first second : Nat) : Option Nat :=
  let isLead := leadBase ≤ first && first < leadBase + leadCount
  let isVowel := vowelBase ≤ second && second < vowelBase + vowelCount
  let isTrail := trailBase < second && second < trailBase + trailCount
  let isOpen := syllableBase ≤ first && first < syllableBase + leadCount * vowelCount * trailCount &&
    (first - syllableBase) % trailCount == 0
  if isLead && isVowel then
    some (syllableBase +
      ((first - leadBase) * vowelCount + (second - vowelBase)) * trailCount)
  else if isOpen && isTrail then some (first + (second - trailBase))
  else none

end Hangul

/-- The letters and marks that a code point stands for. -/
def decompose (code : Nat) : List Nat :=
  match Hangul.decompose? code with
  | some letters => letters
  | none => ((CodeRun.find? decompositions code).map fun run => run.imageOf code).getD [code]

/-- The combining class of a code point; that of letters is zero. -/
def combiningClass (code : Nat) : Nat :=
  ((CodeRun.find? combiningRuns code).bind fun run => run.image.head?).getD 0

/-- The letter that a letter and a mark make. -/
def compose? (letter mark : Nat) : Option Nat :=
  (Hangul.compose? letter mark).or
    ((compositions.lookup mark).bind fun runs =>
      (CodeRun.find? runs letter).bind fun run => run.image.head?)

/-- Put a mark in front of the marks of higher classes at the end of reversed text. -/
def insertMark (mark : Nat) : List Nat → List Nat
  | [] => [mark]
  | last :: done =>
    if combiningClass mark < combiningClass last then last :: insertMark mark done
    else mark :: last :: done

/-- Put marks behind each letter into the order of their classes. -/
def orderMarks (codes : List Nat) : List Nat :=
  (codes.foldl
    (fun done code => if combiningClass code = 0 then code :: done else insertMark code done) []).reverse

/-- What composing has come to: what is settled, the last letter, and the marks kept behind it. -/
structure Composing where
  /-- Settled code points, the last one first. -/
  settled : List Nat
  /-- The last letter, which marks may still change. -/
  letter : Option Nat
  /-- Marks that stay behind the last letter, the last one first. -/
  kept : List Nat

namespace Composing

/-- Everything so far, the last code point first. -/
def all (state : Composing) : List Nat := state.kept ++ state.letter.toList ++ state.settled

/--
Take one more code point: it becomes a part of the last letter if nothing stands between them that
shuts it off, namely a mark of the same or a higher class.
-/
def step (state : Composing) (code : Nat) : Composing :=
  let ofClass := combiningClass code
  let open? := state.kept.head?.all fun last => combiningClass last < ofClass
  match (state.letter.filter fun _ => open?).bind (compose? · code) with
  | some letter => { state with letter := some letter }
  | none =>
    if ofClass = 0 then ⟨state.all, some code, []⟩ else { state with kept := code :: state.kept }

end Composing

/-- Put letters together with the marks behind them. -/
def composeAll (codes : List Nat) : List Nat :=
  (codes.foldl Composing.step ⟨[], none, []⟩).all.reverse

/-- The normal form of a name; one of ASCII characters is its own. -/
def normalName (name : String) : String :=
  if name.toList.all fun c => decide (c.toNat < 0x80) then name
  else
    let codes := orderMarks (name.toList.flatMap fun c => decompose c.toNat)
    String.ofList ((composeAll codes).map Char.ofNat)

end LiveConsole.Text
