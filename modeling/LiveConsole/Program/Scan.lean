import LiveConsole.Fault
import LiveConsole.Program.Literal
import LiveConsole.Text.Identifier
import LiveConsole.Text.Normal

/-!
# Cutting program text into tokens

The scan goes through the text line by line. Outside brackets it compares where each line stands with
where the lines around it stand: tabs go to the next multiple of eight, and the outcome has to be the
same if they count as one blank. Where the text holds no token the scan stops in front of its end. Some
of the reasons to stop are known there and then, others are told only to who asks for the next token.
-/
namespace LiveConsole.Program

open Text

/-- Why a scan stopped in front of the end of the text. -/
inductive Trouble where
  /-- Characters that form no token. -/
  | told
  /-- Something else that is wrong with the text, told to who asks for the next token. -/
  | untold (fault : Fault)
  deriving Repr

namespace Trouble

/-- What is told to who asks for the next token. -/
def fault : Trouble → Fault
  | told => .malformed
  | untold fault => fault

end Trouble

/-- A text cut into tokens. -/
structure Scanned where
  /-- The tokens in order. -/
  tokens : Array Placed
  /-- What stopped the scan in front of the end of the text. -/
  trouble : Option Trouble
  /-- The line of the innermost bracket that was open when the scan stopped. -/
  openLine : Option Nat

/-- Where a line stands. -/
structure Margin where
  /-- With tabs that go to the next multiple of eight. -/
  wide : Nat
  /-- With tabs that count as one blank. -/
  narrow : Nat
  deriving DecidableEq, Repr

/-- Where a scan stands. -/
structure Position where
  /-- The number of the current line. -/
  line : Nat
  /-- The brackets that are open, with their lines, the innermost first. -/
  brackets : List (Char × Nat)
  /-- The places that lines around the current one stand at, the innermost first; the left end is left
  out. -/
  margins : List Margin
  /-- The tokens so far. -/
  tokens : Array Placed

namespace Position

/-- The start of a text. -/
def start : Position := ⟨1, [], [], #[]⟩

/-- A position with one more token, about which something may be odd. -/
def addOdd (position : Position) (token : Token) (oddity : Option String) : Position :=
  { position with
    tokens := position.tokens.push ⟨token, position.line, position.brackets.length, oddity⟩ }

/-- A position with one more token. -/
def add (position : Position) (token : Token) : Position := position.addOdd token none

/-- A scan that stops. -/
def stop (position : Position) (trouble : Option Trouble) : Scanned :=
  ⟨position.tokens, trouble, position.brackets.head?.map (·.2)⟩

/-- A position some lines further. -/
def skip (position : Position) (chars : List Char) : Position :=
  { position with line := position.line + (chars.filter (· == '\n')).length }

end Position

/-- The fault of a line whose place hangs on the width of tabs. -/
def tabbed : Fault := .raised "TabError" ""

/-- The greatest number of brackets that may be open at a time. -/
def maxNesting : Nat := 200

/-- The greatest number of places that lines may stand at, each further right than the one before. -/
def maxMargins : Nat := 99

/-- Whether a character separates tokens within a line. -/
def isGap (c : Char) : Bool := c == ' ' || c == '\t' || c == '\x0c'

/-- What stands in front of the first token of a line: where the line stands, the place that it stood at
when a backslash first went on to the next line, the number of lines, and the rest. -/
structure Leading where
  /-- Where the line stands. -/
  margin : Margin
  /-- The place of the first backslash, or zero. -/
  fixed : Nat
  /-- The number of lines passed. -/
  lines : Nat
  /-- What follows. -/
  rest : List Char

namespace Leading

/-- Where the line stands after all. -/
def settled (leading : Leading) : Margin :=
  if leading.fixed = 0 then leading.margin else ⟨leading.fixed, leading.fixed⟩

end Leading

/-- Go through what stands in front of the first token of a line; nothing when a backslash stands there
for no line end, or in front of the end of the text. -/
def takeLeading (margin : Margin) (fixed lines : Nat) : List Char → Option Leading
  | ' ' :: rest => takeLeading ⟨margin.wide + 1, margin.narrow + 1⟩ fixed lines rest
  | '\t' :: rest => takeLeading ⟨(margin.wide / 8 + 1) * 8, margin.narrow + 1⟩ fixed lines rest
  | '\x0c' :: rest => takeLeading ⟨0, 0⟩ fixed lines rest
  | '\\' :: '\n' :: rest =>
    if rest.isEmpty then none
    else takeLeading margin (if fixed = 0 then margin.wide else fixed) (lines + 1) rest
  | '\\' :: _ => none
  | rest => some ⟨margin, fixed, lines, rest⟩

/-- Where the innermost of some places is; the left end where there is none. -/
def innermost (margins : List Margin) : Margin := margins.headD ⟨0, 0⟩

/-- Compare where a line stands with where the lines before it stand, and add the tokens that tell. -/
def settle (position : Position) (margin : Margin) : Except Fault Position :=
  let current := innermost position.margins
  if margin.wide = current.wide then
    if margin.narrow = current.narrow then .ok position else .error tabbed
  else if current.wide < margin.wide then
    if maxMargins ≤ position.margins.length then .error .indented
    else if margin.narrow ≤ current.narrow then .error tabbed
    else .ok ({ position with margins := margin :: position.margins }.add .indent)
  else
    let left := position.margins.dropWhile fun outer => margin.wide < outer.wide
    if margin.wide ≠ (innermost left).wide then .error .indented
    else if margin.narrow ≠ (innermost left).narrow then .error tabbed
    else
      let back := position.margins.length - left.length
      .ok ((List.replicate back Token.dedent).foldl (fun position token => position.add token)
        { position with margins := left })

/-- The token of a word; names that look alike are one name. -/
def wordToken (word : List Char) : Token :=
  let word := String.ofList word
  if keywords.contains word then .keyword word else .name (normalName word)

/-- Whether characters form a name or a keyword. -/
def isWord : List Char → Bool
  | [] => false
  | c :: rest => startsName c && rest.all continuesName

/-- The closing bracket that belongs to an opening one. -/
def closingOf? (c : Char) : Option Char :=
  if c == '(' then some ')' else if c == '[' then some ']' else if c == '\x7b' then some '\x7d' else none

/-- Whether a character closes a bracket. -/
def isClosing (c : Char) : Bool := c == ')' || c == ']' || c == '\x7d'

/-- Whether an ASCII character is not seen. -/
def isControl (c : Char) : Bool := c.toNat < 0x20 || c.toNat = 0x7F

/-- Add the mark that a text opens with: the position behind it and the rest. -/
def addMark (position : Position) (chars : List Char) : Option (Position × List Char) :=
  let (mark, rest) := takeMark chars
  match chars with
  | [] => none
  | c :: _ =>
    if (closingOf? c).isSome then
      if maxNesting ≤ position.brackets.length then none
      else
        some ({ position with brackets := (c, position.line) :: position.brackets }.add (.mark mark), rest)
    else if isClosing c then
      match position.brackets with
      | [] => none
      | (opening, _) :: outer =>
        if closingOf? opening == some c then some ({ position with brackets := outer }.add (.mark mark), rest)
        else none
    else if isControl c then none
    else some (position.add (.mark mark), rest)

/-- Add the token that a text opens with, blanks and line ends aside: the position behind it and the
rest; nothing when the text opens with none. -/
def addToken (position : Position) (chars : List Char) : Option (Position × List Char) :=
  let word := if opensWithDigit chars then [] else chars.takeWhile mayBelongToWord
  let behind := chars.drop word.length
  match Manner.ofWord? word, behind.head?.any isQuote with
  | some manner, true => do
    let (inside, rest) ← takeInside behind
    some ((position.add (manner.token inside)).skip inside, rest)
  | _, _ =>
    if !word.isEmpty then if isWord word then some (position.add (wordToken word), behind) else none
    else if opensWithDigit chars || (chars.head? == some '.' && opensWithDigit (chars.drop 1)) then do
      let { token, oddity, rest } ← takeNumber chars
      some (position.addOdd token oddity, rest)
    else addMark position chars

/-- The trouble of a backslash that goes on to no line, or of a text that ends inside brackets. -/
def brokenOff : Trouble := .untold .malformed

/-- Go on with a scan at the start of a line or inside of it; the first argument bounds the number of
steps. -/
def scanGo : Nat → Bool → Position → List Char → Scanned
  | 0, _, position, _ => position.stop (some .told)
  | steps + 1, true, position, chars =>
    match takeLeading ⟨0, 0⟩ 0 0 chars with
    | none => position.stop (some brokenOff)
    | some leading =>
      let position := { position with line := position.line + leading.lines }
      let isBlank := leading.rest.head?.any fun c => c == '#' || c == '\n'
      if isBlank then
        match leading.rest.dropWhile (· != '\n') with
        | [] => scanGo steps true position []
        | _ :: rest => scanGo steps true { position with line := position.line + 1 } rest
      else if position.brackets.isEmpty then
        match settle position leading.settled with
        | .error fault => position.stop (some (.untold fault))
        | .ok position => scanGo steps false position leading.rest
      else scanGo steps false position leading.rest
  | steps + 1, false, position, chars =>
    match chars with
    | [] =>
      if position.brackets.isEmpty then (position.add .finish).stop none
      else position.stop (some brokenOff)
    | c :: rest =>
      if isGap c then scanGo steps false position rest
      else if c == '#' then scanGo steps false position (rest.dropWhile (· != '\n'))
      else if c == '\n' then
        let position := if position.brackets.isEmpty then position.add .lineEnd else position
        scanGo steps true { position with line := position.line + 1 } rest
      else if c == '\\' then
        match rest with
        | '\n' :: next :: rest =>
          scanGo steps false { position with line := position.line + 1 } (next :: rest)
        | _ => position.stop (some brokenOff)
      else
        match addToken position chars with
        | some (position, rest) => scanGo steps false position rest
        | none => position.stop (some .told)

/-- A text with every line end written the same way and one behind its last line; a line end of two
characters at its end makes for one more. -/
def lined (text : String) : List Char :=
  let chars := text.toList
  let lines := unifyLineEnds chars
  let isEnded := chars.getLast? == some '\n' || chars.getLast? == some '\r'
  let isDouble := chars.getLast? == some '\n' && chars.dropLast.getLast? == some '\r'
  if isEnded && !isDouble then lines else lines ++ ['\n']

/-- Cut a program text into tokens. -/
def scan (text : String) : Scanned :=
  let chars := lined text
  scanGo (2 * chars.length + 2) true .start chars

end LiveConsole.Program
