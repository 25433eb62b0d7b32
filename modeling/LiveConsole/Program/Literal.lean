import LiveConsole.Program.Numeral
import LiveConsole.Text.Codes

/-!
# Quoted texts in program text

A text stands between single or double quotes, one or three at each end. A letter in front of it may say
that backslashes stand for themselves, or that it is quoted bytes, or that it is put together when the
program runs. A text between single quotes ends on the line that it starts on, but for line ends behind
backslashes.
-/
namespace LiveConsole.Program

open Text (Codes)

/-- What the letters in front of a quoted text say. -/
structure Manner where
  /-- Backslashes stand for themselves. -/
  isRaw : Bool
  /-- Bytes are quoted. -/
  isBytes : Bool
  /-- The text is put together when the program runs. -/
  isTemplate : Bool

/-- What a word says of the quoted text right behind it, if it may stand there. -/
def Manner.ofWord? (word : List Char) : Option Manner :=
  match word.map Char.toLower with
  | [] => some ⟨false, false, false⟩
  | ['u'] => some ⟨false, false, false⟩
  | ['r'] => some ⟨true, false, false⟩
  | ['b'] => some ⟨false, true, false⟩
  | ['f'] => some ⟨false, false, true⟩
  | ['b', 'r'] => some ⟨true, true, false⟩
  | ['r', 'b'] => some ⟨true, true, false⟩
  | ['f', 'r'] => some ⟨true, false, true⟩
  | ['r', 'f'] => some ⟨true, false, true⟩
  | _ => none

/-- Whether a character can be a quote. -/
def isQuote (c : Char) : Bool := c == '\'' || c == '"'

/-- The inside of a quoted text up to its closing quote, escapes kept, and what follows. -/
def takeShort (quote : Char) : List Char → Option (List Char × List Char)
  | [] => none
  | '\\' :: c :: rest => (takeShort quote rest).map fun (inside, rest) => ('\\' :: c :: inside, rest)
  | c :: rest =>
    if c = quote then some ([], rest)
    else if c = '\n' then none
    else (takeShort quote rest).map fun (inside, rest) => (c :: inside, rest)

/-- The inside of a quoted text up to its three closing quotes, escapes kept, and what follows. -/
def takeLong (quote : Char) : List Char → Option (List Char × List Char)
  | [] => none
  | '\\' :: c :: rest => (takeLong quote rest).map fun (inside, rest) => ('\\' :: c :: inside, rest)
  | c :: rest =>
    if c = quote && rest.take 2 == [quote, quote] then some ([], rest.drop 2)
    else (takeLong quote rest).map fun (inside, rest) => (c :: inside, rest)

/-- The inside of the quoted text that a text opens with, and what follows. -/
def takeInside : List Char → Option (List Char × List Char)
  | [] => none
  | quote :: rest =>
    if rest.take 2 == [quote, quote] then takeLong quote (rest.drop 2) else takeShort quote rest

/-- What a letter behind a backslash stands for, if it is always the same. -/
def plainEscape? (c : Char) : Option Codes :=
  if c == '\n' then some []
  else if c == '\\' || c == '\'' || c == '"' then some [c.toNat]
  else if c == 'a' then some [7]
  else if c == 'b' then some [8]
  else if c == 't' then some [9]
  else if c == 'n' then some [10]
  else if c == 'v' then some [11]
  else if c == 'f' then some [12]
  else if c == 'r' then some [13]
  else none

/-- The number of digits to the base sixteen that a letter behind a backslash asks for. -/
def wantedDigits? (isBytes : Bool) (c : Char) : Option Nat :=
  if c == 'x' then some 2
  else if isBytes then none
  else if c == 'u' then some 4
  else if c == 'U' then some 8
  else none

/-- The greatest code of a character. -/
def greatestCode : Nat := 0x10FFFF

/-- The codes of a quoted text; nothing when an escape stands for nothing. The first argument bounds the
number of characters. -/
def resolveGo (isBytes : Bool) : Nat → List Char → Option Codes
  | 0, _ => some []
  | _, [] => some []
  | steps + 1, '\\' :: c :: rest =>
    match plainEscape? c, wantedDigits? isBytes c with
    | some codes, _ => (resolveGo isBytes steps rest).map (codes ++ ·)
    | none, some count =>
      let digits := rest.take count
      let code := valueTo 16 digits
      if digits.length < count || !digits.all (isDigitTo 16) || greatestCode < code then none
      else (resolveGo isBytes steps (rest.drop count)).map (code :: ·)
    | none, none =>
      if isDigitTo 8 c then
        let digits := ((c :: rest).take 3).takeWhile (isDigitTo 8)
        (resolveGo isBytes steps ((c :: rest).drop digits.length)).map (valueTo 8 digits :: ·)
      else if c == 'N' && !isBytes then none
      else (resolveGo isBytes steps rest).map fun codes => '\\'.toNat :: c.toNat :: codes
  | steps + 1, c :: rest => (resolveGo isBytes steps rest).map (c.toNat :: ·)

/-- The token of a quoted text. -/
def Manner.token (manner : Manner) (inside : List Char) : Token :=
  if manner.isTemplate then .otherText false
  else if manner.isBytes && inside.any fun c => 0x80 ≤ c.toNat then .brokenText
  else
    let codes? :=
      if manner.isRaw then some (Codes.ofChars inside)
      else resolveGo manner.isBytes inside.length inside
    match codes? with
    | none => .brokenText
    | some codes =>
      if manner.isBytes then .otherText true
      else
        match Codes.text? codes with
        | some text => .text text
        | none => .otherText false

end LiveConsole.Program
