import LiveConsole.Program.Token
import LiveConsole.Value.Limit

/-!
# Numbers in program text

A number is written with decimal digits, with or without a fraction and an exponent, or to another base
behind a zero and a letter. Single underscores may stand between digits. A number ends where a character
follows that no name goes on with; a few words may follow at once, but that is odd.
-/
namespace LiveConsole.Program

/-- A number read from the front of a text. -/
structure Numeral where
  /-- The number. -/
  token : Token
  /-- What is odd about it, if anything. -/
  oddity : Option String
  /-- What follows it. -/
  rest : List Char

/-- The value of a character as a digit to a base of at most sixteen. -/
def digitTo? (base : Nat) (c : Char) : Option Nat :=
  let value? :=
    if c.isDigit then some (c.toNat - '0'.toNat)
    else if 'a' ≤ c && c ≤ 'f' then some (c.toNat - 'a'.toNat + 10)
    else if 'A' ≤ c && c ≤ 'F' then some (c.toNat - 'A'.toNat + 10)
    else none
  value?.filter (· < base)

/-- Whether a character is a digit to a base. -/
def isDigitTo (base : Nat) (c : Char) : Bool := (digitTo? base c).isSome

/-- The value of digits to a base. -/
def valueTo (base : Nat) (digits : List Char) : Nat :=
  digits.foldl (fun value c => value * base + (digitTo? base c).getD 0) 0

/-- The longest run of digits at the front of a text, which single underscores may stand in front of;
nothing when an underscore stands in front of no digit. -/
def takeDigits (base : Nat) : List Char → Option (List Char × List Char)
  | [] => some ([], [])
  | '_' :: rest =>
    match rest with
    | [] => none
    | c :: rest =>
      if isDigitTo base c then (takeDigits base rest).map fun (digits, rest) => (c :: digits, rest)
      else none
  | c :: rest =>
    if isDigitTo base c then (takeDigits base rest).map fun (digits, rest) => (c :: digits, rest)
    else some ([], c :: rest)

/-- The words that may stand right behind a number. -/
def wordsBehindNumbers : List (List Char) :=
  ["and", "else", "for", "if", "in", "is", "not", "or"].map String.toList

/-- Whether a character may belong to a word: beyond ASCII, any character may. -/
def mayBelongToWord (c : Char) : Bool := c.isAlphanum || c == '_' || 0x80 ≤ c.toNat

/-- A number of a kind in front of a text, unless it cannot end there. -/
def endNumber (kind : String) (token : Token) (rest : List Char) : Option Numeral :=
  if wordsBehindNumbers.any (·.isPrefixOf rest) then some ⟨token, some s!"invalid {kind} literal", rest⟩
  else if rest.head?.any mayBelongToWord then none
  else some ⟨token, none, rest⟩

/-- The bases that a letter behind a zero stands for, with their names. -/
def baseOf? (c : Char) : Option (Nat × String) :=
  if c == 'x' || c == 'X' then some (16, "hexadecimal")
  else if c == 'o' || c == 'O' then some (8, "octal")
  else if c == 'b' || c == 'B' then some (2, "binary")
  else none

/-- Whether a text opens with a decimal digit. -/
def opensWithDigit (chars : List Char) : Bool := chars.head?.any Char.isDigit

/-- The exponent at the front of a text: whether there is one, and what follows. Behind a sign there have
to be digits. -/
def takeExponent (chars : List Char) : Option (Bool × List Char) :=
  match chars with
  | [] => some (false, chars)
  | c :: rest =>
    if c != 'e' && c != 'E' then some (false, chars)
    else
      let isSigned := rest.head?.any fun c => c == '+' || c == '-'
      let digits := if isSigned then rest.drop 1 else rest
      if opensWithDigit digits then (takeDigits 10 digits).map fun (_, rest) => (true, rest)
      else if isSigned then none
      else some (false, chars)

/-- The token of decimal digits. -/
def integerToken (digits : List Char) : Token :=
  if Limit.digits < digits.length && digits.any (· != '0') then .vast else .number (valueTo 10 digits)

/-- The fraction at the front of a text: whether there is a point, and what follows. -/
def takeFraction (chars : List Char) : Option (Bool × List Char) :=
  match chars with
  | '.' :: digits =>
    if opensWithDigit digits then (takeDigits 10 digits).map fun (_, rest) => (true, rest)
    else some (true, digits)
  | _ => some (false, chars)

/-- A number to the base ten in front of a text, its digits in front of a point known. An integer other than
zero may not open with a zero, unless it is the start of a number with an exponent that does not follow. -/
def endDecimal (whole : List Char) (hasPoint hasExponent : Bool) (rest : List Char) : Option Numeral :=
  let isPadded := whole.head? == some '0' && whole.any (· != '0')
  match rest with
  | 'j' :: rest => endNumber "imaginary" .imaginary rest
  | 'J' :: rest => endNumber "imaginary" .imaginary rest
  | 'e' :: _ =>
    endNumber "decimal" (if hasPoint || isPadded then .fraction else integerToken whole) rest
  | _ =>
    if hasPoint || hasExponent then endNumber "decimal" .fraction rest
    else if isPadded then none
    else endNumber "decimal" (integerToken whole) rest

/-- A number to the base ten. -/
def takeDecimal (chars : List Char) : Option Numeral := do
  let (whole, rest) ← takeDigits 10 chars
  let (hasPoint, rest) ← takeFraction rest
  let (hasExponent, rest) ← takeExponent rest
  endDecimal whole hasPoint hasExponent rest

/-- The number that a text opens with, if that is one. -/
def takeNumber (chars : List Char) : Option Numeral :=
  match chars with
  | '0' :: letter :: rest =>
    match baseOf? letter with
    | none => takeDecimal chars
    | some (base, kind) => do
      let (digits, rest) ← takeDigits base rest
      if digits.isEmpty || opensWithDigit rest then none
      else endNumber kind (.number (valueTo base digits)) rest
  | _ => takeDecimal chars

end LiveConsole.Program
