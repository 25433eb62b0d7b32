import LiveConsole.Text.Blank
import LiveConsole.Text.Identifier

/-!
# Integers in running text

An integer is written with digits of any script, perhaps behind a sign and the mark of its base, with
blanks around it. Single underscores may stand between digits. The number of digits is limited, except
in bases that are powers of two.
-/
namespace LiveConsole.Number

/-- Whether a character is one of the ASCII blanks; the information separators are none. -/
def isSimpleBlank (c : Char) : Bool := c == ' ' || (0x09 ≤ c.toNat && c.toNat ≤ 0x0D)

/-- A text with the digits of all scripts as ASCII digits, and its blanks beyond ASCII as spaces. -/
def simplified (chars : List Char) : List Char :=
  chars.map fun c =>
    if c.toNat < 0x7F then c
    else if Text.isBlank c then ' '
    else
      match Text.digitValue? c with
      | some value => Char.ofNat ('0'.toNat + value)
      | none => c

/-- A text without the blanks around it. -/
def withoutBlanks (chars : List Char) : List Char :=
  Text.dropEndWhile isSimpleBlank (chars.dropWhile isSimpleBlank)

/-- The value of a digit or a letter in a base of at most sixteen. -/
def digitIn? (base : Nat) (c : Char) : Option Nat :=
  let value? :=
    if c.isDigit then some (c.toNat - '0'.toNat)
    else if 'a' ≤ c ∧ c ≤ 'f' then some (c.toNat - 'a'.toNat + 10)
    else if 'A' ≤ c ∧ c ≤ 'F' then some (c.toNat - 'A'.toNat + 10)
    else none
  value?.filter (· < base)

/-- The letter that may stand behind a zero in front of the digits of a base. -/
def baseLetter? (base : Nat) : Option Char := [(2, 'b'), (8, 'o'), (16, 'x')].lookup base

/-- Digits without the zero and letter that may announce their base, and an underscore behind them. -/
def dropBase (base : Nat) : List Char → List Char
  | '0' :: letter :: rest =>
    if baseLetter? base = some letter.toLower then
      match rest with
      | '_' :: rest => rest
      | _ => rest
    else '0' :: letter :: rest
  | chars => chars

/-- Why a text is no integer. -/
inductive Misread where
  /-- It holds something else than digits in their places. -/
  | invalid
  /-- It has too many digits. -/
  | long (digits : Nat)
  deriving DecidableEq, Repr

/-- The greatest number of digits that is read in a base that is no power of two. -/
def longestRead : Nat := 4300

/-- Digits and single underscores between them, from the front of a text: the values of the digits. -/
def leadingDigits (base : Nat) : List Char → Except Misread (List Nat × List Char)
  | [] => .ok ([], [])
  | '_' :: c :: rest =>
    match digitIn? base c with
    | none => .error .invalid
    | some value => (leadingDigits base rest).map fun (values, rest) => (value :: values, rest)
  | c :: rest =>
    match digitIn? base c with
    | none => if c = '_' then .error .invalid else .ok ([], c :: rest)
    | some value => (leadingDigits base rest).map fun (values, rest) => (value :: values, rest)

/-- The natural number that a text spells in a base, with nothing around it. -/
def naturalIn (base : Nat) (chars : List Char) : Except Misread Nat := do
  if chars.head? = some '_' then throw .invalid
  let (values, rest) ← leadingDigits base chars
  if base = 10 ∧ longestRead < values.length then throw (.long values.length)
  if values.isEmpty ∨ !rest.isEmpty then throw .invalid
  return values.foldl (fun number value => number * base + value) 0

/-- The integer that a text spells in a base. -/
def integerIn (base : Nat) (chars : List Char) : Except Misread Int :=
  match withoutBlanks (simplified chars) with
  | '-' :: rest => (naturalIn base (dropBase base rest)).map fun value => -(value : Int)
  | '+' :: rest => (naturalIn base (dropBase base rest)).map Int.ofNat
  | rest => (naturalIn base (dropBase base rest)).map Int.ofNat

end LiveConsole.Number
