import LiveConsole.Text.Blank
import LiveConsole.Yaml.Moment

/-!
# Kinds of nodes

A tag says what kind of value a node stands for. A plain scalar without a tag has the kind that its
text looks like, and is a text when it looks like nothing else.
-/
namespace LiveConsole.Yaml

/-- The kind of value that a node stands for. -/
inductive Kind where
  /-- No value. -/
  | null
  /-- A truth value. -/
  | bool
  /-- An integer. -/
  | int
  /-- A floating point number. -/
  | float
  /-- A byte string. -/
  | binary
  /-- A day or a moment. -/
  | timestamp
  /-- Pairs in order, keys distinct. -/
  | omap
  /-- Pairs in order. -/
  | pairs
  /-- A set. -/
  | set
  /-- A text. -/
  | str
  /-- A list. -/
  | seq
  /-- A dictionary. -/
  | map
  /-- The key of a mapping to be merged in. -/
  | merge
  /-- The key of the value that stands for a whole mapping. -/
  | value
  /-- A kind that has no values. -/
  | unknown
  deriving DecidableEq, Repr

namespace Kind

/-- What all standard tags start with. -/
def standardStem : String := "tag:yaml.org,2002:"

/-- The kinds that have standard tags. -/
def standard : List (String × Kind) :=
  [("null", null), ("bool", bool), ("int", int), ("float", float), ("binary", binary),
    ("timestamp", timestamp), ("omap", omap), ("pairs", pairs), ("set", set), ("str", str),
    ("seq", seq), ("map", map), ("merge", merge), ("value", value)]

/-- The kind of a tag. -/
def ofTag (tag : String) : Kind :=
  match Text.afterOpening standardStem.toList tag.toList with
  | none => unknown
  | some name => (standard.lookup (String.ofList name)).getD unknown

/-! ## What a plain scalar looks like -/

/-- The words for truth values, in lower case. -/
def truthWords : List (String × Bool) :=
  [("yes", true), ("no", false), ("true", true), ("false", false), ("on", true), ("off", false)]

/-- The spellings of a lower-case word: lower case, a capital in front, capitals. -/
def spellings (word : String) : List (List Char) :=
  let chars := word.toList
  [chars, (chars.take 1).map Char.toUpper ++ chars.drop 1, chars.map Char.toUpper]

/-- Whether a text is a word for a truth value. -/
def isTruth (chars : List Char) : Bool := truthWords.any fun entry => (spellings entry.1).contains chars

/-- Whether a text is a word for no value. -/
def isNull (chars : List Char) : Bool := chars == ['~'] || (spellings "null").contains chars

/-- A text without a sign in front. -/
def dropSign : List Char → List Char
  | '-' :: rest => rest
  | '+' :: rest => rest
  | chars => chars

/-- Whether a character is a digit below a base of at most ten, or an underscore. -/
def isDigitBelow (base : Nat) (c : Char) : Bool :=
  c == '_' || (c.isDigit && c.toNat - '0'.toNat < base)

/-- Whether a character is a hexadecimal digit or an underscore. -/
def isHexDigit (c : Char) : Bool :=
  c == '_' || c.isDigit || ('a' ≤ c && c ≤ 'f') || ('A' ≤ c && c ≤ 'F')

/-- Whether a text is not empty and all its characters have a property. -/
def someAll (property : Char → Bool) (chars : List Char) : Bool := !chars.isEmpty && chars.all property

/-- Whether a text is a number below sixty with one or two digits. -/
def isSixtieth : List Char → Bool
  | [c] => c.isDigit
  | [high, low] => '0' ≤ high && high ≤ '5' && low.isDigit
  | _ => false

/-- Whether parts are those of a number in base sixty: digits, then one or more numbers below sixty. -/
def areSixtieths : List (List Char) → Bool
  | first :: second :: rest =>
    someAll (isDigitBelow 10) first && first.head?.any Char.isDigit &&
      (second :: rest).all isSixtieth
  | _ => false

/-- Whether a text looks like an integer. -/
def isInt (chars : List Char) : Bool :=
  match dropSign chars with
  | ['0'] => true
  | '0' :: 'b' :: digits => someAll (isDigitBelow 2) digits
  | '0' :: 'x' :: digits => someAll isHexDigit digits
  | '0' :: digits => someAll (isDigitBelow 8) digits
  | unsigned =>
    unsigned.head?.any Char.isDigit &&
      (unsigned.all (isDigitBelow 10) || areSixtieths (Text.splitAt ':' unsigned))

/-- Whether a text is empty or a signed power of ten behind its mark. -/
def isPower : List Char → Bool
  | [] => true
  | mark :: sign :: digits =>
    (mark == 'e' || mark == 'E') && (sign == '-' || sign == '+') && someAll Char.isDigit digits
  | _ => false

/-- Whether a text has digits, a point, and perhaps more digits and a power of ten. -/
def isPointed (chars : List Char) : Bool :=
  let whole := chars.takeWhile (isDigitBelow 10)
  whole.head?.any Char.isDigit &&
    match chars.drop whole.length with
    | '.' :: rest => isPower (rest.dropWhile (isDigitBelow 10))
    | _ => false

/-- Whether a text is a number in base sixty with a point behind it, and perhaps more digits. -/
def isPointedSixtieths (chars : List Char) : Bool :=
  let whole := chars.takeWhile (· != '.')
  areSixtieths (Text.splitAt ':' whole) &&
    match chars.drop whole.length with
    | '.' :: rest => rest.all (isDigitBelow 10)
    | _ => false

/-- Whether a text looks like a floating point number. -/
def isFloat (chars : List Char) : Bool :=
  let unsigned := dropSign chars
  let infinities := ["inf", "Inf", "INF"].map fun word => '.' :: word.toList
  let undefined := ["nan", "NaN", "NAN"].map fun word => '.' :: word.toList
  infinities.contains unsigned || undefined.contains chars || isPointed unsigned ||
    isPointedSixtieths unsigned ||
    match chars with
    | '.' :: c :: rest => c.isDigit && isPower (rest.dropWhile (isDigitBelow 10))
    | _ => false

/-- A text without the line end that may stand at its end. -/
def dropLineEnd (chars : List Char) : List Char :=
  if chars.getLast? = some '\n' then chars.dropLast else chars

/-- The kind of a plain scalar without a tag. -/
def ofPlain (text : String) : Kind :=
  let chars := dropLineEnd text.toList
  if text.isEmpty || isNull chars then null
  else if isTruth chars then bool
  else if isFloat chars then float
  else if isInt chars then int
  else if chars == ['<', '<'] then merge
  else if WrittenMoment.looksRight chars then timestamp
  else if chars == ['='] then value
  else if chars == ['!'] || chars == ['&'] || chars == ['*'] then unknown
  else str

end Kind

end LiveConsole.Yaml
