import LiveConsole.Shell.Token

/-!
# Words become bytes

A shell works on bytes. A word is expanded when its command runs: variables are replaced by their
values, and where no quotes stand around them the values are split at blanks.
-/
namespace LiveConsole.Shell

/-- A text of a shell. -/
abbrev Bytes := List UInt8

/-- The bytes of characters in UTF-8. -/
def encode (chars : List Char) : Bytes := chars.flatMap String.utf8EncodeChar

/-- The bytes of a text. -/
def ofText (text : String) : Bytes := encode text.toList

/-- Whether a byte separates the words of a value. -/
def isSeparator (byte : UInt8) : Bool := byte == 0x20 || byte == 0x09 || byte == 0x0A

/-- A byte string without separators at its ends. -/
def trimSeparators (bytes : Bytes) : Bytes :=
  ((bytes.dropWhile isSeparator).reverse.dropWhile isSeparator).reverse

/-- A part of an expanded word. -/
inductive Part where
  /-- Bytes; even none of them make a word. -/
  | bytes (bytes : Bytes)
  /-- A place where the word is split. -/
  | gap
  /-- No word, unless other parts make one. -/
  | absent
  deriving DecidableEq, Repr

/-- A value, split at blanks. -/
def splitValue : Bytes → List Part
  | [] => []
  | byte :: rest => (if isSeparator byte then .gap else .bytes [byte]) :: splitValue rest

/-- What words are expanded with. -/
structure Scope where
  /-- The values of variables; one that is not set is empty. -/
  value : String → Bytes
  /-- The arguments. -/
  arguments : List Bytes

/-- All arguments: each a word of its own, or split at blanks too, or in one word. -/
def expandArguments (scope : Scope) (shield : Shield) (apart : Bool) : List Part :=
  match shield with
  | .none => ((scope.arguments.map splitValue).intersperse [.gap]).flatten
  | _ =>
    if apart && scope.arguments.isEmpty then [.absent]
    else if apart then (scope.arguments.map Part.bytes).intersperse .gap
    else [.bytes (scope.arguments.intersperse [0x20]).flatten]

/-- What a variable becomes, depending on the quotes around it. -/
def expandVariable (scope : Scope) (shield : Shield) (name : List Char) : List Part :=
  match name with
  | [] => [.bytes (encode ['$'])]
  | ['@'] => expandArguments scope shield true
  | ['*'] => expandArguments scope shield false
  | name =>
    match shield with
    | .none => splitValue (scope.value (String.ofList name))
    | _ => [.bytes (scope.value (String.ofList name))]

/-- Whether a character goes on with the name of a variable. -/
def continuesName (soFar : List Char) (c : Char) : Bool :=
  if soFar.isEmpty then c.isAlpha || c == '_'
  else (c.isAlphanum || c == '_') && !(soFar.headD 'a').isDigit

/-- Whether a character is the whole name of a variable. -/
def isShortName (c : Char) : Bool := c.isDigit || c == '?' || c == '$' || c == '#' || c == '@' || c == '*'

/-- Expand the marks of a word, in the midst of the name of a variable or not. -/
def expandMarks (scope : Scope) : Option (Shield × List Char) → List Mark → List Part
  | none, [] => []
  | some (shield, name), [] => expandVariable scope shield name
  | none, .unclosed :: rest => expandMarks scope none rest
  | some (shield, name), .unclosed :: rest =>
    expandVariable scope shield name ++ expandMarks scope none rest
  | none, .edge :: rest => .bytes [] :: expandMarks scope none rest
  | some (shield, name), .edge :: rest =>
    expandVariable scope shield name ++ .bytes [] :: expandMarks scope none rest
  | none, .char c shield :: rest =>
    if c = '$' ∧ shield ≠ .full then expandMarks scope (some (shield, [])) rest
    else .bytes (encode [c]) :: expandMarks scope none rest
  | some (outer, name), .char c shield :: rest =>
    if shield = outer ∧ continuesName name c then expandMarks scope (some (outer, name ++ [c])) rest
    else if shield = outer ∧ name = [] ∧ isShortName c then
      expandVariable scope outer [c] ++ expandMarks scope none rest
    else
      expandVariable scope outer name ++
        if c = '$' ∧ shield ≠ .full then expandMarks scope (some (shield, [])) rest
        else .bytes (encode [c]) :: expandMarks scope none rest

/-- Put parts together, splitting at the gaps. -/
def joinParts : Option Bytes → List Part → List Bytes
  | none, [] => []
  | some word, [] => [word]
  | none, .gap :: rest => joinParts none rest
  | some word, .gap :: rest => word :: joinParts none rest
  | some [], .absent :: rest => joinParts none rest
  | word, .absent :: rest => joinParts word rest
  | word, .bytes bytes :: rest => joinParts (some (word.getD [] ++ bytes)) rest

/-- The words that a word becomes. -/
def expand (scope : Scope) (word : List Mark) : List Bytes :=
  joinParts none (expandMarks scope none word)

/-- The bytes that a word becomes where it is not split. -/
def expandWhole (scope : Scope) (word : List Mark) : Bytes :=
  (expandMarks scope none (word.map fun
    | .char c .none => .char c .double
    | mark => mark)).flatMap fun
    | .bytes bytes => bytes
    | .gap => [0x20]
    | .absent => []

/-- The name and the value of an assignment. -/
def assignment? (word : List Mark) : Option (String × List Mark) :=
  let isNamePart := fun mark : Mark =>
    match mark with
    | .char c .none => c.isAlphanum || c == '_'
    | _ => false
  let name := (word.takeWhile isNamePart).filterMap fun
    | .char c _ => some c
    | _ => none
  match name, word.dropWhile isNamePart with
  | first :: name, .char '=' .none :: value =>
    if first.isDigit then none else some (String.ofList (first :: name), value)
  | _, _ => none

end LiveConsole.Shell
