/-!
# Splitting a shell script

A script is split in two steps. First every character is marked with how quotes shield it, and quotes
and comments are taken out. Then the marks are split at blanks into words and operators. A place where
quotes open is marked too, since quotes around nothing still make a word.
-/
namespace LiveConsole.Shell

/-- How quotes shield a character. -/
inductive Shield where
  /-- Not at all. -/
  | none
  /-- By double quotes: only variables are still replaced. -/
  | double
  /-- Wholly: the character stands for itself. -/
  | full
  deriving DecidableEq, Repr

/-- A part of a script whose quotes are taken out. -/
inductive Mark where
  /-- A character. -/
  | char (c : Char) (shield : Shield)
  /-- A place where quotes open. -/
  | edge
  /-- The end of a script inside quotes. -/
  | unclosed
  deriving DecidableEq, Repr

/-- What the characters of a script stand in. -/
inductive Quoting where
  /-- In no quotes; a word may start here or has started already. -/
  | bare (fresh : Bool)
  /-- In single quotes. -/
  | single
  /-- In double quotes. -/
  | double
  /-- In a comment. -/
  | comment
  deriving DecidableEq, Repr

/-- Whether a character outside quotes ends a word. -/
def endsWord (c : Char) : Bool :=
  c == ' ' || c == '\t' || c == '\n' || c == ';' || c == '&' || c == '|' || c == '<' || c == '>' ||
    c == '(' || c == ')'

/-- Whether a backslash in double quotes shields a character. -/
def isShieldable (c : Char) : Bool := c == '$' || c == Char.ofNat 0x60 || c == '"' || c == '\\'

/-- Mark the characters of a script. -/
def marks : Quoting → List Char → List Mark
  | .bare _, [] => []
  | .comment, [] => []
  | .single, [] => [.unclosed]
  | .double, [] => [.unclosed]
  | .bare _, ['\\'] => [.char '\\' .full]
  | .bare fresh, '\\' :: '\n' :: rest => marks (.bare fresh) rest
  | .bare _, '\\' :: c :: rest => .char c .full :: marks (.bare false) rest
  | .bare fresh, c :: rest =>
    if c = '\'' then .edge :: marks .single rest
    else if c = '"' then .edge :: marks .double rest
    else if c = '#' && fresh then marks .comment rest
    else .char c .none :: marks (.bare (endsWord c)) rest
  | .single, c :: rest =>
    if c = '\'' then marks (.bare false) rest else .char c .full :: marks .single rest
  | .double, '\\' :: '\n' :: rest => marks .double rest
  | .double, '\\' :: c :: rest =>
    if isShieldable c then .char c .full :: marks .double rest
    else .char '\\' .double :: .char c .double :: marks .double rest
  | .double, c :: rest =>
    if c = '"' then marks (.bare false) rest else .char c .double :: marks .double rest
  | .comment, c :: rest =>
    if c = '\n' then .char '\n' .none :: marks (.bare true) rest else marks .comment rest

/-- A word or an operator of a script. -/
inductive Token where
  /-- A word. -/
  | word (marks : List Mark)
  /-- A semicolon. -/
  | semicolon
  /-- A line end. -/
  | lineEnd
  /-- Go on only after success. -/
  | onSuccess
  /-- Go on only after failure. -/
  | onFailure
  /-- Send an output elsewhere: to a file, or where another output goes. -/
  | redirect (descriptor : Nat) (toOutput : Bool)
  /-- An opening parenthesis. -/
  | openRound
  /-- A closing parenthesis. -/
  | closeRound
  /-- An operator that is not understood, or a word that does not end. -/
  | unknown
  deriving DecidableEq, Repr

/-- The word read so far as a token, if one has started. -/
def wordToken : Option (List Mark) → List Token
  | none => []
  | some marks => [.word marks]

/-- The output that a redirection is about: a digit right before it names it. -/
def redirected : Option (List Mark) → List Token × Nat
  | some [.char c .none] =>
    if c.isDigit then ([], c.toNat - '0'.toNat) else ([.word [.char c .none]], 1)
  | word => (wordToken word, 1)

/-- Whether a mark goes on with a word wherever it is met. -/
def Mark.inWord : Mark → Bool
  | .char c .none => !endsWord c
  | .char _ _ => true
  | .edge => true
  | .unclosed => false

/-- Whether a mark makes one operator with the one behind it. -/
def isPair : Mark → Option Mark → Bool
  | .char c .none, next =>
    (c == '&' || c == '|') && next == some (.char c .none) || c == '>' && next == some (.char '&' .none)
  | _, _ => false

/-- The tokens that a mark outside of a word ends, behind the word read so far. -/
def operator (word : Option (List Mark)) (pair : Bool) : Mark → List Token
  | .char c _ =>
    if c = ' ' ∨ c = '\t' then wordToken word
    else if c = ';' then wordToken word ++ [.semicolon]
    else if c = '\n' then wordToken word ++ [.lineEnd]
    else if c = '(' then wordToken word ++ [.openRound]
    else if c = ')' then wordToken word ++ [.closeRound]
    else if c = '>' then
      let (before, descriptor) := redirected word
      before ++ [.redirect descriptor pair]
    else if c = '&' ∧ pair then wordToken word ++ [.onSuccess]
    else if c = '|' ∧ pair then wordToken word ++ [.onFailure]
    else wordToken word ++ [.unknown]
  | _ => wordToken word ++ [.unknown]

/-- Split marks into words and operators, behind the word read so far. -/
def tokens : Option (List Mark) → List Mark → List Token
  | word, [] => wordToken word
  | word, mark :: rest =>
    match mark.inWord, isPair mark rest.head?, rest with
    | true, _, rest => tokens (some (word.getD [] ++ [mark])) rest
    | false, true, _ :: rest => operator word true mark ++ tokens none rest
    | false, _, rest => operator word false mark ++ tokens none rest

/-- The words and operators of a script. -/
def split (script : List Char) : List Token := tokens none (marks (.bare true) script)

end LiveConsole.Shell
