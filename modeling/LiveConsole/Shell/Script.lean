import LiveConsole.Shell.Token

/-!
# Shell scripts

A script is read line by line. A line is a list of commands, each with the condition under which it
runs: always, or only after the command before it succeeded or failed. A command is made of words and
redirections, or it is a group of commands, or the definition of a function. Groups may go over several
lines. What stands in front of a line that cannot be read is still a script.
-/
namespace LiveConsole.Shell

/-- When a command runs. -/
inductive Condition where
  /-- Always. -/
  | always
  /-- After success. -/
  | onSuccess
  /-- After failure. -/
  | onFailure
  deriving DecidableEq, Repr

/-- Where an output is sent. -/
structure Redirection where
  /-- The output. -/
  descriptor : Nat
  /-- Whether the target names another output rather than a file. -/
  toOutput : Bool
  /-- The target. -/
  target : List Mark
  deriving DecidableEq, Repr

/-- A command. -/
inductive Command where
  /-- Words: assignments, the name of the command, its arguments. -/
  | simple (words : List (List Mark)) (redirections : List Redirection)
  /-- Commands run together; an isolated group changes nothing of the shell that it stands in. -/
  | group (isolated : Bool) (body : List (Condition × Command)) (redirections : List Redirection)
  /-- The definition of a function. -/
  | define (name : String) (body : Command)
  deriving Repr, Inhabited

/-- Commands with their conditions. -/
abbrev Steps := List (Condition × Command)

/-- A word without quotes, as a text. -/
def plainWord? (word : List Mark) : Option String :=
  String.ofList <$> word.mapM fun
    | .char c .none => some c
    | _ => none

/-- Words that open constructions and cannot name a command. -/
def reservedWords : List String :=
  ["!", "[[", "case", "coproc", "do", "done", "elif", "else", "esac", "fi", "for", "function", "if",
    "in", "select", "then", "time", "until", "while", "\x7b", "\x7d"]

/-- Where a list of commands ends. -/
inductive Closer where
  /-- At the end of a line. -/
  | lineEnd
  /-- At a closing brace. -/
  | brace
  /-- At a closing parenthesis. -/
  | round
  deriving DecidableEq, Repr

/-- Whether a token is a word without quotes of a given text. -/
def Token.isPlain (text : String) : Token → Bool
  | .word marks => plainWord? marks == some text
  | _ => false

/-- Whether a token closes a list of commands. -/
def Closer.isAt : Closer → Token → Bool
  | lineEnd, token => token == .lineEnd
  | brace, token => token.isPlain "\x7d"
  | round, token => token == .closeRound

/-- Drop the line ends in front. -/
def dropLineEnds : List Token → List Token
  | .lineEnd :: rest => dropLineEnds rest
  | rest => rest

/-- Read the words and redirections of a command, up to what ends it. -/
def readWords : List (List Mark) → List Redirection → List Token → Command × List Token
  | words, redirections, .word word :: rest => readWords (words ++ [word]) redirections rest
  | words, redirections, .redirect descriptor toOutput :: .word target :: rest =>
    readWords words (redirections ++ [⟨descriptor, toOutput, target⟩]) rest
  | words, redirections, rest => (.simple words redirections, rest)

/-- Read the redirections behind a group. -/
def readRedirections : List Token → List Redirection × List Token
  | .redirect descriptor toOutput :: .word target :: rest =>
    let (more, rest) := readRedirections rest
    (⟨descriptor, toOutput, target⟩ :: more, rest)
  | rest => ([], rest)

mutual

/-- Read commands up to what closes the list, which is read too. -/
def readSteps (closer : Closer) : Nat → Condition → List Token → Option (Steps × List Token)
  | 0, _, _ => none
  | fuel + 1, condition, tokens =>
    let tokens := if closer = .lineEnd ∧ condition = .always then tokens else dropLineEnds tokens
    match tokens with
    | [] => if closer = .lineEnd ∧ condition = .always then some ([], []) else none
    | token :: rest =>
      if closer.isAt token && condition == .always then some ([], rest)
      else do
        let (command, rest) ← readCommand fuel tokens
        let onward := fun (condition : Condition) (rest : List Token) => do
          let (steps, rest) ← readSteps closer fuel condition rest
          some (steps, rest)
        let (steps, rest) ←
          match rest with
          | .semicolon :: rest => onward .always rest
          | .onSuccess :: rest => onward .onSuccess rest
          | .onFailure :: rest => onward .onFailure rest
          | rest => onward .always rest
        some ((condition, command) :: steps, rest)

/-- Read one command, behind which the list goes on or closes. -/
def readCommand : Nat → List Token → Option (Command × List Token)
  | 0, _ => none
  | fuel + 1, tokens => do
    let grouped := fun (isolated : Bool) (rest : List Token) => do
      let (body, rest) ← readSteps (if isolated then .round else .brace) fuel .always rest
      if body.isEmpty then none
      let (redirections, rest) := readRedirections rest
      some (Command.group isolated body redirections, rest)
    let compound := fun rest : List Token =>
      match dropLineEnds rest with
      | .openRound :: rest => grouped true rest
      | token :: rest => if token.isPlain "\x7b" then grouped false rest else none
      | [] => none
    let defining := fun (name : String) (rest : List Token) => do
      let (body, rest) ← compound rest
      some (Command.define name body, rest)
    let (command, rest) ←
      match tokens with
      | .openRound :: rest => grouped true rest
      | .word name :: .openRound :: .closeRound :: rest => defining (← plainWord? name) rest
      | .word word :: rest =>
        match plainWord? word, rest with
        | some "\x7b", rest => grouped false rest
        | some "function", .word name :: .openRound :: .closeRound :: rest => do
          defining (← plainWord? name) rest
        | some "function", .word name :: rest => do defining (← plainWord? name) rest
        | text, _ => if text.any reservedWords.contains then none else some (readWords [] [] tokens)
      | .redirect .. :: .word _ :: _ => some (readWords [] [] tokens)
      | _ => none
    let goesOn :=
      match command, rest with
      | _, [] => true
      | _, .semicolon :: _ | _, .lineEnd :: _ | _, .onSuccess :: _ | _, .onFailure :: _ => true
      | _, .closeRound :: _ => true
      | .simple .., _ => false
      | _, token :: _ => token.isPlain "\x7d"
    if goesOn then some (command, rest) else none

end

/-- A script: the commands of the lines that can be read, and whether those are all. -/
structure Script where
  /-- The commands of each line. -/
  lines : List Steps
  /-- Whether every line can be read. -/
  whole : Bool
  deriving Repr

/-- Read lines in order up to the first one that cannot be read. -/
def readLines : Nat → List Token → Script
  | 0, _ => ⟨[], false⟩
  | _, [] => ⟨[], true⟩
  | fuel + 1, tokens =>
    match readSteps .lineEnd (2 * tokens.length + 2) .always tokens with
    | none => ⟨[], false⟩
    | some (steps, rest) =>
      let more := readLines fuel rest
      { more with lines := steps :: more.lines }

/-- Read a script. -/
def Script.ofText (text : List Char) : Script :=
  let tokens := split text
  readLines (tokens.length + 1) tokens

end LiveConsole.Shell
