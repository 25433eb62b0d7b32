import LiveConsole.Shell.PromptCommand

/-!
# Reading logical lines

A logical line is put together from the texts of successive runs of the command that reads a line. A
text that ends in a backslash continues in the next run; the backslash is dropped. A run that fails or
gives nothing ends the line, and a line of which nothing could be read is the word `exit`.
-/
namespace LiveConsole.Reader

open Text

/-- The line that leaves the loop. -/
def exitWord : String := "exit"

/-- A text without the line feeds at its end. -/
def dropLineFeeds (text : List Char) : List Char := dropEndWhile (· == '\n') text

/-- A text without its last character, when that is a backslash. -/
def withoutContinuation? (text : List Char) : Option (List Char) :=
  match text.reverse with
  | '\\' :: rest => some rest.reverse
  | _ => none

/-- The line read so far; nothing at all is the word that leaves the loop. -/
def finished : Option (List Char) → String
  | none => exitWord
  | some chars => String.ofList chars

/-- Where the texts come from: given a prompt, the text of one run, or nothing when it failed. -/
abbrev Source (State : Type) := String → State → Option String × State

variable {State : Type}

/-- Read on after the line so far; the runs of a line are bounded, `none` means that they ran out. -/
def readOn (source : Source State) (prompt : String) :
    Nat → Option (List Char) → State → Option String × State
  | 0, _, state => (none, state)
  | runs + 1, soFar, state =>
    let (text, state) := source (if soFar.isSome then Shell.continuationPrompt else prompt) state
    match text with
    | none => (some (finished soFar), state)
    | some text =>
      if text.isEmpty then (some (finished soFar), state)
      else
        let chars := dropLineFeeds text.toList
        match withoutContinuation? chars with
        | none => (some (finished (some (soFar.getD [] ++ chars))), state)
        | some chars => readOn source prompt runs (some (soFar.getD [] ++ chars)) state

/-- Read one logical line. -/
def readLine (source : Source State) (prompt : String) (runs : Nat) (state : State) :
    Option String × State :=
  readOn source prompt runs none state

/-- A line, unless the runs that were allowed for it ran out. -/
def orUnfinished : Option String → Except Fault String
  | some line => .ok line
  | none => .error .unfinished

/-- The texts of runs still to come; when they are used up every run fails. -/
abbrev Chunks := List (Option String)

/-- Take the text of one run. -/
def nextChunk : Source Chunks := fun _ chunks =>
  match chunks with
  | [] => (none, [])
  | chunk :: rest => (chunk, rest)

end LiveConsole.Reader
