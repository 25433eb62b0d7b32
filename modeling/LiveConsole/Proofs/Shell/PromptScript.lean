import LiveConsole.Proofs.Shell.Words
import LiveConsole.Shell.PromptCommand
import LiveConsole.Shell.Run

/-!
# The script that reads a line

Whatever the prompt and the path of the history file are, the script that reads a line is one line of nine
commands, in which each of them is one word. The words follow one form, in which the prompt has one place and the
path has two. Whatever stands in these places fills one word each and touches no other, so both texts can be read
back from the arguments that the shell is run with.
-/
namespace LiveConsole.Shell

/-! ## Commands -/

/-- The marks of characters outside quotes. -/
def bare (text : String) : List Mark := text.toList.map (.char · .none)

/-- The marks of characters between double quotes. -/
def inDouble (text : String) : List Mark := .edge :: text.toList.map (.char · .double)

/-- The marks of characters between single quotes. -/
def inSingle (text : String) : List Mark := .edge :: text.toList.map (.char · .full)

/-- The marks of a text that is written as one word. -/
def asWord (text : String) : List Mark := wordMarks text.toList

/-- The command that loads the history file. -/
def loadCommand (history : String) : Command :=
  .simple [bare "history", bare "-r", asWord history] []

/-- The command that reads a line with a prompt. -/
def readCommandOf (prompt : String) : Command :=
  .simple [bare "read", bare "-re", bare "-p", asWord prompt, bare "LINE"] []

/-- The command that appends the line to the history. -/
def appendCommand : Command := .simple [bare "history", bare "-s", inDouble "$LINE"] []

/-- The command that writes the history file. -/
def writeCommand (history : String) : Command :=
  .simple [bare "history", bare "-w", asWord history] []

/-- The commands of the script that reads a line. -/
def promptSteps (prompt history : String) : Steps :=
  [(.always, .simple [bare "set", bare "-f"] []),
    (.always, loadCommand history),
    (.always, .simple [bare "LINE=" ++ inDouble ""] []),
    (.always, readCommandOf prompt),
    (.always, .simple [bare "[", bare "$?", bare "-eq", bare "0", bare "]"] []),
    (.onFailure, .simple [bare "exit"] []),
    (.always, appendCommand),
    (.always, writeCommand history),
    (.always, .simple [bare "printf", inSingle "%s\\n", inDouble "$LINE"] [])]

/-- The marks of the script that reads a line. -/
def promptMarks (prompt history : String) : List Mark :=
  bare "set -f; history -r " ++ (asWord history ++
    (bare "; LINE=" ++ inDouble "" ++ bare "; read -re -p " ++ (asWord prompt ++
      (bare " LINE; [ $? -eq 0 ] || exit; history -s " ++ inDouble "$LINE" ++ bare "; history -w " ++
        (asWord history ++
          (bare "; printf " ++ inSingle "%s\\n" ++ bare " " ++ inDouble "$LINE" ++ bare "; "))))))

/-- The tokens of the script that reads a line. -/
def promptTokens (prompt history : String) : List Token :=
  [.word (bare "set"), .word (bare "-f"), .semicolon,
    .word (bare "history"), .word (bare "-r"), .word (asWord history), .semicolon,
    .word (bare "LINE=" ++ inDouble ""), .semicolon,
    .word (bare "read"), .word (bare "-re"), .word (bare "-p"), .word (asWord prompt),
    .word (bare "LINE"), .semicolon,
    .word (bare "["), .word (bare "$?"), .word (bare "-eq"), .word (bare "0"), .word (bare "]"),
    .onFailure, .word (bare "exit"), .semicolon,
    .word (bare "history"), .word (bare "-s"), .word (inDouble "$LINE"), .semicolon,
    .word (bare "history"), .word (bare "-w"), .word (asWord history), .semicolon,
    .word (bare "printf"), .word (inSingle "%s\\n"), .word (inDouble "$LINE"), .semicolon]

/-- The characters of the script, with the texts that are quoted in it set off. -/
theorem toList_promptScript (prompt history : String) :
    (promptScript prompt history).toList =
      "set -f; ".toList ++ ("history -r ".toList ++ (quoteChars history.toList ++ ("; ".toList ++
        ("LINE=\"\"; ".toList ++ ("read -re -p ".toList ++ (quoteChars prompt.toList ++
          (" LINE; ".toList ++ ("[ $? -eq 0 ] || exit; ".toList ++ ("history -s \"$LINE\"; ".toList ++
            ("history -w ".toList ++ (quoteChars history.toList ++ ("; ".toList ++
              "printf '%s\\n' \"$LINE\"; ".toList)))))))))))) := by
  have pieces (a b c d e f g h i j k : String) (path asked : List Char) :
      (a ++ b ++ String.ofList path ++ c ++ d ++ e ++ String.ofList asked ++ f ++ g ++ h ++ i ++
          String.ofList path ++ j ++ k).toList =
        a.toList ++ (b.toList ++ (path ++ (c.toList ++ (d.toList ++ (e.toList ++ (asked ++
          (f.toList ++ (g.toList ++ (h.toList ++ (i.toList ++ (path ++ (j.toList ++
            k.toList)))))))))))) := by
    simp only [String.toList_append, String.toList_ofList, List.append_assoc]
  exact pieces _ _ _ _ _ _ _ _ _ _ _ (quoteChars history.toList) (quoteChars prompt.toList)

set_option maxRecDepth 2000 in
/-- What is written between the quoted texts is marked on its own, whatever is behind it. -/
theorem marks_promptScript (prompt history : String) :
    marks (.bare true) (promptScript prompt history).toList = promptMarks prompt history := by
  have front (rest : List Char) : marks (.bare true) ("set -f; ".toList ++ ("history -r ".toList ++ rest)) =
      bare "set -f; history -r " ++ marks (.bare true) rest := rfl
  have middle (rest : List Char) : marks (.bare false)
        ("; ".toList ++ ("LINE=\"\"; ".toList ++ ("read -re -p ".toList ++ rest))) =
      bare "; LINE=" ++ inDouble "" ++ bare "; read -re -p " ++ marks (.bare true) rest := rfl
  have behind (rest : List Char) : marks (.bare false)
        (" LINE; ".toList ++ ("[ $? -eq 0 ] || exit; ".toList ++ ("history -s \"$LINE\"; ".toList ++
          ("history -w ".toList ++ rest)))) =
      bare " LINE; [ $? -eq 0 ] || exit; history -s " ++ inDouble "$LINE" ++ bare "; history -w " ++
        marks (.bare true) rest := rfl
  have last : marks (.bare false) ("; ".toList ++ "printf '%s\\n' \"$LINE\"; ".toList) =
      bare "; printf " ++ inSingle "%s\\n" ++ bare " " ++ inDouble "$LINE" ++ bare "; " := rfl
  rw [toList_promptScript, front, marks_quoteChars, middle, marks_quoteChars, behind, marks_quoteChars, last]
  rfl

set_option maxRecDepth 2000 in
/-- What is marked between the quoted texts is split on its own, whatever is behind it. -/
theorem tokens_promptMarks (prompt history : String) :
    tokens none (promptMarks prompt history) = promptTokens prompt history := by
  have front (rest : List Mark) : tokens none (bare "set -f; history -r " ++ rest) =
      [.word (bare "set"), .word (bare "-f"), .semicolon, .word (bare "history"), .word (bare "-r")] ++
        tokens none rest := rfl
  have middle (word : List Mark) (rest : List Mark) :
      tokens (some word) (bare "; LINE=" ++ inDouble "" ++ bare "; read -re -p " ++ rest) =
        [.word word, .semicolon, .word (bare "LINE=" ++ inDouble ""), .semicolon,
          .word (bare "read"), .word (bare "-re"), .word (bare "-p")] ++ tokens none rest := rfl
  have behind (word : List Mark) (rest : List Mark) :
      tokens (some word) (bare " LINE; [ $? -eq 0 ] || exit; history -s " ++ inDouble "$LINE" ++
          bare "; history -w " ++ rest) =
        [.word word, .word (bare "LINE"), .semicolon,
          .word (bare "["), .word (bare "$?"), .word (bare "-eq"), .word (bare "0"), .word (bare "]"),
          .onFailure, .word (bare "exit"), .semicolon,
          .word (bare "history"), .word (bare "-s"), .word (inDouble "$LINE"), .semicolon,
          .word (bare "history"), .word (bare "-w")] ++ tokens none rest := rfl
  have last (word : List Mark) :
      tokens (some word) (bare "; printf " ++ inSingle "%s\\n" ++ bare " " ++ inDouble "$LINE" ++
          bare "; ") =
        [.word word, .semicolon,
          .word (bare "printf"), .word (inSingle "%s\\n"), .word (inDouble "$LINE"), .semicolon] := rfl
  rw [promptMarks, asWord, asWord, front, tokens_wordMarks, middle, tokens_wordMarks, behind,
    tokens_wordMarks, last]
  rfl

/-- Splitting the script gives its tokens. -/
theorem split_promptScript (prompt history : String) :
    split (promptScript prompt history).toList = promptTokens prompt history := by
  rw [split, marks_promptScript, tokens_promptMarks]

set_option maxRecDepth 10000 in
/-- The script that reads a line is one line of nine commands. -/
theorem ofText_promptScript (prompt history : String) :
    Script.ofText (promptScript prompt history).toList = ⟨[promptSteps prompt history], true⟩ := by
  rw [Script.ofText, split_promptScript]
  rfl

/-! ## Words -/

/-- A word of a script, its quotes taken out. -/
inductive Word where
  /-- A text in which no variable starts. -/
  | literal (text : String)
  /-- Marks with a variable in them. -/
  | replaced (marks : List Mark)
  deriving DecidableEq, Repr

/-- What marks spell. -/
def Word.ofMarks (inner : List Mark) : Word :=
  if ∀ mark ∈ inner, mark.IsLiteral then .literal (String.ofList (inner.flatMap Mark.chars))
  else .replaced inner

/-- The words that a word becomes: a text is one word, which nothing splits further. -/
def Word.expand (scope : Scope) : Word → List Bytes
  | .literal text => [ofText text]
  | .replaced inner => Shell.expand scope inner

/-- The commands of a script and their words, if it can be read to its end and its commands are made of
words alone. -/
def Script.words? (script : Script) : Option (List (Condition × List (List Mark))) :=
  if script.whole then
    script.lines.flatten.mapM fun
      | (condition, .simple words []) => some (condition, words)
      | _ => none
  else none

/-- The commands of the script that a shell is run on. -/
def commandsOf? : List String → Option (List (Condition × List (List Mark)))
  | [_, "-c", script] => (Script.ofText script.toList).words?
  | _ => none

/-! ## The form of the script -/

/-- A place of a word. -/
inductive Slot where
  /-- A word that is always the same. -/
  | fixed (word : Word)
  /-- The place of the prompt. -/
  | prompt
  /-- A place of the path of the history file. -/
  | history
  deriving DecidableEq, Repr

/-- The word that fills a place. -/
def Slot.fill (prompt history : String) : Slot → Word
  | .fixed word => word
  | .prompt => .literal prompt
  | .history => .literal history

/-- Places of words that are always the same. -/
def fixedWords (texts : List String) : List Slot := texts.map fun text => .fixed (.literal text)

/-- The commands of the script that reads a line, with the places of the prompt and of the path. -/
def promptForm : List (Condition × List Slot) :=
  let line := Slot.fixed (.replaced (inDouble "$LINE"))
  [(.always, fixedWords ["set", "-f"]),
    (.always, fixedWords ["history", "-r"] ++ [.history]),
    (.always, fixedWords ["LINE="]),
    (.always, fixedWords ["read", "-re", "-p"] ++ [.prompt] ++ fixedWords ["LINE"]),
    (.always, fixedWords ["["] ++ [.fixed (.replaced (bare "$?"))] ++ fixedWords ["-eq", "0", "]"]),
    (.onFailure, fixedWords ["exit"]),
    (.always, fixedWords ["history", "-s"] ++ [line]),
    (.always, fixedWords ["history", "-w"] ++ [.history]),
    (.always, fixedWords ["printf", "%s\\n"] ++ [line])]

/-- The text behind given words at the start of a command. -/
def textBehind? (opening : List String) (command : List Word) : Option String :=
  match command.drop opening.length with
  | .literal text :: _ => if command.take opening.length = opening.map .literal then some text else none
  | _ => none

/-- The prompt and the path of the history file in the arguments that run a shell: what the command that
reads a line asks with, and what the commands that load and write a file agree on. -/
def recovered? (arguments : List String) : Option (String × String) := do
  let commands ← commandsOf? arguments
  let words := commands.map fun command => command.2.map Word.ofMarks
  let prompt ← words.findSome? (textBehind? ["read", "-re", "-p"])
  let loaded ← words.findSome? (textBehind? ["history", "-r"])
  let written ← words.findSome? (textBehind? ["history", "-w"])
  if loaded = written then some (prompt, loaded) else none

/-! ## Words -/

/-- A text that is written as one word spells that text. -/
theorem ofMarks_asWord (text : String) : Word.ofMarks (asWord text) = .literal text := by
  rw [Word.ofMarks, asWord, if_pos (isLiteral_wordMarks text.toList), flatMap_chars_wordMarks,
    String.ofList_toList]

/-- Marks become the words that they spell. -/
theorem expand_ofMarks {inner : List Mark} (present : inner ≠ []) (scope : Scope) :
    expand scope inner = (Word.ofMarks inner).expand scope := by
  rw [Word.ofMarks]
  split
  · rename_i literal
    rw [expand_literal literal present, flatMap_ownBytes, Word.expand, ofText, String.toList_ofList]
  · rfl

/-- The words of the script, with the marks that they are made of. -/
def promptWords (prompt history : String) : List (Condition × List (List Mark)) :=
  [(.always, [bare "set", bare "-f"]),
    (.always, [bare "history", bare "-r", asWord history]),
    (.always, [bare "LINE=" ++ inDouble ""]),
    (.always, [bare "read", bare "-re", bare "-p", asWord prompt, bare "LINE"]),
    (.always, [bare "[", bare "$?", bare "-eq", bare "0", bare "]"]),
    (.onFailure, [bare "exit"]),
    (.always, [bare "history", bare "-s", inDouble "$LINE"]),
    (.always, [bare "history", bare "-w", asWord history]),
    (.always, [bare "printf", inSingle "%s\\n", inDouble "$LINE"])]

/-- Splitting the script gives these words. -/
theorem commandsOf?_promptCommand (prompt history shell : String) :
    commandsOf? (promptCommand prompt history shell) = some (promptWords prompt history) := by
  rw [promptCommand, commandsOf?, ofText_promptScript]
  rfl

/-- The words fill the places of the form. -/
theorem map_ofMarks_promptWords (prompt history : String) :
    (promptWords prompt history).map (fun command => (command.1, command.2.map Word.ofMarks)) =
      promptForm.map (fun command => (command.1, command.2.map (Slot.fill prompt history))) := by
  simp only [promptWords, List.map_cons, List.map_nil, ofMarks_asWord]
  rfl

/-- No word of the script is without marks. -/
theorem ne_nil_of_mem_promptWords {prompt history : String}
    {command : Condition × List (List Mark)} (member : command ∈ promptWords prompt history)
    {word : List Mark} (inside : word ∈ command.2) : word ≠ [] := by
  have present : ∀ command ∈ promptWords prompt history, ∀ word ∈ command.2, word ≠ [] := by
    simp [promptWords, bare, inDouble, inSingle, asWord, wordMarks_ne_nil]
  exact present command member word inside

/-- The prompt and the path of the history file cannot change the script that they stand in. Its words have
one form, in which the prompt fills one place and the path two; every word becomes what it spells, so these
stay single words; and both texts can be read back from the arguments that the shell is run with. -/
theorem promptCommand_keeps_form (prompt history shell : String) :
    (∃ commands, commandsOf? (promptCommand prompt history shell) = some commands ∧
      commands.map (fun command => (command.1, command.2.map Word.ofMarks)) =
        promptForm.map (fun command => (command.1, command.2.map (Slot.fill prompt history))) ∧
      ∀ command ∈ commands, ∀ word ∈ command.2, ∀ scope,
        expand scope word = (Word.ofMarks word).expand scope) ∧
    recovered? (promptCommand prompt history shell) = some (prompt, history) := by
  refine ⟨⟨_, commandsOf?_promptCommand prompt history shell, map_ofMarks_promptWords prompt history,
    ?_⟩, ?_⟩
  · intro command member word inside scope
    exact expand_ofMarks (ne_nil_of_mem_promptWords member inside) scope
  · have spelled := congrArg (List.map Prod.snd) (map_ofMarks_promptWords prompt history)
    rw [List.map_map, List.map_map] at spelled
    have words : (promptWords prompt history).map (fun command => command.2.map Word.ofMarks) =
        promptForm.map fun command => command.2.map (Slot.fill prompt history) := spelled
    rw [recovered?, commandsOf?_promptCommand]
    simp only [Option.bind_eq_bind, Option.bind_some, words]
    have same : (some history).bind (fun written =>
      if history = written then some (prompt, history) else none) = some (prompt, history) := by simp
    exact same

end LiveConsole.Shell
