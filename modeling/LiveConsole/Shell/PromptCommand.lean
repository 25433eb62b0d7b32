import LiveConsole.Shell.Quote
import LiveConsole.FileTree.Path

/-!
# The command that reads a line

A line is read by a shell of its own: the shell loads the history file, reads one line with the prompt,
appends it to the history, writes the file back and prints the line. The prompt and the history file
occur in the script as quoted words.
-/
namespace LiveConsole.Shell

/-- The prompt for a line that continues the one before. -/
def continuationPrompt : String := "--> "

/-- The script that reads one line. -/
def promptScript (prompt : String) (history : String) : String :=
  "set -f; " ++
  "history -r " ++ quote history ++ "; " ++
  "LINE=\"\"; " ++
  "read -re -p " ++ quote prompt ++ " LINE; " ++
  "[ $? -eq 0 ] || exit; " ++
  "history -s \"$LINE\"; " ++
  "history -w " ++ quote history ++ "; " ++
  "printf '%s\\n' \"$LINE\"; "

/-- The arguments that run a shell on the script that reads one line. -/
def promptCommand (prompt : String) (history : String) (shell : String) : List String :=
  [shell, "-c", promptScript prompt history]

/-- The variable that names another shell. -/
def shellVariable : String := "LIVE_SHELL_CUSTOM_SHELL"

/-- The shell that is used when nothing else is named. -/
def usualShell : String := "/bin/bash"

/-- The fault of a shell that is not a readable file. -/
def invalidShell (shell : String) : Fault :=
  .configuration
    ("The shell binary '" ++ shell ++ "' is not valid. You can override the shell to be used through the "
      ++ shellVariable ++ " environment variable.")
    (some shellVariable)

/-- The shell to use: the one given, else the one that the environment names, else the usual one. -/
def chooseShell (environment : Environment) (given : Option String) : String :=
  match given.filter (fun name => !name.isEmpty) with
  | some name => name
  | none => (environment.nonempty? shellVariable).getD usualShell

/-- The shell to use, provided that it is a readable file. -/
def findShell (environment : Environment) (tree : FileTree) (directory : Location)
    (given : Option String) : Except Fault String :=
  let shell := chooseShell environment given
  if tree.isFile directory shell && tree.isReadable directory shell then .ok shell
  else .error (invalidShell shell)

end LiveConsole.Shell
