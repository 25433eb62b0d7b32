import LiveConsole.Shell.Bytes

/-!
# The history of a shell

A shell keeps the lines entered in a list. The list is loaded from a file and written back to it. In a
file every entry ends with a line feed; loading drops empty lines, a carriage return at the end of a
line, a zero byte and what follows it in a line, and what stands behind the last line feed. A line of a
number sign and a digit is a time stamp when the file starts with one; time stamps are no entries.
-/
namespace LiveConsole.Shell.HistoryList

/-- The lines of a file that end with a line feed, behind what was read of a line. -/
def linesFrom : Bytes → Bytes → List Bytes
  | _, [] => []
  | line, byte :: rest =>
    if byte = 0x0A then line :: linesFrom [] rest else linesFrom (line ++ [byte]) rest

/-- A line without the carriage return at its end. -/
def dropReturn (line : Bytes) : Bytes :=
  match line.reverse with
  | 0x0D :: rest => rest.reverse
  | _ => line

/-- The text of a line: what stands before a carriage return at its end, up to a zero byte. -/
def textOfLine (line : Bytes) : Bytes := (dropReturn line).takeWhile (· ≠ 0)

/-- Whether a text starts as a time stamp does. -/
def startsStamp : Bytes → Bool
  | 0x23 :: digit :: _ => 0x30 ≤ digit && digit ≤ 0x39
  | _ => false

/-- The entries that a file holds. -/
def load (file : Bytes) : List Bytes :=
  ((linesFrom [] file).map textOfLine).filter fun line =>
    !line.isEmpty && !(startsStamp file && startsStamp line)

/-- The file that holds entries. -/
def write (entries : List Bytes) : Bytes := entries.flatMap fun entry => entry ++ [0x0A]

/-- The letters of the options of the command that adds an entry, but for the one with an argument. -/
def optionLetters : List UInt8 := encode "acnpsrw".toList

/-- The letters of which at most one kind may be given. -/
def fileLetters : List UInt8 := encode "arwn".toList

/-- The letters that options are made of; `d` takes what follows as its argument. -/
def readOptions : Bytes → Option Bytes
  | [] => some []
  | letter :: rest =>
    if letter = 0x64 then if rest.isEmpty then none else some []
    else if optionLetters.contains letter then (readOptions rest).map (letter :: ·)
    else none

/-- What came of adding an entry. -/
structure Pushed where
  /-- The entries. -/
  entries : List Bytes
  /-- The status: failure where options are not understood or do not go together. -/
  status : Nat
  deriving DecidableEq, Repr

/-- Add an entry; one that starts with a dash is taken for options, of which `c` clears the list. -/
def push (entries : List Bytes) (line : Bytes) : Pushed :=
  match line with
  | [0x2D, 0x2D] => ⟨entries, 0⟩
  | 0x2D :: letter :: letters =>
    match readOptions (letter :: letters) with
    | none => ⟨entries, 2⟩
    | some options =>
      let files := fileLetters.filter options.contains
      if 1 < files.length then ⟨entries, 1⟩
      else ⟨if options.contains 0x63 then [] else entries, 0⟩
  | _ => ⟨entries ++ [line], 0⟩

/-- The option that asks for help. -/
def helpOption : Bytes := encode "--help".toList

/-- How the command of the history is used. -/
def help : String :=
  "history: history [-c] [-d offset] [n] or history -anrw [filename] or history -ps arg [arg...]\n" ++
  "    Display or manipulate the history list.\n" ++
  "    \n" ++
  "    Display the history list with line numbers, prefixing each modified\n" ++
  "    entry with a " ++ String.singleton (Char.ofNat 0x60) ++
    "*'.  An argument of N lists only the last N entries.\n" ++
  "    \n" ++
  "    Options:\n" ++
  "      -c\tclear the history list by deleting all of the entries\n" ++
  "      -d offset\tdelete the history entry at position OFFSET. Negative\n" ++
  "    \t\toffsets count back from the end of the history list\n" ++
  "    \n" ++
  "      -a\tappend history lines from this session to the history file\n" ++
  "      -n\tread all history lines not already read from the history file\n" ++
  "    \t\tand append them to the history list\n" ++
  "      -r\tread the history file and append the contents to the history\n" ++
  "    \t\tlist\n" ++
  "      -w\twrite the current history to the history file\n" ++
  "    \n" ++
  "      -p\tperform history expansion on each ARG and display the result\n" ++
  "    \t\twithout storing it in the history list\n" ++
  "      -s\tappend the ARGs to the history list as a single entry\n" ++
  "    \n" ++
  "    If FILENAME is given, it is used as the history file.  Otherwise,\n" ++
  "    if HISTFILE has a value, that is used, else ~/.bash_history.\n" ++
  "    \n" ++
  "    If the HISTTIMEFORMAT variable is set and not null, its value is used\n" ++
  "    as a format string for strftime(3) to print the time stamp associated\n" ++
  "    with each displayed history entry.  No time stamps are printed otherwise.\n" ++
  "    \n" ++
  "    Exit Status:\n" ++
  "    Returns success unless an invalid option is given or an error occurs.\n"

end LiveConsole.Shell.HistoryList
