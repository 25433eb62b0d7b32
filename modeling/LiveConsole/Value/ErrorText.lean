import LiveConsole.Fault
import LiveConsole.Text.Blank
import LiveConsole.Value.Basic

/-!
# The text of errors

The text of an error follows from its class and the arguments that it was made from. One argument is the
text, several are shown as a fixed sequence, and none is no text. Errors of the operating system show
their number, their text and their paths; a missing key is shown in its written form; errors of encodings
and of texts that are no programs say where the trouble is, and a group how many errors it holds.
-/
namespace LiveConsole.Fault

/-- Errors of texts that are no programs. -/
def malformedKinds : List String := ["SyntaxError", "IndentationError", "TabError"]

/-- Errors that hold others. -/
def groupKinds : List String := ["ExceptionGroup", "BaseExceptionGroup"]

/-- Whether a value is a number of any kind. -/
def isNumber : Value → Bool
  | .bool _ | .int .. | .float .. | .complex .. => true
  | _ => false

/-- The integer that a value is, if it is one. -/
def integerOf? : Value → Option Int
  | .bool value => some (if value then 1 else 0)
  | .int value _ _ => some value
  | _ => none

/-- The path among the arguments of an error of the operating system, if one is given. -/
def pathOf? (kind : String) (arguments : List Value) : Option Value :=
  if arguments.length < 3 || 5 < arguments.length then none
  else
    match arguments.drop 2 with
    | [] | .nothing :: _ => none
    | path :: _ => if kind == "BlockingIOError" && isNumber path then none else some path

/-- The arguments that an error shows; the paths of one of the operating system are kept apart. -/
def shownArguments (kind : String) (arguments : List Value) : List Value :=
  if systemErrorKinds.contains kind && (pathOf? kind arguments).isSome then arguments.take 2
  else arguments

/-- Places from one to another, both included. -/
def places (first last : Int) : String := s!"{first}-{last}"

/-- A character beyond ASCII or below by its code. -/
def codeOf (code : Nat) : String :=
  if code < 0x100 then "\\x" ++ String.ofList (Text.hexDigits 2 code)
  else if code < 0x10000 then "\\u" ++ String.ofList (Text.hexDigits 4 code)
  else "\\U" ++ String.ofList (Text.hexDigits 8 code)

/-- What an error of an encoding says, where `one` tells the single place at fault. -/
def encodingText (opening : String) (one : Option String) (many : String) (start stop : Int)
    (reason : String) : String :=
  match one with
  | some shown => opening ++ shown ++ s!" in position {start}: " ++ reason
  | none => opening ++ many ++ " in position " ++ places start (stop - 1) ++ ": " ++ reason

/-- The character at fault in a text, if it is a single one. -/
def characterAt? (text : String) (start stop : Int) : Option String :=
  if stop = start + 1 && 0 ≤ start then
    (text.toList[start.toNat]?).map fun c => "character '" ++ codeOf c.toNat ++ "'"
  else none

/-- The byte at fault in bytes, if it is a single one. -/
def byteAt? (data : List UInt8) (start stop : Int) : Option String :=
  if stop = start + 1 && 0 ≤ start then
    (data[start.toNat]?).map fun byte => "byte 0x" ++ String.ofList (Text.hexDigits 2 byte.toNat)
  else none

/-- The name at the end of a path. -/
def lastName (path : String) : String :=
  String.ofList ((path.toList.reverse.takeWhile (· != '/')).reverse)

section Text

variable (heap : Heap) (text written : Value → String)

/-- The items of a sequence between parentheses. -/
def writtenItems (items : List Value) : String :=
  match items with
  | [item] => "(" ++ written item ++ ",)"
  | items => "(" ++ Text.joinWith ", " (items.map written) ++ ")"

/-- The items of a list or a fixed sequence. -/
def itemsOfSequence (value : Value) : List Value :=
  match value with
  | .ref identity =>
    match heap.get? identity with
    | some (.list items _) | some (.tuple items _) => items
    | _ => []
  | _ => []

/-- Where a text is no program: the file and the line, where they are given. -/
def placeText (place : List Value) : String :=
  let file := match place.head? with
    | some (.text file _ _) => some (lastName file)
    | _ => none
  let line := match place[1]? with
    | some (.int line type _) => if type.qualified == "int" then some (toString line) else none
    | _ => none
  match file, line with
  | some file, some line => s!" ({file}, line {line})"
  | some file, none => s!" ({file})"
  | none, some line => s!" (line {line})"
  | none, none => ""

/-- The text of an error without any form of its own. -/
def plainText (arguments : List Value) : String :=
  match arguments with
  | [] => ""
  | [argument] => text argument
  | arguments => writtenItems written arguments

/-- The text of an error of a class with its arguments. -/
def textOf (kind : String) (arguments : List Value) : String :=
  let plain := plainText text written (shownArguments kind arguments)
  if systemErrorKinds.contains kind then
    match arguments with
    | number :: words :: _ =>
      if 5 < arguments.length then plain
      else
        let front := "[Errno " ++ text number ++ "] " ++ text words
        match pathOf? kind arguments, arguments.drop 4 with
        | none, _ => front
        | some path, [] | some path, .nothing :: _ => front ++ ": " ++ written path
        | some path, other :: _ => front ++ ": " ++ written path ++ " -> " ++ written other
    | _ => plain
  else
    match kind, arguments with
    | "KeyError", [key] => written key
    | "UnicodeEncodeError", [.text encoding _ _, .text content _ _, start, stop, .text reason _ _] =>
      let start := (integerOf? start).getD 0
      let stop := (integerOf? stop).getD 0
      encodingText ("'" ++ encoding ++ "' codec can't encode ") (characterAt? content start stop)
        "characters" start stop reason
    | "UnicodeDecodeError", [.text encoding _ _, content, start, stop, .text reason _ _] =>
      let start := (integerOf? start).getD 0
      let stop := (integerOf? stop).getD 0
      encodingText ("'" ++ encoding ++ "' codec can't decode ")
        (byteAt? ((content.bytes? heap).getD []) start stop) "bytes" start stop reason
    | "UnicodeTranslateError", [.text content _ _, start, stop, .text reason _ _] =>
      let start := (integerOf? start).getD 0
      let stop := (integerOf? stop).getD 0
      encodingText "can't translate " (characterAt? content start stop) "characters" start stop reason
    | kind, arguments =>
      if malformedKinds.contains kind then
        match arguments with
        | [] => "None"
        | [message, place] => text message ++ placeText (itemsOfSequence heap place)
        | message :: _ => text message
      else if groupKinds.contains kind then
        match arguments with
        | [message, errors] =>
          let count := (itemsOfSequence heap errors).length
          text message ++ s!" ({count} sub-exception" ++ (if count = 1 then ")" else "s)")
        | _ => plain
      else plain

end Text

end LiveConsole.Fault
