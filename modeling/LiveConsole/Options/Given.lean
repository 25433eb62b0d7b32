import LiveConsole.FileTree.Path
import LiveConsole.Value.Basic
import LiveConsole.Text.Codes

/-!
# Values given for options

Options are given as values of many kinds, from a settings file or from the command line. A truth value
may be given as a number or as a word, a text as bytes; what cannot be read as the kind of value that an
option needs is a problem, and a problem is told in a message.
-/
namespace LiveConsole

open Number (Binary64)

/-- A value given for an option. -/
inductive Given where
  /-- Nothing, the same as not given. -/
  | nothing
  /-- A truth value. -/
  | bool (value : Bool)
  /-- An integer. -/
  | int (value : Int)
  /-- A floating point number. -/
  | float (value : Binary64)
  /-- A text. -/
  | text (value : String)
  /-- A text with codes that belong to no character. -/
  | codes (value : Text.Codes)
  /-- A byte string, fixed or growable. -/
  | bytes (growable : Bool) (data : List UInt8)
  /-- A path. -/
  | path (value : PurePath)
  /-- A value of any other kind. -/
  | other
  deriving DecidableEq, Repr

namespace Given

/-- A value of evaluated code, given for an option. -/
def ofValue (heap : Heap) : Value → Given
  | .nothing => nothing
  | .bool value => bool value
  | .int value _ _ => int value
  | .float value _ _ => float value
  | .text value _ _ => text value
  | .bytes data _ _ => bytes false data
  | .path shown _ => path (PurePath.ofText shown)
  | value => ((value.bytes? heap).map (bytes true)).getD other

/-- The words for truth values, in lower case. -/
def truthWords : List (String × Bool) :=
  [("0", false), ("off", false), ("f", false), ("false", false), ("n", false), ("no", false),
    ("1", true), ("on", true), ("t", true), ("true", true), ("y", true), ("yes", true)]

/-- The problem of a value that is no truth value. -/
def notTruth : String := "Input should be a valid boolean"

/-- The problem of a word or number that stands for no truth value. -/
def unclearTruth : String := "Input should be a valid boolean, unable to interpret input"

/-- The problem of a value that is no text. -/
def notText : String := "Input should be a valid string"

/-- The problem of bytes that spell no text. -/
def unclearText : String := "Input should be a valid string, unable to parse raw data as a unicode string"

/-- The problem of a value that is no path. -/
def notPath : String := "Input is not a valid path for <class 'pathlib.Path'>"

/-- The truth value that a word stands for; only the case of ASCII letters is of no importance. -/
def truthOfWord (word : String) : Except String Bool :=
  match truthWords.lookup (String.ofList (word.toList.map Char.toLower)) with
  | some value => .ok value
  | none => .error unclearTruth

/-- Whether an integer has at most 64 bits. -/
def isSmall (value : Int) : Bool := -0x8000000000000000 ≤ value && value < 0x8000000000000000

/-- The truth value that an integer stands for. -/
def truthOfInt (value : Int) : Except String Bool :=
  if value = 0 then .ok false
  else if value = 1 then .ok true
  else if isSmall value then .error unclearTruth
  else .error notTruth

/-- The truth value that is given. -/
def asTruth : Given → Except String Bool
  | bool value => .ok value
  | int value => truthOfInt value
  | float value =>
    match value.toInt? with
    | some value =>
      if value.natAbs < 0x8000000000000000 then truthOfInt value else .error notTruth
    | none => .error notTruth
  | text word => truthOfWord word
  | codes _ => .error unclearText
  | bytes false data =>
    match Text.ofUtf8? data with
    | some word => truthOfWord word
    | none => .error unclearTruth
  | _ => .error notTruth

/-- The text that is given. -/
def asText : Given → Except String String
  | text value => .ok value
  | codes value => .ok value.shown
  | bytes _ data =>
    match Text.ofUtf8? data with
    | some value => .ok value
    | none => .error unclearText
  | _ => .error notText

/-- Whether a value may be part of a command line. -/
def isPassable : Given → Bool
  | codes value => value.isPassable
  | _ => true

/-- The path that is given. -/
def asPath : Given → Except String PurePath
  | text value => .ok (PurePath.ofText value)
  | codes value => .ok (PurePath.ofText value.shown)
  | path value => .ok value
  | _ => .error notPath

end Given

end LiveConsole
