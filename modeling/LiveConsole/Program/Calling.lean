import LiveConsole.Program.Comparing
import LiveConsole.Text.Utf8
import LiveConsole.Value.Members

/-!
# Calls

What can be called are the functions that every namespace sees, the functions of the host, and classes
of errors. Arguments are given in order only.
-/
namespace LiveConsole.Program

section Run

variable {World : Type}

/-- The number of items of a container or of characters of a text. -/
def lengthOf (value : Value) : Run World Value := do
  let heap ← currentHeap
  let refuse := throw (.ofType s!"object of type '{value.typeName heap}' has no len()")
  match value with
  | .text text _ _ => newInt text.length
  | .bytes data _ _ => newInt data.length
  | .range items _ =>
    if Limit.count < items.count then throw Limit.uncountable else newInt items.count
  | .ref identity =>
    match heap.get? identity with
    | some (.object ..) | some (.error ..) | none => refuse
    | some cell => newInt cell.size
  | _ => refuse

/-- The integer that a function needs as its argument. -/
def requireInteger (value : Value) : Run World Int := do
  match value.integer? with
  | some integer => return integer
  | none =>
    throw (.ofType
      s!"'{value.typeName (← currentHeap)}' object cannot be interpreted as an integer")

/-- The text of a value, unless an obstacle is met. -/
def textOf (value : Value) : Run World String := do
  let heap ← currentHeap
  match value with
  | .text text _ _ => return text
  | value =>
    match value.obstacle? heap with
    | some fault => throw fault
    | none => return value.toText heap

/-- The argument that an error is made from, when it is a text that is all that the error says. -/
def wholeText? (heap : Heap) (value : Value) (said : String) : Option Value :=
  match value with
  | .ref identity =>
    match heap.get? identity with
    | some (.error [argument@(.text text ⟨"str"⟩ _)] _) => if text = said then some argument else none
    | _ => none
  | _ => none

/-- The text of a value as a value; a text is its own, and so is the text that an error is made from. -/
def toTextValue (value : Value) : Run World Value := do
  let text ← textOf value
  match value with
  | .text _ ⟨"str"⟩ _ => return value
  | .bool _ => return .ofText text
  | .path _ identity => return .text text ⟨"str"⟩ identity
  | .int .. => return .text text ⟨"str"⟩ (← freshIdent)
  | value =>
    match wholeText? (← currentHeap) value text with
    | some argument => return argument
    | none => newText text

/-- The encodings that byte strings can be read in. -/
inductive Encoding where
  /-- One to four bytes a character. -/
  | utf8
  /-- The first 128 characters. -/
  | ascii
  /-- The first 256 characters. -/
  | latin
  deriving DecidableEq

/-- The encoding of a name; hyphens, underscores and capitals do not matter. -/
def Encoding.ofName? (name : String) : Option Encoding :=
  let plain := String.ofList
    ((name.toList.filter fun c => c != '-' && c != '_' && c != ' ').map Char.toLower)
  if ["utf8", "u8", "utf", "utf8ucs2", "utf8ucs4", "cp65001"].contains plain then some .utf8
  else if ["ascii", "usascii", "646", "us"].contains plain then some .ascii
  else if ["latin1", "latin", "l1", "iso88591", "8859", "cp819", "iso8859"].contains plain then
    some .latin
  else none

/-- Bytes read in an encoding, if they are well formed. -/
def Encoding.read? (encoding : Encoding) (data : List UInt8) : Option String :=
  match encoding with
  | .utf8 => Text.ofUtf8? data
  | .ascii => if data.all (· < 0x80) then some (ofCodes data) else none
  | .latin => some (ofCodes data)
where
  /-- One character a byte. -/
  ofCodes (data : List UInt8) : String := String.ofList (data.map fun byte => Char.ofNat byte.toNat)

/-- Bytes read in an encoding; `spell` stands in for those that are not well formed. -/
def Encoding.readWith (encoding : Encoding) (spell : List UInt8 → List Char) (data : List UInt8) :
    String :=
  match encoding with
  | .utf8 => String.ofList (Text.readWith spell none data)
  | .ascii | .latin =>
    String.ofList (data.flatMap fun byte => if byte < 0x80 then [Char.ofNat byte.toNat] else spell [byte])

/-- A byte by its code. -/
def writtenByte (byte : UInt8) : List Char := '\\' :: 'x' :: Text.hexDigits 2 byte.toNat

/-- The ways to go on behind bytes that are not well formed, by the names that they have. -/
def spellings : List (String × (List UInt8 → List Char)) :=
  [("ignore", fun _ => []), ("replace", fun _ => [Text.replacement]),
    ("backslashreplace", fun bytes => bytes.flatMap writtenByte)]

/-- The names of ways to go on that give up. -/
def strictWays : List String := ["strict", "surrogateescape", "surrogatepass"]

/-- The names of ways to go on that are for writing only. -/
def writingWays : List String := ["xmlcharrefreplace", "namereplace"]

/-- Read bytes that are not well formed in an encoding. -/
def readMisfits (encoding : Encoding) (way : String) (data : List UInt8) : Run World String :=
  match spellings.lookup way with
  | some spell => return encoding.readWith spell data
  | none =>
    if strictWays.contains way then throw (.raised "UnicodeDecodeError" "")
    else if writingWays.contains way then
      throw (.ofType "don't know how to handle UnicodeDecodeError in error callback")
    else throw (.raised "LookupError" s!"unknown error handler name '{way}'")

/-- The text argument at a place of a call that reads bytes. -/
def requireText (name : String) (value : Value) : Run World String := do
  match value with
  | .text text _ _ => return text
  | value =>
    throw (.ofType
      s!"str() argument '{name}' must be str, not {Fault.argumentType (← currentHeap) value}")

/-- The text that a byte string holds in an encoding. -/
def decodeText (value encoding : Value) (errors : Option Value) : Run World Value := do
  let encoding ← requireText "encoding" encoding
  let way ← match errors with
    | some errors => requireText "errors" errors
    | none => pure "strict"
  match value.bytes? (← currentHeap), value with
  | some data, _ =>
    if data.isEmpty then return .ofText ""
    match Encoding.ofName? encoding with
    | none => throw (.raised "LookupError" s!"unknown encoding: {encoding}")
    | some encoding =>
      match encoding.read? data with
      | some text => newText text
      | none => newText (← readMisfits encoding way data)
  | none, .text .. => throw (.ofType "decoding str is not supported")
  | none, value =>
    throw (.ofType (s!"decoding to str: need a bytes-like object, " ++
      s!"{value.typeName (← currentHeap)} found"))

/-- Call a function that every namespace sees. -/
def callBuiltin (function : Builtin) (arguments : List Value) : Run World Value := do
  match function, arguments with
  | .print, arguments => do
    let texts ← arguments.mapM textOf
    write (Text.joinWith " " texts ++ "\n")
    return .nothing
  | .length, [value] => lengthOf value
  | .length, arguments =>
    throw (.ofType s!"len() takes exactly one argument ({arguments.length} given)")
  | .toText, [] => return .ofText ""
  | .toText, [value] => toTextValue value
  | .toText, [value, encoding] => decodeText value encoding none
  | .toText, [value, encoding, errors] => decodeText value encoding (some errors)
  | .toText, arguments =>
    throw (.ofType s!"str() takes at most 3 arguments ({arguments.length} given)")
  | .range, [stop] => do newRange ⟨0, ← requireInteger stop, 1⟩
  | .range, [start, stop] => do newRange ⟨← requireInteger start, ← requireInteger stop, 1⟩
  | .range, [start, stop, step] => do
    let start ← requireInteger start
    let stop ← requireInteger stop
    let step ← requireInteger step
    if step = 0 then throw (.raised "ValueError" "range() arg 3 must not be zero")
    newRange ⟨start, stop, step⟩
  | .range, arguments =>
    let count := arguments.length
    throw (.ofType (if count = 0 then "range expected at least 1 argument, got 0"
      else s!"range expected at most 3 arguments, got {count}"))
  | .leave _, [] => throw (.raised "SystemExit" "None")
  | .leave _, [code] => throw (.raised "SystemExit" (code.toText (← currentHeap)))
  | .leave _, arguments =>
    throw (.ofType ("Quitter.__call__() takes from 1 to 2 positional arguments but " ++
      s!"{arguments.length + 1} were given"))

/-- Call a value. -/
def callValue (function : Value) (arguments : List Value) : Run World Value := do
  match function with
  | .builtin function => callBuiltin function arguments
  | .host output result _ => do
    write output
    return result
  | .hostFault output fault _ => do
    write output
    throw fault
  | .errorClass name =>
    match Fault.make (← currentHeap) name arguments with
    | .ok (kind, arguments) => allocate (.error arguments ⟨kind⟩)
    | .error fault => throw fault
  | value => throw (.ofType s!"'{value.typeName (← currentHeap)}' object is not callable")

/-- The byte that a value is. -/
def requireByte (value : Value) : Run World UInt8 := do
  let code ← requireInteger value
  if code < 0 || 256 ≤ code then throw (.raised "ValueError" "byte must be in range(0, 256)")
  return UInt8.ofNat code.toNat

/-- Refuse a value to which nothing can be appended. -/
def requireGrowing (value : Value) : Run World Unit := do
  let heap ← currentHeap
  let owner := match value with
    | .builtin .toText => "type object 'str'"
    | .builtin .range => "type object 'range'"
    | .errorClass name => s!"type object '{name}'"
    | .module name => s!"module '{name}'"
    | value => s!"'{value.typeName heap}' object"
  let fault := Fault.raised "AttributeError" (owner ++ " has no attribute 'append'")
  match value with
  | .ref identity =>
    match heap.get? identity with
    | some (.list ..) | some (.buffer ..) => return ()
    | _ => throw fault
  | _ => throw fault

/-- Put an item at the end of a list, or a byte at the end of bytes. -/
def appendItem (list : Value) (arguments : List Value) : Run World Value := do
  let heap ← currentHeap
  let misfit := fun name : String =>
    throw (.ofType s!"{name}.append() takes exactly one argument ({arguments.length} given)")
  match list with
  | .ref identity =>
    match heap.get? identity, arguments with
    | some (.list items type), [item] => do
      replaceCell identity (.list (items ++ [item]) type)
      return .nothing
    | some (.buffer data type), [item] => do
      replaceCell identity (.buffer (data ++ [← requireByte item]) type)
      return .nothing
    | some (.buffer ..), _ => misfit "bytearray"
    | _, _ => misfit "list"
  | _ => throw (.ofType s!"'{list.typeName heap}' object is not callable")

/-- The fault of a value that has no items to go through. -/
def notIterable (heap : Heap) (value : Value) : Fault :=
  .ofType s!"'{value.typeName heap}' object is not iterable"

/-- The items of a value, as they are now. -/
def itemsOf (value : Value) : Run World (List Value) := do
  let heap ← currentHeap
  match value with
  | .range items _ =>
    if Limit.room < items.count then throw Limit.noRoom
    (List.range items.count).mapM fun index => newInt (items.item index)
  | .text text _ _ => text.toList.mapM fun c => newText (String.singleton c)
  | .bytes data _ _ => return data.map fun byte => .ofInt byte.toNat
  | .ref identity =>
    match heap.get? identity with
    | some (.list items _) => return items
    | some (.tuple items _) => return items
    | some (.dict items _) => return items.map (·.1)
    | some (.set _ members _ _) => return members
    | some (.buffer data _) => return data.map fun byte => .ofInt byte.toNat
    | _ => throw (notIterable heap value)
  | value => throw (notIterable heap value)

variable (body : Value → Run World Unit)

/-- Go through the integers of a progression from an index on, so many of them. -/
def forProgression (items : Number.Progression) : Nat → Nat → Run World Unit
  | 0, _ => return ()
  | rest + 1, index => do
    body (← newInt (items.item index))
    forProgression items rest (index + 1)

/-- The item at an index of a container that grows at its end. -/
def growingItem? (heap : Heap) (identity : Ident) (index : Nat) : Option Value :=
  match heap.get? identity with
  | some (.list items _) => items[index]?
  | some (.buffer data _) => (data[index]?).map fun byte => .ofInt byte.toNat
  | _ => none

/-- Go through a list from an index on; items put at its end meanwhile are gone through too. -/
def forList (identity : Ident) : Nat → Nat → Run World Unit
  | 0, _ => throw .unfinished
  | rounds + 1, index => do
    match growingItem? (← currentHeap) identity index with
    | none => return ()
    | some item => do
      body item
      forList identity rounds (index + 1)

/-- Refuse to go on through a set that has lost or won members. -/
def requireSize (identity : Ident) (size : Nat) : Run World Unit := do
  match (← currentHeap).get? identity with
  | some cell =>
    if cell.size = size then return ()
    else throw (.raised "RuntimeError" "Set changed size during iteration")
  | none => return ()

/-- Go through the members of a set, which must keep its size. -/
def forMembers (identity : Ident) (size : Nat) : List Value → Run World Unit
  | [] => requireSize identity size
  | member :: members => do
    requireSize identity size
    body member
    forMembers identity size members

/-- Do something with each item of a value in order; `patience` bounds the rounds through a list. -/
def forEachItem (patience : Nat) (value : Value) : Run World Unit := do
  let heap ← currentHeap
  match value with
  | .range items _ => forProgression body items items.count 0
  | .ref identity =>
    match heap.get? identity with
    | some (.list items _) => forList body identity (items.length + patience) 0
    | some (.buffer data _) => forList body identity (data.length + patience) 0
    | some (.set _ members _ _) =>
      forMembers body identity members.length members
    | _ => do (← itemsOf value).forM body
  | value => do (← itemsOf value).forM body

end Run

end LiveConsole.Program
