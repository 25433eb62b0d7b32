import LiveConsole.Value.Written

/-!
# Errors made from values

An error is made from the name of its class and a list of arguments. Most classes take any arguments:
one is the message, several are shown as a fixed sequence. Errors of the operating system show their
number, their text and their paths, and belong to the class that goes with the number. A few classes
ask for arguments of a certain kind; arguments that do not fit are an error themselves.
-/
namespace LiveConsole.Fault

/-- The fault of a value of the wrong type. -/
def ofType (message : String) : Fault := raised "TypeError" message

/-- The classes that show every argument as it is but for the operating system's own. -/
def generalSystemErrors : List String := ["OSError", "IOError", "EnvironmentError"]

/-- The classes that stand for others. -/
def properKind (kind : String) : String :=
  if generalSystemErrors.contains kind then "OSError" else kind

section Arguments

variable (heap : Heap)

/-- The name of a type in a message about arguments. -/
def argumentType (value : Value) : String :=
  match value with
  | .nothing => "None"
  | value => value.typeName heap

/-- The fault of a number that cannot be a number of characters. -/
def countFault? (value : Value) : Option Fault :=
  match value with
  | .float .. | .complex .. =>
    some (ofType s!"'{value.typeName heap}' object cannot be interpreted as an integer")
  | .int value _ _ => if Limit.isCount value then none else some (.raised "ValueError" "cannot fit 'int' into an index-sized integer")
  | _ => none

/-- The class of an error of the operating system: the general one gives way to that of the number. -/
def systemKind (kind : String) (number : Value) : String :=
  if kind != "OSError" then kind
  else
    match number with
    | .bool value => systemErrorKind (if value then 1 else 0)
    | .int value _ _ => systemErrorKind value
    | _ => kind

/-- An error that can be made: the name of its class, and its arguments. -/
abbrev Made := String × List Value

/-- An error of the operating system; with a number and a text it is of the class of the number. -/
def systemError (kind : String) (arguments : List Value) : Except Fault Made :=
  match arguments with
  | number :: _ :: more =>
    if 3 < more.length then .ok (kind, arguments)
    else
      let kind := systemKind kind number
      match kind, more.head? with
      | "BlockingIOError", some path =>
        match countFault? heap path with
        | some fault => .error fault
        | none => .ok (kind, arguments)
      | kind, _ => .ok (kind, arguments)
  | arguments => .ok (kind, arguments)

/-- The kinds of arguments that errors of encodings ask for. -/
inductive Wanted where
  /-- A text. -/
  | text
  /-- A byte string. -/
  | bytes
  /-- An integer. -/
  | count
  deriving DecidableEq

/-- Why a value at a place among the arguments does not fit. -/
def misfit? (wanted : Wanted) (place : Nat) (value : Value) : Option Fault :=
  match wanted, value with
  | .text, .text .. => none
  | .text, value => some (ofType s!"argument {place} must be str, not {argumentType heap value}")
  | .bytes, value =>
    if (value.bytes? heap).isSome then none
    else some (ofType s!"a bytes-like object is required, not '{value.typeName heap}'")
  | .count, .bool _ => none
  | .count, .int value _ _ => if Limit.isCount value then none else some Limit.uncountable
  | .count, value =>
    some (ofType s!"'{value.typeName heap}' object cannot be interpreted as an integer")

/-- An error that asks for arguments of certain kinds. -/
def encodingError (kind : String) (wanted : List Wanted) (arguments : List Value) : Except Fault Made :=
  if wanted.length != arguments.length then
    .error (ofType s!"function takes exactly {wanted.length} arguments ({arguments.length} given)")
  else
    let problems := (wanted.zip arguments).zipIdx.filterMap fun ((wanted, value), index) =>
      misfit? heap wanted (index + 1) value
    match problems.head? with
    | some fault => .error fault
    | none => .ok (kind, arguments)

/-- The classes of errors that are no exceptions in the narrow sense. -/
def severeKinds : List String :=
  ["BaseException", "BaseExceptionGroup", "GeneratorExit", "KeyboardInterrupt", "SystemExit"]

/-- The items of a value that can be asked for its items by number; of integers in progression, none of
which is an error, the first will do. -/
def itemsInOrder? : Value → Option (List Value)
  | .text text _ _ => some (text.toList.map fun c => .ofText (String.singleton c))
  | .bytes data _ _ => some (data.map fun byte => .ofInt byte.toNat)
  | .range items _ =>
    some ((List.range (min items.count 1)).map fun index => .ofInt (items.item index))
  | .ref identity =>
    match heap.get? identity with
    | some (.list items _) => some items
    | some (.tuple items _) => some items
    | some (.buffer data _) => some (data.map fun byte => .ofInt byte.toNat)
    | _ => none
  | _ => none

/-- The fault of a value among several errors that is none. -/
def notError (index : Nat) : Fault :=
  raised "ValueError" s!"Item {index} of second argument (exceptions) is not an exception"

/-- The class of an error that is a value, if a value is one. -/
def kindOf? (value : Value) : Option String :=
  match value with
  | .ref identity =>
    match heap.get? identity with
    | some (.error _ type) => some type.plain
    | _ => none
  | _ => none

/-- The first of several values that is no error. -/
def firstMisfit? (errors : List Value) : Option Nat :=
  (errors.findIdx? fun error => (kindOf? heap error).isNone)

/-- An error that holds several others: a text and a sequence of errors. -/
def groupError (kind : String) (arguments : List Value) : Except Fault Made :=
  let function := "BaseExceptionGroup.__new__()"
  match arguments with
  | [.text _ _ _, errors] =>
    match itemsInOrder? heap errors with
    | none => .error (ofType "second argument (exceptions) must be a sequence")
    | some [] =>
      .error (raised "ValueError" "second argument (exceptions) must be a non-empty sequence")
    | some items =>
      match firstMisfit? heap items with
      | some index => .error (notError index)
      | none =>
        let isSevere := items.any fun item => ((kindOf? heap item).map severeKinds.contains).getD false
        if !isSevere then .ok ("ExceptionGroup", arguments)
        else if kind == "ExceptionGroup" then
          .error (ofType "Cannot nest BaseExceptions in an ExceptionGroup")
        else .ok (kind, arguments)
  | [message, _] =>
    .error (ofType s!"{function} argument 1 must be str, not {argumentType heap message}")
  | arguments => .error (ofType s!"{function} takes exactly 2 arguments ({arguments.length} given)")

/-- An error of a text that is no program: a message, and where it was met. -/
def malformedError (kind : String) (arguments : List Value) : Except Fault Made :=
  match arguments with
  | [_, place] =>
    let count :=
      match place with
      | .ref identity =>
        match heap.get? identity with
        | some (.object ..) | some (.error ..) => none
        | cell => cell.map Cell.size
      | .range items _ => some items.count
      | place => (itemsInOrder? heap place).map List.length
    match count with
    | none => .error (ofType s!"'{place.typeName heap}' object is not iterable")
    | some count =>
      if count < 4 then .error (ofType s!"function takes at least 4 arguments ({count} given)")
      else if 6 < count then .error (ofType s!"function takes at most 6 arguments ({count} given)")
      else if count = 5 then
        .error (ofType "end_offset must be provided when end_lineno is provided")
      else .ok (kind, arguments)
  | _ => .ok (kind, arguments)

/-- The error that a class and arguments make, unless they do not fit. -/
def make (kind : String) (arguments : List Value) : Except Fault Made :=
  let kind := properKind kind
  if systemErrorKinds.contains kind then systemError heap kind arguments
  else if kind == "UnicodeDecodeError" then
    encodingError heap kind [.text, .bytes, .count, .count, .text] arguments
  else if kind == "UnicodeEncodeError" then
    encodingError heap kind [.text, .text, .count, .count, .text] arguments
  else if kind == "UnicodeTranslateError" then
    encodingError heap kind [.text, .count, .count, .text] arguments
  else if groupKinds.contains kind then groupError heap kind arguments
  else if malformedKinds.contains kind then malformedError heap kind arguments
  else .ok (kind, arguments)

/-- The fault that an error is when it is raised. -/
def ofMade (error : Made) : Fault :=
  raised error.1 (textOf heap (Value.toText heap) (Value.written heap) error.1 error.2)

/-- The fault that a class and arguments make, or the one of arguments that do not fit. -/
def ofArguments (kind : String) (arguments : List Value) : Fault :=
  match make heap kind arguments with
  | .ok error => ofMade heap error
  | .error fault => fault

end Arguments

end LiveConsole.Fault
