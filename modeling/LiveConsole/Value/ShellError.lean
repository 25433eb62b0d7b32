import LiveConsole.Value.Compare
import LiveConsole.Value.Raised

/-!
# Errors of the shell made from values

An error of the shell holds a message, and one of its set-up a setting besides. Both may be any values,
but only some of them can be shown: the message must be a text in the end, and the setting must be one
that can be looked for in the message.
-/
namespace LiveConsole

/-- An error of the shell with its fields. -/
structure ShellError where
  /-- Whether it is an error of the shell's set-up, which has a setting. -/
  configured : Bool
  /-- The message. -/
  message : Value
  /-- The setting. -/
  setting : Value
  deriving DecidableEq, Repr

namespace ShellError

/-- The name of the class. -/
def kind (configured : Bool) : String := if configured then "ConfigurationError" else "ShellError"

/-- The names of the fields of the class. -/
def fields (configured : Bool) : List String :=
  if configured then ["message", "setting"] else ["message"]

/-- The fault of arguments that do not fit. -/
def misfit (configured : Bool) (problem : String) : Fault :=
  .ofType (kind configured ++ ".__init__() " ++ problem)

/-- Make an error from arguments in order and by name; a setting that is not given is nothing. -/
def ofArguments (configured : Bool) (arguments : List Value) (named : List (String × Value)) :
    Except Fault ShellError :=
  let given := (fields configured).take arguments.length
  let wrong := named.findSome? fun entry =>
    if !(fields configured).contains entry.1 then
      some (misfit configured ("got an unexpected keyword argument '" ++ entry.1 ++ "'"))
    else if given.contains entry.1 then
      some (misfit configured ("got multiple values for argument '" ++ entry.1 ++ "'"))
    else none
  match wrong with
  | some fault => .error fault
  | none =>
    if (fields configured).length < arguments.length then
      let expected := if configured then "from 2 to 3 positional arguments" else "2 positional arguments"
      .error (misfit configured (s!"takes {expected} but {arguments.length + 1} were given"))
    else
      let bound := given.zip arguments ++ named
      match bound.lookup "message" with
      | none => .error (misfit configured "missing 1 required positional argument: 'message'")
      | some message => .ok ⟨configured, message, (bound.lookup "setting").getD .nothing⟩

section Text

variable (heap : Heap)

/-- Whether a value occurs in another one: in a text, among items, or among keys. -/
def occurs (needle : Value) : Value → Except Fault Bool
  | .text text _ _ =>
    match needle with
    | .text part _ _ => .ok (occursIn part.toList text.toList)
    | other =>
      .error (.ofType ("'in <string>' requires string as left operand, not " ++ other.typeName heap))
  | place =>
    let among := fun values : List Value =>
      match Value.hasEqual (Value.equal? heap) needle values with
      | some found => .ok found
      | none => .error Limit.tooDeep
    match place with
    | .ref identity =>
      match heap.get? identity, needle with
      | some (.list items _), _ | some (.tuple items _), _ => among items
      | some (.dict _ _), .ref _ => .error (.ofType s!"unhashable type: '{needle.typeName heap}'")
      | some (.dict entries _), _ => among (entries.map (·.1))
      | _, _ => .error (.ofType s!"argument of type '{place.typeName heap}' is not iterable")
    | place => .error (.ofType s!"argument of type '{place.typeName heap}' is not iterable")

/-- The message alone, which must be a text. -/
def ownText (error : ShellError) : Except Fault String :=
  match error.message with
  | .text text _ _ => .ok text
  | other => .error (.ofType s!"__str__ returned non-string (type {other.typeName heap})")

/-- The text: the message, with the setting unless it says nothing or the message names it already. -/
def text (error : ShellError) : Except Fault String := do
  if error.configured && error.setting.truthy heap then
    if ← occurs heap error.setting error.message then error.ownText heap
    else
      return error.message.toText heap ++ " (setting: " ++ error.setting.toText heap ++ ")"
  else error.ownText heap

/-- The written form: the class with all fields. -/
def written (error : ShellError) : String :=
  kind error.configured ++ "(message=" ++ error.message.written heap ++
    (if error.configured then ", setting=" ++ error.setting.written heap else "") ++ ")"

/-- Whether two errors are of one class and have equal fields. -/
def isEqual (left right : ShellError) : Bool :=
  left.configured == right.configured && Value.isSameKey heap left.message right.message &&
    Value.isSameKey heap left.setting right.setting

end Text

/-- The fault of an error whose fields are texts; fields that are none are shown as they are. -/
def toFault (heap : Heap) (error : ShellError) : Fault :=
  let message := error.message.toText heap
  if error.configured then
    .configuration message
      (match error.setting with | .nothing => none | setting => some (setting.toText heap))
  else .shell message

end ShellError

namespace Fault

/-- The fault that a class of errors and arguments make; the shell's own errors are classes too. -/
def ofClass (heap : Heap) (kind : String) (arguments : List Value) : Fault :=
  let own := fun configured : Bool =>
    match ShellError.ofArguments configured arguments [] with
    | .ok error => error.toFault heap
    | .error fault => fault
  if kind == ShellError.kind true then own true
  else if kind == ShellError.kind false then own false
  else ofArguments heap kind arguments

end Fault

end LiveConsole
