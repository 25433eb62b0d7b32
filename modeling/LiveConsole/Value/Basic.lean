import LiveConsole.Fault
import LiveConsole.Number.Binary64
import LiveConsole.Number.Progression

/-!
# Values and the heap they live in

A value is a scalar, or a reference to a cell of a heap. Cells are the containers: they can be shared
between several places and can contain themselves. A reference is an identity, a plain number; which
numbers a heap uses is of no importance to any definition but for telling two cells apart. Scalars that
are told apart even when they look the same carry such a number of their own; those that are one and the
same wherever they occur carry the number zero.
-/
namespace LiveConsole

open Number (Binary64 Progression)

/-- The identity of a cell. -/
abbrev Ident := Nat

/-- The name of a type, with the names of the types that it is defined in. -/
structure TypeName where
  /-- The name and its surroundings, joined by points. -/
  qualified : String
  deriving DecidableEq, Repr

namespace TypeName

/-- The part of a type's name behind its last point. -/
def plain (name : TypeName) : String :=
  String.ofList (name.qualified.toList.reverse.takeWhile (· != '.')).reverse

end TypeName

/-- The functions that every namespace sees. -/
inductive Builtin where
  /-- Write the arguments on one line. -/
  | print
  /-- Count the items of a container or the characters of a text. -/
  | length
  /-- The text of a value. -/
  | toText
  /-- Successive integers. -/
  | range
  /-- Leave the interpreter, under the name `exit` or `quit`. -/
  | leave (name : String)
  deriving DecidableEq, Repr

namespace Builtin

/-- The name under which a function is seen. -/
def name : Builtin → String
  | print => "print"
  | length => "len"
  | toText => "str"
  | range => "range"
  | leave name => name

/-- The name of the type of a function. -/
def typeName : Builtin → String
  | print | length => "builtin_function_or_method"
  | toText | range => "type"
  | leave _ => "Quitter"

end Builtin

/-- A value of evaluated code; containers are references into a heap. -/
inductive Value where
  /-- The value of what produces none. -/
  | nothing
  /-- A truth value. -/
  | bool (value : Bool)
  /-- An integer of any size. -/
  | int (value : Int) (type : TypeName) (identity : Ident)
  /-- A floating point number; a number that differs from itself is still the one that it is. -/
  | float (value : Binary64) (type : TypeName) (identity : Ident)
  /-- A complex number. -/
  | complex (re : Binary64) (im : Binary64) (type : TypeName) (identity : Ident)
  /-- A text. -/
  | text (value : String) (type : TypeName) (identity : Ident)
  /-- A byte string that stays. -/
  | bytes (data : List UInt8) (type : TypeName) (identity : Ident)
  /-- A module. -/
  | module (name : String)
  /-- A path of the file system. -/
  | path (text : String) (identity : Ident)
  /-- Successive integers. -/
  | range (items : Progression) (identity : Ident)
  /-- A function that every namespace sees. -/
  | builtin (function : Builtin)
  /-- A class of errors. -/
  | errorClass (name : String)
  /-- A function of the host that writes a text and gives a value. -/
  | host (output : String) (result : Value) (identity : Ident)
  /-- A function of the host that writes a text and raises a fault. -/
  | hostFault (output : String) (fault : Fault) (identity : Ident)
  /-- A value known by its type and its written form only. -/
  | foreign (type : TypeName) (written : String) (identity : Ident)
  /-- A container. -/
  | ref (identity : Ident)
  deriving DecidableEq, Repr, Inhabited

namespace Value

/-- A plain integer that is one and the same wherever it occurs. -/
def ofInt (value : Int) : Value := int value ⟨"int"⟩ 0

/-- A plain text that is one and the same wherever it occurs. -/
def ofText (value : String) : Value := text value ⟨"str"⟩ 0

/-- Whether an integer is small enough to be one and the same wherever it occurs. -/
def isCommonInt (value : Int) : Bool := -5 ≤ value && value ≤ 256

/-- Whether a text is short enough to be one and the same wherever it occurs: at most one character, of
the first 256. -/
def isCommonText (value : String) : Bool :=
  value.utf8ByteSize ≤ 2 &&
    match value.toList with
    | [] => true
    | [c] => c.toNat < 256
    | _ => false

/-- Whether a byte string is short enough to be one and the same wherever it occurs. -/
def isCommonBytes (data : List UInt8) : Bool := (data.drop 1).isEmpty

/-- A plain floating point number. -/
def ofFloat (value : Binary64) (identity : Ident) : Value := float value ⟨"float"⟩ identity

end Value

/-- The slots that the members of a set lie in. -/
structure Table where
  /-- The number of slots. -/
  slots : Nat
  /-- The number of slots that are left by members that are gone. -/
  gaps : Nat
  deriving DecidableEq, Repr

/-- A container: what a reference leads to. -/
inductive Cell where
  /-- Items in order that can be changed. -/
  | list (items : List Value) (type : TypeName)
  /-- Items in order that stay. -/
  | tuple (items : List Value) (type : TypeName)
  /-- Values under keys, in the order in which the keys came. -/
  | dict (items : List (Value × Value)) (type : TypeName)
  /-- Distinct members, in the order in which they are met. -/
  | set (frozen : Bool) (members : List Value) (table : Table) (type : TypeName)
  /-- A byte string that can be changed. -/
  | buffer (data : List UInt8) (type : TypeName)
  /-- A plain object with its attributes. -/
  | object (attributes : List (String × Value)) (type : TypeName)
  /-- An error of a class, with the arguments that it was made from. -/
  | error (arguments : List Value) (type : TypeName)
  deriving DecidableEq, Repr

namespace Cell

/-- The type of a container. -/
def type : Cell → TypeName
  | list _ type => type
  | tuple _ type => type
  | dict _ type => type
  | set _ _ _ type => type
  | buffer _ type => type
  | object _ type => type
  | error _ type => type

/-- The number of entries of a container. -/
def size : Cell → Nat
  | list items _ => items.length
  | tuple items _ => items.length
  | dict items _ => items.length
  | set _ members _ _ => members.length
  | buffer data _ => data.length
  | object attributes _ => attributes.length
  | error .. => 0

/-- The values inside a container, keys aside. -/
def values : Cell → List Value
  | list items _ => items
  | tuple items _ => items
  | dict items _ => items.map (·.2)
  | set _ members _ _ => members
  | buffer .. => []
  | object attributes _ => attributes.map (·.2)
  | error .. => []

end Cell

/-- A finite map from identities to containers. -/
structure Heap where
  /-- Containers by identity; the first entry of an identity counts. -/
  cells : List (Ident × Cell)
  /-- An identity above every one in use. -/
  next : Ident

namespace Heap

/-- The heap without containers. -/
def empty : Heap := ⟨[], 1⟩

/-- The container of an identity. -/
def get? (heap : Heap) (identity : Ident) : Option Cell := heap.cells.lookup identity

/-- The number of containers. -/
def size (heap : Heap) : Nat := heap.cells.length

/-- Put a container at an identity, in place of the one there. -/
def set (heap : Heap) (identity : Ident) (cell : Cell) : Heap where
  cells :=
    if (heap.cells.lookup identity).isSome then
      heap.cells.map fun entry => if entry.1 = identity then (identity, cell) else entry
    else (identity, cell) :: heap.cells
  next := max heap.next (identity + 1)

/-- An identity that is not in use, and the heap that takes it as used. -/
def fresh (heap : Heap) : Heap × Ident := ({ heap with next := heap.next + 1 }, heap.next)

/-- Put a container at a fresh identity. -/
def alloc (heap : Heap) (cell : Cell) : Heap × Value :=
  (⟨(heap.next, cell) :: heap.cells, heap.next + 1⟩, .ref heap.next)

/-- An identity for a scalar, unless it is one and the same wherever it occurs. -/
def freshUnless (heap : Heap) (common : Bool) : Heap × Ident := if common then (heap, 0) else heap.fresh

/-- An integer with an identity of its own, unless it is a plain one that is the same everywhere. -/
def newInt (heap : Heap) (value : Int) (type : TypeName) : Heap × Value :=
  (heap.freshUnless (type.qualified == "int" && Value.isCommonInt value)).map id (.int value type)

/-- A text with an identity of its own, unless it is a plain one that is the same everywhere. -/
def newText (heap : Heap) (value : String) (type : TypeName) : Heap × Value :=
  (heap.freshUnless (type.qualified == "str" && Value.isCommonText value)).map id (.text value type)

/-- A byte string with an identity of its own, unless it is a plain one that is the same everywhere. -/
def newBytes (heap : Heap) (data : List UInt8) (type : TypeName) : Heap × Value :=
  (heap.freshUnless (type.qualified == "bytes" && Value.isCommonBytes data)).map id (.bytes data type)

end Heap

namespace Value

/-- The name of the type of a value. -/
def typeName (heap : Heap) : Value → String
  | nothing => "NoneType"
  | bool _ => "bool"
  | int _ type _ => type.plain
  | float _ type _ => type.plain
  | complex _ _ type _ => type.plain
  | text _ type _ => type.plain
  | bytes _ type _ => type.plain
  | module _ => "module"
  | path _ _ => "PosixPath"
  | range _ _ => "range"
  | builtin function => function.typeName
  | errorClass _ => "type"
  | host .. => "function"
  | hostFault .. => "function"
  | foreign type _ _ => type.plain
  | ref identity => ((heap.get? identity).map fun cell => cell.type.plain).getD "object"

/-- The bytes of a byte string of either kind. -/
def bytes? (heap : Heap) : Value → Option (List UInt8)
  | bytes data _ _ => some data
  | ref identity =>
    match heap.get? identity with
    | some (.buffer data _) => some data
    | _ => none
  | _ => none

end Value

/-- A value together with the heap that its references lead into. -/
structure Graph where
  /-- The containers. -/
  heap : Heap
  /-- Where to start. -/
  root : Value

namespace Graph

/-- A scalar, which needs no heap. -/
def scalar (value : Value) : Graph := ⟨.empty, value⟩

end Graph

/-- Names bound to values, in the order in which they were first bound. -/
structure Namespace where
  /-- Name and value of each binding; every name at most once. -/
  bindings : List (String × Value)
  deriving DecidableEq

namespace Namespace

/-- The namespace without names. -/
def empty : Namespace := ⟨[]⟩

/-- The value of a name. -/
def get? (names : Namespace) (name : String) : Option Value := names.bindings.lookup name

/-- Whether a name is bound. -/
def has (names : Namespace) (name : String) : Bool := (names.get? name).isSome

/-- Bind a name, in its place when it is bound already. -/
def set (names : Namespace) (name : String) (value : Value) : Namespace :=
  if names.has name then
    ⟨names.bindings.map fun binding => if binding.1 = name then (name, value) else binding⟩
  else ⟨names.bindings ++ [(name, value)]⟩

/-- Unbind a name. -/
def erase (names : Namespace) (name : String) : Namespace :=
  ⟨names.bindings.filter fun binding => binding.1 ≠ name⟩

end Namespace

end LiveConsole
