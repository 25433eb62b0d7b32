import LiveConsole.Value.Raised

/-!
# What every namespace sees

Behind the names that a namespace binds stand those that every namespace sees: functions, types, error
classes, and a few names that describe where they come from. Of most functions and types no more is known
than how they are written.
-/
namespace LiveConsole.Program

/-- The classes of errors that every namespace sees. -/
def errorClasses : List String :=
  ["ArithmeticError", "AssertionError", "AttributeError", "BaseException", "BaseExceptionGroup",
    "BlockingIOError", "BrokenPipeError", "BufferError", "BytesWarning", "ChildProcessError",
    "ConnectionAbortedError", "ConnectionError", "ConnectionRefusedError", "ConnectionResetError",
    "DeprecationWarning", "EOFError", "EncodingWarning", "EnvironmentError", "Exception",
    "ExceptionGroup", "FileExistsError", "FileNotFoundError", "FloatingPointError", "FutureWarning",
    "GeneratorExit", "IOError", "ImportError", "ImportWarning", "IndentationError", "IndexError",
    "InterruptedError", "IsADirectoryError", "KeyError", "KeyboardInterrupt", "LookupError",
    "MemoryError", "ModuleNotFoundError", "NameError", "NotADirectoryError", "NotImplementedError",
    "OSError", "OverflowError", "PendingDeprecationWarning", "PermissionError", "ProcessLookupError",
    "RecursionError", "ReferenceError", "ResourceWarning", "RuntimeError", "RuntimeWarning",
    "StopAsyncIteration", "StopIteration", "SyntaxError", "SyntaxWarning", "SystemError", "SystemExit",
    "TabError", "TimeoutError", "TypeError", "UnboundLocalError", "UnicodeDecodeError",
    "UnicodeEncodeError", "UnicodeError", "UnicodeTranslateError", "UnicodeWarning", "UserWarning",
    "ValueError", "Warning", "ZeroDivisionError"]

/-- The functions that are only known by the way they are written. -/
def writtenFunctions : List String :=
  ["__build_class__", "__import__", "abs", "aiter", "all", "anext", "any", "ascii", "bin", "breakpoint",
    "callable", "chr", "compile", "delattr", "dir", "divmod", "eval", "exec", "format", "getattr",
    "globals", "hasattr", "hash", "hex", "id", "input", "isinstance", "issubclass", "iter", "locals",
    "max", "min", "next", "oct", "open", "ord", "pow", "repr", "round", "setattr", "sorted", "sum",
    "vars"]

/-- The types that are only known by the way they are written. -/
def writtenTypes : List String :=
  ["bool", "bytearray", "bytes", "classmethod", "complex", "dict", "enumerate", "filter", "float",
    "frozenset", "int", "list", "map", "memoryview", "object", "property", "reversed", "set", "slice",
    "staticmethod", "super", "tuple", "type", "zip"]

/-- A function that is only known by the way it is written. -/
def writtenFunction (name : String) : Value :=
  .foreign ⟨"builtin_function_or_method"⟩ s!"<built-in function {name}>" 0

/-- A type that is only known by the way it is written. -/
def writtenType (name : String) : Value := .foreign ⟨"type"⟩ s!"<class '{name}'>" 0

/-- What loads the modules that are part of the interpreter. -/
def inbornLoader : Value := writtenType "_frozen_importlib.BuiltinImporter"

/-- The name of the module that the names which every namespace sees belong to. -/
def preludeName : String := "builtins"

/-- The description of that module. -/
def preludeDescription : String :=
  "Built-in functions, exceptions, and other objects.\n\nNoteworthy: None is the `nil' object; " ++
    "Ellipsis represents `...' in slices."

/-- The name of the value that says how that module was found. -/
def originName : String := "__spec__"

/-- How that module was found, given an empty list. -/
def originCell (empty : Value) : Cell :=
  .object
    [("name", .ofText preludeName), ("loader", inbornLoader), ("origin", .ofText "built-in"),
      ("loader_state", .nothing), ("submodule_search_locations", .nothing),
      ("_uninitialized_submodules", empty), ("_set_fileattr", .bool false), ("_cached", .nothing)]
    ⟨"ModuleSpec"⟩

/-- The value of a name that no namespace binds. -/
def preludeValue? (name : String) : Option Value :=
  match name with
  | "print" => some (.builtin .print)
  | "len" => some (.builtin .length)
  | "str" => some (.builtin .toText)
  | "range" => some (.builtin .range)
  | "exit" => some (.builtin (.leave "exit"))
  | "quit" => some (.builtin (.leave "quit"))
  | "help" => some (.foreign ⟨"_Helper"⟩
      "Type help() for interactive help, or help(object) for help about object." 0)
  | "Ellipsis" => some (.foreign ⟨"ellipsis"⟩ "Ellipsis" 0)
  | "NotImplemented" => some (.foreign ⟨"NotImplementedType"⟩ "NotImplemented" 0)
  | "__name__" => some (.ofText preludeName)
  | "__doc__" => some (.ofText preludeDescription)
  | "__package__" => some (.ofText "")
  | "__loader__" => some inbornLoader
  | "__debug__" => some (.bool true)
  | name =>
    if errorClasses.contains name then some (.errorClass (Fault.properKind name))
    else if writtenFunctions.contains name then some (writtenFunction name)
    else if writtenTypes.contains name then some (writtenType name)
    else none

end LiveConsole.Program
