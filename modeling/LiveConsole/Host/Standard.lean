import LiveConsole.Host.Basic

/-!
# The modules that every host has

A few modules are there whatever the host is. They are part of the interpreter, so importing one runs
nothing of the host; what they bind is written down here as far as it is plain data, and the functions of
the mathematical module by the way they are written.
-/
namespace LiveConsole.Host

/-- What a name of such a module is bound to. -/
inductive StandardValue where
  /-- The value of what produces none. -/
  | nothing
  /-- A truth value. -/
  | flag (value : Bool)
  /-- An integer. -/
  | integer (value : Int)
  /-- A floating point number, by its text. -/
  | number (text : String)
  /-- A text. -/
  | text (value : String)
  /-- A function that is only known by the way it is written. -/
  | function
  /-- A module. -/
  | module (name : String)

/-- A module that every host has. -/
structure StandardModule where
  /-- The name that it has itself, which may be another one than it is found under. -/
  ownName : String
  /-- Its description. -/
  description : Option String
  /-- The names bound in it. -/
  names : List (String × StandardValue)

namespace StandardModule

/-- Functions by their names. -/
def functions (names : List String) : List (String × StandardValue) := names.map (·, .function)

/-- The module of mathematical functions and numbers. -/
def mathematics : StandardModule where
  ownName := "math"
  description := some ("This module provides access to the mathematical functions\n" ++
    "defined by the C standard.")
  names :=
    functions
      ["acos", "acosh", "asin", "asinh", "atan", "atan2", "atanh", "cbrt", "ceil", "copysign", "cos",
        "cosh", "degrees", "dist", "erf", "erfc", "exp", "exp2", "expm1", "fabs", "factorial", "floor",
        "fmod", "frexp", "fsum", "gamma", "gcd", "hypot", "isclose", "isfinite", "isinf", "isnan",
        "isqrt", "lcm", "ldexp", "lgamma", "log", "log1p", "log10", "log2", "modf", "pow", "radians",
        "remainder", "sin", "sinh", "sqrt", "tan", "tanh", "trunc", "prod", "perm", "comb",
        "nextafter", "ulp"] ++
      [("pi", .number "3.141592653589793"), ("e", .number "2.718281828459045"),
        ("tau", .number "6.283185307179586"), ("inf", .number "inf"), ("nan", .number "nan")]

/-- What separates the parts of paths. -/
def pathSigns : List (String × StandardValue) :=
  [("curdir", .text "."), ("pardir", .text ".."), ("extsep", .text "."), ("sep", .text "/"),
    ("pathsep", .text ":"), ("defpath", .text "/bin:/usr/bin"), ("altsep", .nothing),
    ("devnull", .text "/dev/null")]

/-- The module of paths. -/
def paths : StandardModule where
  ownName := "posixpath"
  description := none
  names := pathSigns ++
    [("os", .module "os"), ("sys", .module "sys"), ("stat", .module "stat"),
      ("genericpath", .module "genericpath"), ("supports_unicode_filenames", .flag false)]

/-- The module of the operating system. -/
def operatingSystem : StandardModule where
  ownName := "os"
  description := none
  names :=
    [("abc", .module "abc"), ("sys", .module "sys"), ("st", .module "stat"), ("name", .text "posix"),
      ("linesep", .text "\n"), ("path", .module "posixpath"), ("F_OK", .integer 0),
      ("R_OK", .integer 4), ("W_OK", .integer 2), ("X_OK", .integer 1), ("O_RDONLY", .integer 0),
      ("O_WRONLY", .integer 1), ("O_RDWR", .integer 2), ("O_APPEND", .integer 1024),
      ("O_CREAT", .integer 64), ("O_EXCL", .integer 128), ("O_TRUNC", .integer 512),
      ("EX_OK", .integer 0), ("EX_USAGE", .integer 64)] ++ pathSigns ++
    [("SEEK_SET", .integer 0), ("SEEK_CUR", .integer 1), ("SEEK_END", .integer 2),
      ("supports_bytes_environ", .flag true), ("P_WAIT", .integer 0), ("P_NOWAIT", .integer 1),
      ("P_NOWAITO", .integer 1)]

/-- The module of the interpreter. -/
def interpreter : StandardModule where
  ownName := "sys"
  description := none
  names :=
    [("api_version", .integer 1013), ("platform", .text "linux"),
      ("maxsize", .integer 0x7FFFFFFFFFFFFFFF), ("maxunicode", .integer 0x10FFFF),
      ("byteorder", .text "little"), ("abiflags", .text ""),
      ("float_repr_style", .text "short"), ("platlibdir", .text "lib"), ("pycache_prefix", .nothing),
      ("dont_write_bytecode", .flag false)]

/-- The modules that every host has, by the names that they are found under. -/
def all : List (String × StandardModule) :=
  [("math", mathematics), ("os", operatingSystem), ("os.path", paths), ("sys", interpreter)]

end StandardModule

/-- Whether a module is one that every host has. -/
def isStandard (name : String) : Bool := (StandardModule.all.lookup name).isSome

variable {Outside : Type}

/-- The value that a name of such a module is bound to. -/
def standardValue (name : String) : StandardValue → Step Outside Value
  | .nothing => return .nothing
  | .flag value => return .bool value
  | .integer value => Program.newInt value
  | .number text => return .ofFloat (.ofText text) (← Program.freshIdent)
  | .text value => Program.newText value
  | .function => return Program.writtenFunction name
  | .module name => return .module name

/-- Bind the names of such a module in a namespace. -/
def bindStandard (space : String) (module : StandardModule) : Step Outside Unit := do
  let description := (module.description.map Value.ofText).getD .nothing
  bindAll space
    [("__name__", .ofText module.ownName), ("__doc__", description), ("__package__", .ofText "")]
  module.names.forM fun (name, value) => do
    bindAll space [(name, ← standardValue name value)]

end LiveConsole.Host
