/-!
# Flags of the command line

Each flag has one or two spellings, of which the first is its plain one. Some flags stand alone, the
others take a value.
-/
namespace LiveConsole.CommandLine

/-- A flag. -/
inductive Flag where
  /-- Show the help text. -/
  | help
  /-- Use the basic read loop. -/
  | basic
  /-- Leave out values and status lines. -/
  | quiet
  /-- Start once an action fired. -/
  | hook
  /-- Watch a path. -/
  | watch
  /-- Run from a directory. -/
  | path
  /-- Start with the names of a module. -/
  | bootstrap
  /-- Look for the settings file in a directory. -/
  | config
  /-- Show another prompt. -/
  | prompt
  /-- Write all log records. -/
  | debug
  deriving DecidableEq, Repr

namespace Flag

/-- The spellings of a flag. -/
def spellings : Flag → List String
  | help => ["-h", "--help"]
  | basic => ["--basic"]
  | quiet => ["--quiet"]
  | hook => ["--hook"]
  | watch => ["--watch"]
  | path => ["--path"]
  | bootstrap => ["--bootstrap"]
  | config => ["--config"]
  | prompt => ["--prompt"]
  | debug => ["--debug"]

/-- All flags, in the order in which the help text lists them. -/
def all : List Flag := [help, basic, quiet, hook, watch, path, bootstrap, config, prompt, debug]

/-- Whether a flag takes a value. -/
def takesValue : Flag → Bool
  | hook | watch | path | bootstrap | config | prompt => true
  | help | basic | quiet | debug => false

/-- The name of a flag in messages: all its spellings. -/
def title (flag : Flag) : String := String.intercalate "/" flag.spellings

/-- All spellings with their flags, in order. -/
def spelled : List (String × Flag) := all.flatMap fun flag => flag.spellings.map fun spelling => (spelling, flag)

/-- The flag of a spelling. -/
def ofSpelling? (spelling : String) : Option Flag := spelled.lookup spelling

end Flag

end LiveConsole.CommandLine
