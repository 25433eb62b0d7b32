/-!
# Log records

A record of what happened inside the console, for those who look after it. Records below a threshold
are left out of the log; each record is written as one line.
-/
namespace LiveConsole

/-- How much a record matters. -/
inductive Level where
  /-- Of interest when something is looked into. -/
  | debug
  /-- Worth knowing. -/
  | info
  /-- Something did not work. -/
  | warning
  deriving DecidableEq, Repr

namespace Level

/-- The name of a level. -/
def name : Level → String
  | debug => "DEBUG"
  | info => "INFO"
  | warning => "WARNING"

end Level

/-- One record. -/
structure LogRecord where
  /-- How much it matters. -/
  level : Level
  /-- The part of the console that it comes from. -/
  logger : String
  /-- What happened. -/
  message : String
  deriving DecidableEq, Repr

namespace LogRecord

/-- The line that a record is written as. -/
def line (record : LogRecord) : String :=
  record.level.name ++ " " ++ record.logger ++ ": " ++ record.message ++ "\n"

/-- Whether a record is written: all of them when debugging, else those that matter most. -/
def isWritten (record : LogRecord) (debugging : Bool) : Bool :=
  debugging || record.level == .warning

end LogRecord

end LiveConsole
