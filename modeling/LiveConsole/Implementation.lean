/-!
# Choosing a console

Other consoles than the basic read loop may be installed. Only the basic one restarts on a change, so
it is used whenever a path is watched, when it is asked for, and when there is no other.
-/
namespace LiveConsole

/-- A kind of console. -/
inductive Implementation where
  /-- The console of IPython. -/
  | ipython
  /-- The console of ptpython. -/
  | ptpython
  /-- The read loop of this library. -/
  | basic
  deriving DecidableEq, Repr

namespace Implementation

/-- The name of a kind of console. -/
def name : Implementation → String
  | ipython => "ipython"
  | ptpython => "ptpython"
  | basic => "basic"

/-- The consoles that may be installed with the modules they come in, in order of preference. -/
def candidates : List (Implementation × String) := [(ipython, "IPython"), (ptpython, "ptpython")]

/-- The console to use, given the modules that are installed. -/
def choose (installed : List String) (askedForBasic watching : Bool) : Implementation :=
  if askedForBasic || watching then basic
  else
    match candidates.find? fun candidate => installed.contains candidate.2 with
    | some candidate => candidate.1
    | none => basic

end Implementation

end LiveConsole
