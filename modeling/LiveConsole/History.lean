import LiveConsole.Text.Digest
import LiveConsole.FileTree.Path

/-!
# Where history is kept

Sessions of one user in one working directory share a history file. Its name is a digest of the two.
-/
namespace LiveConsole.History

/-- What the name of every history file starts with. -/
def fileStart : String := "live-shell-history-"

/-- The variables that may name the user, in order of preference. -/
def userVariables : List String := ["LOGNAME", "USER", "LNAME", "USERNAME"]

/-- The login name of the user: the first variable that is set to something, else the account. -/
def currentUser (environment : Environment) : String :=
  match userVariables.findSome? environment.nonempty? with
  | some name => name
  | none => environment.account.getD ""

/-- The text whose digest names a history file. -/
def key (directory : String) (user : String) : String := directory ++ user

/-- The history file of a directory and a user, inside the directory for temporary files. -/
def file (temporary : PurePath) (directory : String) (user : String) : PurePath :=
  temporary.child (fileStart ++ Text.Digest.ofText (key directory user))

end LiveConsole.History
