import LiveConsole.Program.Diagnosis
import LiveConsole.Program.Parse
import LiveConsole.Program.Remark

/-!
# Reading programs

`Program.read` turns a text into statements or says why it is none, and tells what is odd about its
tokens. Nothing is run before the whole text has been read.
-/
namespace LiveConsole.Program

/-- What comes of reading a program. -/
structure Reading where
  /-- What is odd about its tokens. -/
  remarks : List Remark
  /-- The statements, or why there are none. -/
  outcome : Except Fault (List Statement)

/-- The fault of a program text with a null character. -/
def nullInText : Fault := .raised "ValueError" "source code string cannot contain null bytes"

/-- What is odd about some tokens from the front. -/
def Scanned.remarks (scanned : Scanned) (seen : Nat) : List Remark :=
  (scanned.tokens.toList.take seen).filterMap Remark.ofToken?

/-- The statements of a program text, or why the text is no program. -/
def read (text : String) : Reading :=
  if text.toList.contains '\x00' then ⟨[], .error nullInText⟩
  else
    let scanned := scan text
    let statements := if scanned.trouble.isSome then none else statements? scanned.tokens.toList
    let doubtful := statements.isNone || scanned.mayBeTooDeep
    let diagnosis := if doubtful then scanned.diagnose else ⟨none, scanned.tokens.size⟩
    ⟨scanned.remarks diagnosis.seen,
      match diagnosis.fault, statements with
      | some fault, _ => .error fault
      | none, none => .error .malformed
      | none, some statements => .ok statements⟩

end LiveConsole.Program
