import LiveConsole.FileTree.Path
import LiveConsole.Text.Blank

/-!
# Languages of an environment

Variables of an environment say which characters its programs know. The only language known here in
which a character takes several bytes is the plain one in UTF-8.
-/
namespace LiveConsole.Shell

/-- The name of the language that the environment asks characters to be read in. -/
def characterLanguage (environment : Environment) : String :=
  ((environment.nonempty? "LC_ALL").orElse fun _ =>
    (environment.nonempty? "LC_CTYPE").orElse fun _ => environment.nonempty? "LANG").getD ""

/-- The spellings of the encoding with characters of several bytes, in lower case. -/
def wideEncodings : List String := ["utf-8", "utf8"]

/-- The names of the plain language. -/
def plainLanguages : List String := ["C", "C_C"]

/-- Whether characters take several bytes in an environment. What follows an at sign is no matter. -/
def hasWideCharacters (environment : Environment) : Bool :=
  match Text.splitAt '.' ((characterLanguage environment).toList.takeWhile (· ≠ '@')) with
  | [language, encoding] =>
    plainLanguages.contains (String.ofList language) &&
      wideEncodings.contains (String.ofList (encoding.map Char.toLower))
  | _ => false

end LiveConsole.Shell
