import LiveConsole.Options.Basic

/-!
# The command line of a restart

A fresh process is started by the same interpreter, on the same program, with flags that reproduce the
options of the running one. The program is a module or a script.
-/
namespace LiveConsole.Options

/-- How the running process was told which program to run. -/
structure Invocation where
  /-- The name of the module that the process runs, if it runs one. -/
  module : Option String
  /-- The program and its arguments. -/
  arguments : List String

/-- The last part of the name of a module that is run as a program. -/
def mainPart : String := ".__main__"

/-- The name of a module to run, without the part that stands for running it. -/
def moduleToRun (name : String) : String :=
  let chars := name.toList
  let part := mainPart.toList
  if part.isSuffixOf chars then String.ofList (chars.take (chars.length - part.length)) else name

/-- The program that is meant when the process was not told one. -/
def usualProgram : String := "live-shell"

/-- The words that name the program: a module, or the canonical path of a script. -/
def programWords (place : Place) (invocation : Invocation) : List String :=
  match invocation.module.filter (fun name => !name.isEmpty) with
  | some name => ["-m", moduleToRun name]
  | none =>
    let script := (invocation.arguments.head?.filter (fun text => !text.isEmpty)).getD usualProgram
    [Location.text (place.tree.realLocation place.directory script)]

/-- The command line of a restart. -/
def restartCommand (interpreter : String) (program : List String) (options : Options) : List String :=
  interpreter :: program ++ options.toArgs

end LiveConsole.Options
