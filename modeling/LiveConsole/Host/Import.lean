import LiveConsole.Host.Standard

/-!
# Importing modules

The body of a module runs in a namespace of its own. When it ends in a fault the module counts as not
imported, and the next import runs it again in a new namespace; what was bound in the old one stays
there for those who have seen it.
-/
namespace LiveConsole.Host

variable {Outside : Type}

/-- The fault of a module that cannot be found. -/
def missing (name : String) : Fault :=
  .raised "ModuleNotFoundError" ("No module named " ++ Text.quoted name)

/-- The fault of a module inside of one that has no modules inside. -/
def notPackage (name : String) (outer : String) : Fault :=
  .raised "ModuleNotFoundError"
    ("No module named " ++ Text.quoted name ++ "; " ++ Text.quoted outer ++ " is not a package")

/-- The fault of a name that is meant to be seen from another module. -/
def relativeName (name : String) : Fault :=
  .raised "TypeError"
    ("the 'package' argument is required to perform a relative import for " ++ Text.quoted name)

section Import

variable (call : Step Outside Unit)

/-- Fire an action of the host: count it, then answer each request made for it before. -/
def fire (name : String) : Step Outside Unit := do
  update fun host => { host with actions := host.actions.begin name }
  ((← current).actions.called name).forM fun _ => call

/-- The namespace of the import that is started next. -/
def nextSpace (name : String) : Step Outside String := return s!"{name} {(← current).bodies.length}"

/-- Run the body of a module in a namespace. -/
def runBody (space name : String) (module : HostModule) : Step Outside Unit := do
  bindAll space (initialNames name ++ module.early)
  module.fires.forM (fire call)
  match module.fault with
  | some fault => throw fault
  | none => bindAll space module.late

/-- Note that a module counts as imported, and that its body is started. -/
def markLoaded (name space : String) : Step Outside Unit :=
  update fun host =>
    { host with loaded := (name, space) :: host.loaded, bodies := name :: host.bodies }

/-- Note that a module no longer counts as imported. -/
def unmarkLoaded (name : String) : Step Outside Unit :=
  update fun host => { host with loaded := host.loaded.filter fun entry => entry.1 ≠ name }

/-- Import a module that every host has: its namespace. -/
def importStandard (name : String) (module : StandardModule) : Step Outside String := do
  match (← current).loaded.lookup name with
  | some space => return space
  | none => do
    let space ← nextSpace name
    markLoaded name space
    bindStandard space module
    return space

/-- Import a module by its whole name: its namespace. -/
def importWhole (name : String) : Step Outside String := do
  match StandardModule.all.lookup name with
  | some module => importStandard name module
  | none => do
    let host ← current
    match host.loaded.lookup name with
    | some space => return space
    | none =>
      match host.modules.lookup name with
      | none => throw (missing name)
      | some module => do
        let space ← nextSpace name
        markLoaded name space
        try runBody call space name module
        catch fault =>
          unmarkLoaded name
          throw fault
        return space

/-- Import a module inside of one that was imported, and then what is inside of that, part by part: no
module of the host has others inside. -/
def importInside (outer space : String) : List String → Step Outside String
  | [] => return space
  | part :: parts => do
    let name := outer ++ "." ++ part
    if isStandard name then importInside name (← importWhole call name) parts
    else throw (notPackage name outer)

/-- Import a module: its namespace. -/
def importModule (name : String) : Step Outside String := do
  if name.startsWith "." then throw (relativeName name)
  let outer := Program.topModule name
  let parts := (Text.splitAt '.' name.toList).tail.map String.ofList
  importInside call outer (← importWhole call outer) parts

/-- Import a module from evaluated code: the value that the first part of its name is bound to. -/
def findModule (name : String) : Step Outside Value := do
  let _ ← importModule call name
  return .module (Program.topModule name)

/-- Where evaluated code runs inside the host, which takes no note of remarks. -/
def scope (space : String) : Program.Scope (Host Outside) :=
  ⟨space, findModule call, fun _ => return (), Program.usualPatience, []⟩

end Import

end LiveConsole.Host
