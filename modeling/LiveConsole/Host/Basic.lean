import LiveConsole.Actions.Basic
import LiveConsole.Program.Execute

/-!
# The host and its modules

The host is the program that the console runs inside of. It has modules that can be imported: the body
of a module binds names, fires actions, may raise a fault, and binds further names. A module that was
imported is not run again, and one whose body is still running counts as imported.
-/
namespace LiveConsole

/-- A module of the host, by what its body does. -/
structure HostModule where
  /-- The names bound first. -/
  early : List (String × Value)
  /-- The actions fired then, in order. -/
  fires : List String
  /-- The fault that the body raises, if it does. -/
  fault : Option Fault
  /-- The names bound at the end. -/
  late : List (String × Value)

/-- The host, and what is outside of it. -/
structure Host (Outside : Type) where
  /-- The modules that can be imported, by name. -/
  modules : List (String × HostModule)
  /-- The modules imported or being imported, each with the key of its namespace. -/
  loaded : List (String × String)
  /-- The modules whose bodies were started, the latest first; a module is there once for each time. -/
  bodies : List String
  /-- The actions of the host; the only callbacks are requests to start the console. -/
  actions : Actions Unit
  /-- What is outside of the host. -/
  outside : Outside

namespace Host

variable {Outside : Type}

/-- A host with modules of which none is imported. -/
def ofModules (modules : List (String × HostModule)) (outside : Outside) : Host Outside :=
  ⟨modules, [], [], .empty, outside⟩

/-- A step of the host, which may change everything and may end in a fault. -/
abbrev Step (Outside Result : Type) := Program.Run (Host Outside) Result

/-- The host as it is now. -/
def current : Step Outside (Host Outside) := return (← get).world

/-- Change the host. -/
def update (change : Host Outside → Host Outside) : Step Outside Unit :=
  modify fun store => { store with world := change store.world }

/-- Change what is outside of the host. -/
def updateOutside (change : Outside → Outside) : Step Outside Unit :=
  update fun host => { host with outside := change host.outside }

/-- Bind names in a namespace, in order. -/
def bindAll (space : String) (bindings : List (String × Value)) : Step Outside Unit :=
  modify fun store =>
    store.setSpace space
      (bindings.foldl (fun names binding => names.set binding.1 binding.2) (store.space space))

/-- A namespace with the two names that every namespace starts with. -/
def initialNames (name : String) : List (String × Value) :=
  [("__name__", .ofText name), ("__doc__", .nothing)]

end Host

end LiveConsole
