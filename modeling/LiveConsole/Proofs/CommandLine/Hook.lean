import LiveConsole.CommandLine.Run
import LiveConsole.Proofs.Options.Restart
import LiveConsole.Proofs.Starter.Bootstrap
import LiveConsole.Proofs.Text.Blank

/-!
# Command lines with a hook and a bootstrap module

A command line that names a hook puts the console off and imports the bootstrap module, whose body may fire
the hook. What the command line comes to is then told by the consoles that ran in the middle of the body, and
by what the body did: the exit code of the last console, a hook that never fired, or the first fault.
-/
namespace LiveConsole

namespace Options

/-- A name that passes the check of hooks is not blank. -/
theorem allBlank_of_checkHook {name hook : String} (checked : checkHook name = .ok hook) :
    Text.allBlank hook = false := by
  obtain ⟨rfl, filled⟩ := checkHook_ok_iff.1 checked
  rw [← Bool.not_eq_true]
  intro blank
  have all : ∀ c ∈ Text.trim name.toList, Text.isBlank c = true := by
    simpa [Text.allBlank, Text.trimmed] using blank
  have nothing : Text.trim (Text.trim name.toList) = [] := by
    rw [Text.trim, Text.trimStart, List.dropWhile_eq_nil_iff.2 all]
    rfl
  rw [Text.trim_trim] at nothing
  exact filled (by rw [Text.trimmed, nothing])

end Options

namespace CommandLine

open Starter (Hears Finds faultOf? codeOf? binding withBindings takenBack answerWithin opened runIn scopeOf
  loopParts)

variable {setting : Setting} {words : List String} {machine : Machine} {arguments : Arguments}
variable {options : Options} {hook name : String} {module : HostModule}

/-- The hook of options that were built is not blank. -/
theorem allBlank_of_options {place : Place} (built : arguments.options place = .ok options)
    (asked : options.hook = some hook) : Text.allBlank hook = false := by
  rcases located : arguments.settingsDirectory place with fault | directory
  · rw [Arguments.options, located] at built
    cases built
  rcases loaded : Settings.load place directory.text with fault | settings
  · rw [Arguments.options, located] at built
    simp only [bind, Except.bind, loaded] at built
    cases built
  have checked : Options.build place (arguments.merge directory (Settings.values settings)) = .ok options := by
    rw [Arguments.options, located] at built
    simpa only [bind, Except.bind, loaded] using built
  obtain ⟨_, reading, accepts, rfl⟩ := Options.build_ok_iff.1 checked
  have passes := accepts.hook
  rw [show reading.hook = some hook from asked] at passes
  unfold Options.Passes at passes
  split at passes
  · cases passes
  · obtain ⟨found, read, same⟩ := passes
    obtain ⟨text, _, passed⟩ := Options.andThen_ok_iff.1 read
    cases same
    exact Options.allBlank_of_checkHook passed

/-! ## The start of the console -/

/-- What surrounds the starter of a command line. -/
def starterOf (setting : Setting) (options : Options) : Starter.Surroundings Prompter Machine :=
  Machine.surroundings options setting.installed setting.showIdent

/-- What the starter of a command line begins with: nothing is imported, and nothing fired. -/
def beginning (setting : Setting) (options : Options) (machine : Machine) : Starter.Everything Machine :=
  let directory := (options.prepare ⟨machine.system.directory, []⟩).directory
  let machine := { machine with system := { machine.system with directory } }
  ⟨setting.heap, [], "", .ofModules setting.modules ⟨none, none, none, machine⟩⟩

/-- The key of the namespace of a module that is imported before all others. -/
def firstSpace (name : String) : String := s!"{name} {0}"

/-- What the body of the bootstrap module begins to fire its actions with: the console is put off, the module
counts as imported, and the names that come first are bound in its namespace. -/
def bodyBegun (setting : Setting) (options : Options) (hook name : String) (module : HostModule)
    (machine : Machine) : Starter.Everything Machine :=
  binding (firstSpace name) (Host.initialNames name ++ module.early)
    (Starter.importing name (firstSpace name)
      (Starter.deferred (starterOf setting options) hook (beginning setting options machine)))

/-- The namespace of the module then holds the names that come first. -/
theorem space_of_bodyBegun {store : Starter.Everything Machine}
    (same : store.spaces = (bodyBegun setting options hook name module machine).spaces) :
    store.space (firstSpace name) = withBindings (Host.initialNames name ++ module.early) .empty := by
  have own : (bodyBegun setting options hook name module machine).space (firstSpace name) =
      withBindings (Host.initialNames name ++ module.early) .empty := Starter.space_setSpace ..
  rw [Program.Store.space] at own ⊢
  rw [same, own]

/-- What the import of the bootstrap module comes to behind the consoles that ran in it. -/
def imported (hook name : String) (module : HostModule) (outcomes : List (Except Fault Nat))
    (last : Starter.Everything Machine) : Except Fault Nat × Starter.Everything Machine :=
  match faultOf? outcomes, module.fault with
  | some fault, _ => (.error fault, takenBack name last)
  | none, some fault => (.error fault, takenBack name last)
  | none, none =>
    let done := binding (firstSpace name) module.late last
    match codeOf? outcomes with
    | some code => (.ok code, done)
    | none => (.error (neverFired hook), done)

section Imported

variable {outcomes : List (Except Fault Nat)} {last : Starter.Everything Machine}

/-- The import ends in the fault of a console, or else in that of the body. -/
theorem imported_of_fault {fault : Fault} (raised : (faultOf? outcomes).or module.fault = some fault) :
    imported hook name module outcomes last = (.error fault, takenBack name last) := by
  rw [imported]
  generalize faultOf? outcomes = first at raised ⊢
  generalize module.fault = own at raised ⊢
  rcases first with _ | first <;> rcases own with _ | own <;> cases raised <;> rfl

/-- An import without a fault binds the last names, and comes to the exit code of the last console or else to
the hook that did not fire. -/
theorem imported_of_none (well : faultOf? outcomes = none) (whole : module.fault = none) :
    imported hook name module outcomes last =
      ((codeOf? outcomes).elim (.error (neverFired hook)) .ok, binding (firstSpace name) module.late last) := by
  rw [imported, well, whole]
  rcases codeOf? outcomes with _ | _ <;> rfl

/-- What is done behind the consoles starts no body. -/
theorem bodies_imported : (imported hook name module outcomes last).2.world.bodies = last.world.bodies := by
  rcases raised : (faultOf? outcomes).or module.fault with _ | fault
  · obtain ⟨well, whole⟩ := Option.or_eq_none_iff.1 raised
    rw [imported_of_none well whole]
    rfl
  · rw [imported_of_fault raised]
    rfl

end Imported

/-- What the start of the console comes to with a hook and a bootstrap module: the body of the module is run,
and consoles run in the middle of it. -/
structure Started (setting : Setting) (options : Options) (hook name : String) (module : HostModule)
    (machine : Machine) (outcomes : List (Except Fault Nat)) (last : Starter.Everything Machine) : Prop where
  /-- Consoles run at the firings of the hook, each in the namespace of the module. -/
  hears : Hears (starterOf setting options) (answerWithin (starterOf setting options) setting.modules.length)
    hook name (firstSpace name) module.fires (bodyBegun setting options hook name module machine) outcomes last
  /-- The start comes to what the import does. -/
  ran : (startConsole (starterOf setting options)).run (beginning setting options machine) =
    imported hook name module outcomes last
  /-- No console started the body of the module once more. -/
  once : last.world.bodies.count name = 1

/-- A console that is put off is started by importing the bootstrap module: then there is an exit code, or the
hook did not fire. -/
theorem startConsole_run_of_invoke {around : Starter.Surroundings Prompter Machine}
    {store begun : Starter.Everything Machine} (named : Starter.bootstrap? around = some name)
    (invoked : (Starter.invoke around).run store = (.ok none, begun)) :
    (startConsole around).run store =
      match (Starter.importModule around name).run begun with
      | (.error fault, after) => (.error fault, after)
      | (.ok _, after) =>
        ((Starter.exitCodeOf after).elim (.error (neverFired (around.options.hook.getD ""))) .ok, after) := by
  rw [startConsole, Host.run_bind, invoked]
  simp only [named]
  rw [Host.run_bind]
  rcases (Starter.importModule around name).run begun with ⟨_ | _, after⟩
  · rfl
  · change (match Starter.exitCodeOf after with
      | some code => return code
      | none => throw (neverFired (around.options.hook.getD "")) : Starter.Step Machine Nat).run after =
      ((Starter.exitCodeOf after).elim (.error (neverFired (around.options.hook.getD ""))) .ok, after)
    cases Starter.exitCodeOf after <;> rfl

/-- The start of the console with a hook and a bootstrap module imports the module. -/
theorem startConsole_run (sound : Text.allBlank hook = false) (asked : options.hook = some hook)
    (names : options.bootstrap = some name) (finds : Finds setting.modules name module)
    (basic : Implementation.choose setting.installed options.basic options.watch.isSome = .basic) :
    ∃ outcomes last, Started setting options hook name module machine outcomes last := by
  let begun := Starter.deferred (starterOf setting options) hook (beginning setting options machine)
  have named : Starter.bootstrap? (starterOf setting options) = some name := by
    change options.bootstrap.filter (fun name => !name.isEmpty) = some name
    rw [names]
    simp [Option.filter, finds.named]
  have invoked : (Starter.invoke (starterOf setting options)).run (beginning setting options machine) =
      (.ok none, begun) := by
    rw [Starter.invoke_run (starterOf setting options) asked sound]
    rfl
  have waiting : Starter.Waiting hook name (firstSpace name) setting.modules.length
      (bodyBegun setting options hook name module machine).world :=
    -- Nothing was imported or registered before, so the request has the first number.
    ⟨rfl, ⟨0, rfl⟩, ⟨List.lookup_cons_self, .inl rfl⟩, rfl⟩
  obtain ⟨outcomes, last, hears, fired, grown⟩ :=
    Starter.hears_of_waiting (starterOf setting options) module.fires basic named waiting
  refine ⟨outcomes, last, hears, ?_, ?_⟩
  · have found : Finds begun.world.modules name module := finds
    rw [startConsole_run_of_invoke named invoked,
      Starter.importModule_run_of_fired (starterOf setting options) found rfl fired]
    rcases raised : (faultOf? outcomes).or module.fault with _ | fault
    · obtain ⟨well, whole⟩ := Option.or_eq_none_iff.1 raised
      have kept : Starter.exitCodeOf (binding (firstSpace name) module.late last) = codeOf? outcomes := by
        have code := hears.exitCodeOf_last well
        rwa [show Starter.exitCodeOf (bodyBegun setting options hook name module machine) = none from rfl,
          Option.or_none] at code
      have hooked : (starterOf setting options).options.hook.getD "" = hook := by
        rw [show (starterOf setting options).options.hook = some hook from asked, Option.getD_some]
      rw [imported_of_none well whole, ← kept, ← hooked]
      rfl
    · rw [imported_of_fault raised]
  · rw [grown.bodies waiting.runs.loaded]
    exact List.count_cons_self

/-! ## What the command line comes to -/

/-- The outcome of a command line whose console came to a result: a fault of the set-up is written as a line
and ends in the exit code 1. -/
def reported (debugging : Bool) (result : Except Fault Nat) (store : Starter.Everything Machine) : Outcome :=
  let machine := Starter.outsideOf store
  let log := writtenLog debugging machine.log
  match result with
  | .ok code => ⟨.ok code, store.output, log, machine⟩
  | .error fault =>
    if fault.isConfiguration then ⟨.ok faultCode, store.output, log ++ faultLine fault, machine⟩
    else ⟨.error fault, store.output, log, machine⟩

/-- A command line reports what the start of its console came to. -/
theorem run_of_startConsole {result : Except Fault Nat} {store : Starter.Everything Machine}
    (told : CommandLine.read words = .ok arguments) (built : arguments.options machine.place = .ok options)
    (started : (startConsole (starterOf setting options)).run (beginning setting options machine) =
      (result, store)) :
    run setting words machine = reported arguments.debug result store := by
  have ran : runOptions setting options machine = (result, store.output, Starter.outsideOf store) := by
    unfold starterOf beginning at started
    simp only [runOptions, started]
  rw [run, told]
  simp only [built, ran]
  rfl

/-- The line of a hook that did not fire names the hook and nothing else. -/
theorem faultLine_neverFired (hook : String) :
    faultLine (neverFired hook) = "Error: The hook '" ++ hook ++ "' never fired.\n" := by
  have mentioned : occursIn "hook".toList ("The hook '" ++ hook ++ "' never fired.").toList = true := by
    simp [occursIn]
  have message : (neverFired hook).message = "The hook '" ++ hook ++ "' never fired." := by
    rw [neverFired, Fault.message, mentioned]
    rfl
  have opening : "Error: " ++ "The hook '" = "Error: The hook '" := by decide
  have ending : "' never fired." ++ "\n" = "' never fired.\n" := by decide
  calc faultLine (neverFired hook)
      = "Error: " ++ ("The hook '" ++ hook ++ "' never fired.") ++ "\n" := by rw [faultLine, message]
    _ = "Error: " ++ "The hook '" ++ hook ++ ("' never fired." ++ "\n") := by simp only [String.append_assoc]
    _ = "Error: The hook '" ++ hook ++ "' never fired.\n" := by rw [opening, ending]

/-- What a command line came to that puts its console off until a hook fires and imports a bootstrap module:
the outcomes are those of the consoles that ran while the body of the module fired its actions, in order, and
the last store is the one that the firings left. -/
structure HookReport (setting : Setting) (options : Options) (debugging : Bool) (hook name : String)
    (module : HostModule) (machine : Machine) (outcome : Outcome) (outcomes : List (Except Fault Nat))
    (last : Starter.Everything Machine) : Prop where
  /-- The command line reports what the start of its console came to. -/
  ran : let started := (startConsole (starterOf setting options)).run (beginning setting options machine)
    outcome = reported debugging started.1 started.2
  /-- Consoles run at the firings of the hook, each in the namespace of the module. -/
  hears : Hears (starterOf setting options) (answerWithin (starterOf setting options) setting.modules.length)
    hook name (firstSpace name) module.fires (bodyBegun setting options hook name module machine) outcomes last
  /-- The body of the module is started once, whatever the consoles do, and it ends as it may. -/
  once : ((startConsole (starterOf setting options)).run
    (beginning setting options machine)).2.world.bodies.count name = 1
  /-- A console starts where the hook is among the actions that are fired, and only there. -/
  started : hook ∈ module.fires ↔ outcomes ≠ []
  /-- The first console begins with the namespaces that the body of the module left. -/
  first : ∀ {outcome rest}, outcomes = outcome :: rest →
    ∃ store after,
      (opened (starterOf setting options) (firstSpace name) store).spaces =
          (bodyBegun setting options hook name module machine).spaces ∧
        runIn (starterOf setting options)
          (answerWithin (starterOf setting options) setting.modules.length) (firstSpace name) store =
            (outcome, after)
  /-- The names that the body bound before are seen then by code that runs in the console. -/
  visible : ∀ {text value} {store : Starter.Everything Machine},
    store.spaces = (bodyBegun setting options hook name module machine).spaces →
      (withBindings (Host.initialNames name ++ module.early) .empty).get? text = some value →
        ∀ call constants,
          (Program.eval { scopeOf (starterOf setting options) call (firstSpace name) with constants }
            (.name text)).run store = (.ok value, store)
  /-- The names that code binds in a console are bound in the namespace of the module. -/
  bound : ∀ call constants text expression (store : Starter.Everything Machine) {value after},
    let scope := { scopeOf (starterOf setting options) call (firstSpace name) with constants }
    (Program.eval scope expression).run store = (.ok value, after) →
      ((Program.runSimple scope (.assign [text] expression)).run store).2.space (firstSpace name) =
        (after.space (firstSpace name)).set text value
  /-- The names that the body binds in the end are bound there too, with what the consoles left. -/
  late : faultOf? outcomes = none → module.fault = none →
    ((startConsole (starterOf setting options)).run (beginning setting options machine)).2.space
      (firstSpace name) = withBindings module.late (last.space (firstSpace name))
  /-- Where a console ran, and neither the consoles nor the body ended in a fault, the exit code is that of the
  last console. -/
  code : hook ∈ module.fires → faultOf? outcomes = none → module.fault = none →
    ∃ code, outcomes.getLast? = some (.ok code) ∧ outcome.result = .ok code
  /-- Where the hook is not fired and the body does not end in a fault, that is told, and the exit code is 1. -/
  never : hook ∉ module.fires → module.fault = none →
    outcome.result = .ok 1 ∧ outcome.errorOutput =
      writtenLog debugging outcome.machine.log ++ ("Error: The hook '" ++ hook ++ "' never fired.\n")
  /-- A fault that evaluated code raises is the outcome of the console that runs the code. -/
  raised : ∀ {call fault} {store : Starter.Everything Machine},
    let begun := opened (starterOf setting options) (firstSpace name) store
    Console.Raises (loopParts (starterOf setting options) call) options (firstSpace name) fault
        ((starterOf setting options).loops (Starter.outsideOf begun)) begun →
      (runIn (starterOf setting options) call (firstSpace name) store).1 = .error fault
  /-- The fault of a console, or else that of the body, goes to the caller unless it is one of the set-up. -/
  fault : ∀ {fault}, (faultOf? outcomes).or module.fault = some fault → fault.isConfiguration = false →
    outcome.result = .error fault

/-- A host with one module, which binds a name, fires two actions, and binds another name. -/
def firingSetting : Setting where
  modules := [("app", ⟨[("early", .ofText "first")], ["other", "init"], none, [("late", .ofText "last")]⟩)]
  heap := .empty
  installed := []
  showIdent _ := "0"

/-- A machine with a shell and one line to be read. -/
def shellMachine : Machine where
  system := {
    tree := {
      entries := [([], .directory 0), (["bin"], .directory 0),
        (["bin", "bash"], .file 0 Shell.programMark true)] }
    directory := []
    environment := ⟨[], none, []⟩
    input := Shell.ofText "early\n" }
  temporary := .ofLocation ["tmp"]
  platform := ⟨"posix", true⟩
  interpreter := "/bin/console"
  invocation := ⟨none, []⟩
  replacementFault := none
  replacements := []
  log := []

/-- A command line that asks for the basic console at the second of the actions. -/
def askingForInit : Arguments :=
  { Arguments.none with basic := true, hook := some (.text "init"), bootstrap := some (.text "app") }

/-- The options of that command line. -/
def initOptions : Options :=
  { Options.usual with
    basic := true, hook := some "init", bootstrap := some "app", configDir := some "/" }

end CommandLine

end LiveConsole
