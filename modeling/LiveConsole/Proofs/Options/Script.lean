import LiveConsole.Options.Restart
import LiveConsole.Proofs.Options.Successive

/-!
# The script of a restart

The command line of a restart names the program by the canonical path of the script that the process was
started with, seen from the directory that the process stands in when it is restarted. A process that has
moved into its directory to run from may stand elsewhere than it did at its start, and a script with a
relative name is then another one.
-/
namespace LiveConsole.Options

variable {place : Place} {values : Values} {options : Options} {invocation : Invocation}

/-- The name of the script that a process was started with. -/
def Invocation.script (invocation : Invocation) : String :=
  (invocation.arguments.head?.filter (fun text => !text.isEmpty)).getD usualProgram

/-- Whether a process was started with a script, not with a module. -/
def Invocation.RunsScript (invocation : Invocation) : Prop :=
  invocation.module.filter (fun name => !name.isEmpty) = none

/-- The command line of a restart, as it is made in a place. -/
def restartIn (place : Place) (interpreter : String) (options : Options) (invocation : Invocation) :
    List String :=
  restartCommand interpreter (programWords place invocation) options

/-- A script is named by its canonical location. -/
theorem restartIn_script (script : invocation.RunsScript) (interpreter : String) :
    restartIn place interpreter options invocation =
      interpreter :: (place.tree.realLocation place.directory invocation.script).text :: options.toArgs := by
  unfold Invocation.RunsScript at script
  simp only [restartIn, restartCommand, programWords, script]
  rfl

/-- The directory to run from that options were built with is really there. -/
theorem stands_of_build (standing : place.tree.Stands place.directory)
    (built : build place values = .ok options) {text : String} (told : options.path = some text) :
    ∃ location, text = location.text ∧ place.tree.Stands location := by
  obtain ⟨_, reading, accepts, rfl⟩ := build_ok_iff.1 built
  obtain ⟨canonical, checked, rfl⟩ := Option.map_eq_some_iff.1 told
  obtain ⟨value, _, passed⟩ := passes_some (checked ▸ accepts.path)
  obtain ⟨given, _, known⟩ := andThen_ok_iff.1 passed
  obtain ⟨location, rfl, there, _⟩ := stands_of_checkPath standing known
  exact ⟨location, PurePath.text_ofLocation location, there⟩

/-- A console that has moved into its directory to run from stands where something is really there. -/
theorem stands_moved (standing : place.tree.Stands place.directory)
    (built : build place values = .ok options) :
    place.tree.Stands (⟨place, options⟩ : Running).moved.directory := by
  unfold Running.moved prepare
  cases told : options.path with
  | none => exact standing
  | some text =>
    obtain ⟨location, rfl, there⟩ := stands_of_build standing built told
    have parts : (PurePath.ofText location.text).parts = location := by
      rw [PurePath.ofText_text there.isProper, PurePath.ofLocation]
    simp only [Place.movedTo, parts]
    exact there

/-- How the command line of a restart, once a console has moved into its directory to run from, compares with
the one that it would have had before. -/
structure ScriptLaw (place moved : Place) (interpreter : String) (options : Options)
    (invocation : Invocation) : Prop where
  /-- Before, the program is the script that the process was started with, if its name leads there. -/
  started : ∀ location spared,
    place.tree.locate place.directory invocation.script = .ok (location, spared) →
      restartIn place interpreter options invocation = interpreter :: location.text :: options.toArgs
  /-- Afterwards, it is whatever the same name leads to from the directory to run from. -/
  restarted : ∀ location spared,
    place.tree.locate moved.directory invocation.script = .ok (location, spared) →
      restartIn moved interpreter options invocation = interpreter :: location.text :: options.toArgs
  /-- The command lines are the same just if the name has the same canonical location from both directories.
  -/
  same : restartIn moved interpreter options invocation = restartIn place interpreter options invocation ↔
    place.tree.realLocation moved.directory invocation.script =
      place.tree.realLocation place.directory invocation.script
  /-- That is so for every name from the root. -/
  rooted : FileTree.IsRooted invocation.script →
    restartIn moved interpreter options invocation = restartIn place interpreter options invocation
  /-- It is so where no directory to run from is told. -/
  stays : options.path = none →
    restartIn moved interpreter options invocation = restartIn place interpreter options invocation
  /-- For a relative name that neither leads up nor through links it is so only if the console has stayed
  where it was. -/
  relative : ¬FileTree.IsRooted invocation.script →
    Location.IsProper (PurePath.ofText invocation.script).parts →
      place.tree.Unlinked (place.directory ++ (PurePath.ofText invocation.script).parts) →
        place.tree.Unlinked (moved.directory ++ (PurePath.ofText invocation.script).parts) →
          (restartIn moved interpreter options invocation = restartIn place interpreter options invocation ↔
            moved.directory = place.directory)

/-- A restart names the script as it is found from the directory to run from. Options are built in a directory
that is really there, for a process that was started with a script. Moving into the directory to run from
leaves the command line of a restart as it was only where the name of the script means the same from there: so
it is with a name from the root and without a directory to run from, but a plain relative name stands for a
script in the new directory. -/
theorem restart_names_script_from_directory (standing : place.tree.Stands place.directory)
    (built : build place values = .ok options) (script : invocation.RunsScript) (interpreter : String) :
    ScriptLaw place (⟨place, options⟩ : Running).moved interpreter options invocation := by
  have there := stands_moved standing built
  have tree : (⟨place, options⟩ : Running).moved.tree = place.tree := rfl
  have same : restartIn (⟨place, options⟩ : Running).moved interpreter options invocation =
      restartIn place interpreter options invocation ↔
      place.tree.realLocation (⟨place, options⟩ : Running).moved.directory invocation.script =
        place.tree.realLocation place.directory invocation.script := by
    rw [restartIn_script script, restartIn_script script, tree]
    constructor
    · intro commands
      have texts := List.head_eq_of_cons_eq (List.tail_eq_of_cons_eq commands)
      exact PurePath.text_injective (FileTree.realLocation_isProper there _)
        (FileTree.realLocation_isProper standing _) texts
    · intro locations
      rw [locations]
  refine ⟨fun location spared found => ?_, fun location spared found => ?_, same, fun rooted => ?_,
    fun untold => ?_, fun isRelative proper unlinked unlinkedThere => ?_⟩
  · rw [restartIn_script script, FileTree.realLocation_of_locate standing found]
  · rw [restartIn_script script, tree, FileTree.realLocation_of_locate there found]
  · exact same.2 (rooted.realLocation _ _)
  · have stayed : (⟨place, options⟩ : Running).moved = place := by
      simp only [Running.moved, prepare, untold, Place.movedTo]
    rw [stayed]
  · rw [same, FileTree.realLocation_relative isRelative there.isProper proper unlinkedThere,
      FileTree.realLocation_relative isRelative standing.isProper proper unlinked, List.append_left_inj]

/-- A script beside the directory of a project. -/
def scriptHome : Place where
  environment := ⟨[], none, []⟩
  tree := { entries := [([], .directory 0), (["host"], .directory 0), (["shell"], .file 0 [] true)] }
  directory := []

/-- The options of a console that runs from the directory of the project. -/
def hostedOptions : Options := { usual with path := some "/host" }

/-- A process that was started with the relative name of the script. -/
def relativeScript : Invocation := ⟨none, ["./shell", "--path=host"]⟩

/-- The restart of a console that was started with a relative name and has moved into the directory of a project
names a script that is not there. -/
theorem restart_names_missing_script :
    scriptHome.tree.Stands scriptHome.directory ∧
      build scriptHome [(some "path", .text "host")] = .ok hostedOptions ∧ relativeScript.RunsScript ∧
      restartIn scriptHome "python3" hostedOptions relativeScript =
        ["python3", "/shell", "--path=/host"] ∧
      restartIn (⟨scriptHome, hostedOptions⟩ : Running).moved "python3" hostedOptions relativeScript =
        ["python3", "/host/shell", "--path=/host"] ∧
      scriptHome.tree.realLocation ["host"] "./shell" ≠ scriptHome.tree.realLocation [] "./shell" := by
  have standing : scriptHome.tree.Stands scriptHome.directory := .root ⟨0, rfl⟩
  have built : build scriptHome [(some "path", .text "host")] = .ok hostedOptions :=
    ok_of_toOption (by decide +kernel)
  have before : restartIn scriptHome "python3" hostedOptions relativeScript =
      ["python3", "/shell", "--path=/host"] := by decide +kernel
  have after : restartIn (⟨scriptHome, hostedOptions⟩ : Running).moved "python3" hostedOptions
      relativeScript = ["python3", "/host/shell", "--path=/host"] := by decide +kernel
  have law := restart_names_script_from_directory standing built (rfl : relativeScript.RunsScript) "python3"
  refine ⟨standing, built, rfl, before, after, fun locations => ?_⟩
  have same := law.same.2 locations
  rw [before, after] at same
  exact absurd same (by decide)

end LiveConsole.Options
