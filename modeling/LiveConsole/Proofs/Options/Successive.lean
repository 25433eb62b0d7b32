import LiveConsole.Proofs.Options.Restart

/-!
# Successive restarts

A fresh process starts in the directory that the running one has moved into, with the flags that the
options were written as. When the settings give neither a prompt nor a module, these flags bring all
options back: what is left out of them is left out of the settings as well, or given by these again. So
the flags are the same again, and any number of restarts carries them.
-/
namespace LiveConsole

/-- A running console: the place that its process was started in, and its options. -/
structure Running where
  /-- The place that its process was started in. -/
  place : Place
  /-- The options that it was started with. -/
  options : Options

namespace Running

/-- The place of a running console once it has moved into its directory to run from. -/
def moved (running : Running) : Place :=
  running.place.movedTo (running.options.prepare ⟨running.place.directory, []⟩).directory

/-- The fresh process of a restart: it stands where the running one has moved to, and builds its options
from the flags of that one; nothing when it does not get that far. -/
def restarted? (running : Running) : Option Running :=
  match CommandLine.read running.options.toArgs with
  | .error _ => none
  | .ok flags => (flags.options running.moved).toOption.map fun options => ⟨running.moved, options⟩

/-- The process after so many restarts. -/
def afterRestarts? : Nat → Running → Option Running
  | 0, running => some running
  | count + 1, running => running.restarted?.bind (afterRestarts? count)

end Running

namespace Options

open CommandLine (FlagValue Arguments flagsOf toldPrompt)

/-- Options as a fresh process has them: a module without a name is none. -/
def renewed (options : Options) : Options :=
  { options with bootstrap := nonempty options.bootstrap }

/-- Whether none of the texts of options is the one that flags lose. -/
structure Tellable (options : Options) : Prop where
  /-- The prompt is another text. -/
  prompt : options.prompt ≠ "--"
  /-- The name of the action is another text. -/
  hook : options.hook ≠ some "--"
  /-- The name of the module is another text. -/
  bootstrap : options.bootstrap ≠ some "--"

/-- Whether path resolution is idempotent on what it gave for options, and on the directory of their
settings file: the checks, made once more, give the same paths. -/
structure ResolvesAgain (place : Place) (directory : PurePath) (options : Options) : Prop where
  /-- The path to watch is resolved to itself. -/
  watch : ∀ text, options.watch = some text → checkWatch place (.ofText text) = .ok (.ofText text)
  /-- The directory to run from is resolved to itself. -/
  path : ∀ text, options.path = some text → checkPath place (.ofText text) = .ok (.ofText text)
  /-- The directory of the settings file is resolved to itself. -/
  settings : checkConfigDir place directory = .ok directory

/-! ## Canonical paths, seen from elsewhere -/

section Elsewhere

variable {place : Place} {location : Location}

/-- A canonical path to watch is checked alike wherever that is done. -/
theorem checkWatch_movedTo (proper : location.IsProper) (elsewhere : Location) :
    checkWatch (place.movedTo elsewhere) (.ofLocation location) =
      checkWatch place (.ofLocation location) := by
  have here : checkWatch place (.ofLocation location) =
      checkWatch (place.movedTo place.directory) (.ofLocation location) := rfl
  have exist : place.tree.pathExists elsewhere (.ofLocation location) =
      place.tree.pathExists place.directory (.ofLocation location) := by
    rw [FileTree.pathExists, FileTree.pathExists, PurePath.text_ofLocation,
      FileTree.status_text elsewhere place.directory]
  rw [here, checkWatch_ofLocation proper, checkWatch_ofLocation proper, exist,
    FileTree.resolve_elsewhere elsewhere place.directory]

/-- A canonical directory to run from is checked alike wherever that is done. -/
theorem checkPath_movedTo (location elsewhere : Location) :
    checkPath (place.movedTo elsewhere) (.ofLocation location) =
      checkPath place (.ofLocation location) := by
  have here : checkPath place (.ofLocation location) =
      checkPath (place.movedTo place.directory) (.ofLocation location) := rfl
  have folder : place.tree.pathIsDirectory elsewhere (.ofLocation location) =
      place.tree.pathIsDirectory place.directory (.ofLocation location) := by
    rw [FileTree.pathIsDirectory, FileTree.pathIsDirectory, PurePath.text_ofLocation,
      FileTree.status_text elsewhere place.directory]
  rw [here, checkPath_ofLocation, checkPath_ofLocation, folder,
    FileTree.resolve_elsewhere elsewhere place.directory]

end Elsewhere

/-! ## One option after the other -/

section Fields

variable {place : Place} {file : Option Given} {flag : Option FlagValue}

/-- A text that is written as a flag comes back; one that is not written stays away when the settings do
not give it. -/
theorem text_again {told : Option String} (kept : told ≠ some "--") (absent : file = none) :
    Passes (fun value => plain value.asText)
      ((told.map (FlagValue.given ∘ FlagValue.ofAttached)).or file) told := by
  cases told with
  | none => exact passes_none_iff.2 absent
  | some text =>
    have written : text ≠ "--" := by simpa using kept
    rw [Option.map_some, Option.some_or, Function.comp_apply, given_ofAttached, if_neg written]
    exact ⟨text, rfl, rfl⟩

/-- A canonical path comes back if its check, made again, gives the same path. -/
theorem path_again {check : PurePath → Except Fault PurePath}
    (checkAgain : PurePath → Except Fault PurePath) {result : Option PurePath}
    (passed : Passes (fun value => andThen value.asPath check)
      ((flag.map FlagValue.given).or file) result)
    (canonical : ∀ found, result = some found → ∃ location, found = .ofLocation location ∧
      location.IsProper ∧ checkAgain (.ofLocation location) = .ok (.ofLocation location)) :
    Passes (fun value => andThen value.asPath checkAgain)
      (((nonempty (result.map PurePath.text)).map (FlagValue.given ∘ FlagValue.ofAttached)).or file)
      result := by
  cases result with
  | none =>
    have absent := (Option.or_eq_none_iff.1 (passes_none_iff.1 passed)).2
    exact passes_none_iff.2 absent
  | some path =>
    obtain ⟨location, rfl, proper, again⟩ := canonical path rfl
    have present := PurePath.text_ne_empty location
    have kept := PurePath.text_ne_dashes location
    have told : nonempty (some location.text) = some location.text := by
      simp [nonempty, Option.filter, present]
    rw [Option.map_some, PurePath.text_ofLocation, told, Option.map_some, Option.some_or,
      Function.comp_apply, given_ofAttached, if_neg kept]
    refine ⟨.ofLocation location, andThen_ok_iff.2 ⟨.ofText location.text, rfl, ?_⟩, rfl⟩
    rw [PurePath.ofText_text proper]
    exact again

end Fields

/-! ## All options together -/

section Again

variable {place : Place} {arguments : Arguments} {options : Options} {directory : PurePath}
variable {entries : Settings.Entries}

/-- The prompt that is written as a flag is not what flags lose. -/
theorem toldPrompt_ne_dashes (kept : options.prompt ≠ "--") : toldPrompt options ≠ some "--" := by
  unfold toldPrompt
  split
  · simp
  · simpa using kept

/-- The module that is written as a flag is not what flags lose. -/
theorem nonempty_ne_dashes {text : Option String} (kept : text ≠ some "--") :
    nonempty text ≠ some "--" := by
  intro told
  unfold nonempty at told
  exact kept (Option.filter_eq_some_iff.1 told).1

/-- A prompt that is not written as a flag is the usual one. -/
theorem toldPrompt_getD (options : Options) :
    (toldPrompt options).getD usualPrompt = options.prompt := by
  unfold toldPrompt
  split
  · rename_i usual
    exact usual.symm
  · rfl

/-- A prompt that comes from a flag may be part of a command line. -/
theorem asksWell_merge (arguments : Arguments) (directory : PurePath) {settings : Values}
    (noPrompt : given? settings "prompt" = none) :
    (given? (arguments.merge directory settings) "prompt").all Given.isPassable = true := by
  obtain ⟨_, _, _, _, _, _, prompt, _⟩ := Arguments.given?_merge_all arguments directory settings
  rw [prompt, noPrompt, Option.or_none]
  rcases arguments.prompt with _ | (text | _) <;> rfl

/-- The flags that options were written as, with settings that give neither a prompt nor a module, come
to what the options came from. -/
theorem accepts_again (standing : place.tree.Stands place.directory) {settings : Values}
    {reading : Reading} {asksWell : Bool} {location : Location}
    (accepts : Accepts place (arguments.merge (.ofLocation location) settings) reading)
    (settled : reading.configDir = some (.ofLocation location))
    (noPrompt : given? settings "prompt" = none) (noModule : given? settings "bootstrap" = none)
    (tellable : Tellable (reading.options asksWell))
    (resolves : ResolvesAgain place (.ofLocation location) (reading.options asksWell))
    (elsewhere : Location) :
    ∃ basic quiet, basic.getD false = reading.basic.getD false ∧
      quiet.getD false = reading.quiet.getD false ∧
      Accepts (place.movedTo elsewhere)
        ((flagsOf (reading.options asksWell)).merge (.ofLocation location) settings)
        { reading with
          prompt := toldPrompt (reading.options asksWell)
          basic
          quiet
          bootstrap := nonempty reading.bootstrap } := by
  obtain ⟨basic, quiet, hook, watch, path, _, _, configDir⟩ :=
    Arguments.given?_merge_all arguments (.ofLocation location) settings
  obtain ⟨basicAgain, quietAgain, hookAgain, watchAgain, pathAgain, bootstrapAgain, promptAgain,
    configDirAgain⟩ := given?_again (reading.options asksWell) (.ofLocation location) settings
  obtain ⟨_, basicPasses, quietPasses, hookPasses, watchPasses, pathPasses, _, configDirPasses⟩ :=
    accepts
  rw [basic] at basicPasses
  rw [quiet] at quietPasses
  rw [hook] at hookPasses
  rw [watch] at watchPasses
  rw [path] at pathPasses
  rw [configDir, settled] at configDirPasses
  obtain ⟨basicSet, sameBasic, basicOnce⟩ := switch_again basicPasses
  obtain ⟨quietSet, sameQuiet, quietOnce⟩ := switch_again quietPasses
  have promptOnce := text_again (toldPrompt_ne_dashes tellable.prompt) noPrompt
  have bootstrapOnce := text_again (nonempty_ne_dashes tellable.bootstrap) noModule
  have hookOnce := hook_again hookPasses tellable.hook
  have watchOnce := path_again (checkWatch (place.movedTo elsewhere)) watchPasses
    fun found same => by
      obtain ⟨value, _, passed⟩ := passes_some (same ▸ watchPasses)
      obtain ⟨path, _, checked⟩ := andThen_ok_iff.1 passed
      obtain ⟨location, rfl, there⟩ := stands_of_checkWatch standing checked
      have resolved := resolves.watch location.text (by rw [Reading.options, same]; rfl)
      rw [PurePath.ofText_text there.isProper] at resolved
      exact ⟨location, rfl, there.isProper, by rw [checkWatch_movedTo there.isProper, resolved]⟩
  have pathOnce := path_again (checkPath (place.movedTo elsewhere)) pathPasses
    fun found same => by
      obtain ⟨value, _, passed⟩ := passes_some (same ▸ pathPasses)
      obtain ⟨path, _, checked⟩ := andThen_ok_iff.1 passed
      obtain ⟨location, rfl, there, _⟩ := stands_of_checkPath standing checked
      have resolved := resolves.path location.text (by rw [Reading.options, same]; rfl)
      rw [PurePath.ofText_text there.isProper] at resolved
      exact ⟨location, rfl, there.isProper, by rw [checkPath_movedTo, resolved]⟩
  refine ⟨basicSet, quietSet, sameBasic, sameQuiet, ?_⟩
  constructor
  · rw [promptAgain]
    exact promptOnce
  · rw [basicAgain]
    exact basicOnce
  · rw [quietAgain]
    exact quietOnce
  · rw [hookAgain]
    exact hookOnce
  · rw [watchAgain]
    exact watchOnce
  · rw [pathAgain]
    exact pathOnce
  · rw [bootstrapAgain]
    exact bootstrapOnce
  · rw [configDirAgain]
    exact settled ▸ configDirPasses.configDir_movedTo elsewhere

/-- The flags that options were written as give these options again, wherever they are read. -/
theorem options_again (standing : place.tree.Stands place.directory)
    (located : arguments.settingsDirectory place = .ok directory)
    (loaded : Settings.load place directory.text = .ok entries)
    (accepted : arguments.options place = .ok options)
    (noPrompt : given? (Settings.values entries) "prompt" = none)
    (noModule : given? (Settings.values entries) "bootstrap" = none)
    (tellable : Tellable options) (resolves : ResolvesAgain place directory options)
    (elsewhere : Location) :
    (flagsOf options).options (place.movedTo elsewhere) = .ok options.renewed := by
  obtain ⟨location, rfl, proper⟩ := checkConfigDir_isProper standing located
  obtain ⟨named, reading, accepts, written⟩ :=
    build_ok_iff.1 ((options_ok_iff located loaded).1 accepted)
  have asksWell := asksWell_merge arguments (.ofLocation location) noPrompt
  rw [asksWell] at written
  subst written
  obtain ⟨found, known, same⟩ := accepts.checked
  rw [resolves.settings] at known
  cases known
  have settled : (reading.options true).configDir = some location.text := by
    rw [Reading.options, same]
    rfl
  have locatedAgain : (flagsOf (reading.options true)).settingsDirectory (place.movedTo elsewhere) =
      .ok (.ofLocation location) := by
    rw [Arguments.settingsDirectory, settingsText_flagsOf settled, PurePath.ofText_text proper,
      checkConfigDir_movedTo]
    exact resolves.settings
  have loadedAgain : Settings.load (place.movedTo elsewhere) (PurePath.ofLocation location).text =
      .ok entries := by
    rw [PurePath.text_ofLocation, load_movedTo proper]
    exact loaded
  obtain ⟨basic, quiet, sameBasic, sameQuiet, acceptsAgain⟩ :=
    accepts_again standing accepts same noPrompt noModule tellable resolves elsewhere
  have namedAgain := (Arguments.named_merge (flagsOf (reading.options true))
    (.ofLocation location) (Settings.values entries)).2 ((Arguments.named_merge _ _ _).1 named)
  refine (options_ok_iff locatedAgain loadedAgain).2
    (build_ok_iff.2 ⟨namedAgain, _, acceptsAgain, ?_⟩)
  rw [asksWell_merge (flagsOf (reading.options true)) (.ofLocation location) noPrompt]
  simp only [renewed, Reading.options, sameBasic, sameQuiet, Options.mk.injEq, and_true]
  exact (toldPrompt_getD (reading.options true)).symm

/-- Checks on canonical paths give them again if their texts can be looked up, and if no link on the way
to the settings file leads back to itself. -/
theorem resolvesAgain_of_canBeLookedUp (standing : place.tree.Stands place.directory)
    (located : arguments.settingsDirectory place = .ok directory)
    (loaded : Settings.load place directory.text = .ok entries)
    (accepted : arguments.options place = .ok options)
    (watch : ∀ text, options.watch = some text → FileTree.CanBeLookedUp text)
    (path : ∀ text, options.path = some text → FileTree.CanBeLookedUp text)
    (complete : ∀ path, (PurePath.ofText arguments.settingsText).expandUser place.environment =
      .ok path → (place.tree.resolution place.directory path.text).complete = true) :
    ResolvesAgain place directory options := by
  have settled := settled_of_complete standing located loaded accepted complete
  obtain ⟨location, rfl, proper⟩ := checkConfigDir_isProper standing located
  obtain ⟨_, reading, accepts, rfl⟩ := build_ok_iff.1 ((options_ok_iff located loaded).1 accepted)
  rw [PurePath.text_ofLocation] at settled
  refine ⟨fun text same => ?_, fun text same => ?_,
    (configDir_of_settled standing proper accepts settled).2⟩
  · obtain ⟨canonical, checked, rfl⟩ := Option.map_eq_some_iff.1 same
    obtain ⟨value, _, passed⟩ := passes_some (checked ▸ accepts.watch)
    obtain ⟨given, _, known⟩ := andThen_ok_iff.1 passed
    obtain ⟨location, rfl, there⟩ := stands_of_checkWatch standing known
    have fits := watch _ same
    rw [PurePath.text_ofLocation] at fits ⊢
    rw [PurePath.ofText_text there.isProper]
    exact checkWatch_again there fits place.directory
  · obtain ⟨canonical, checked, rfl⟩ := Option.map_eq_some_iff.1 same
    obtain ⟨value, _, passed⟩ := passes_some (checked ▸ accepts.path)
    obtain ⟨given, _, known⟩ := andThen_ok_iff.1 passed
    obtain ⟨location, rfl, there, folder⟩ := stands_of_checkPath standing known
    have fits := path _ same
    rw [PurePath.text_ofLocation] at fits ⊢
    rw [PurePath.ofText_text there.isProper]
    exact checkPath_again there folder fits place.directory

/-- A running console that has moved into its directory to run from is there already when it is restarted
with the same one. -/
theorem moved_renewed (place : Place) (options : Options) :
    (⟨(⟨place, options⟩ : Running).moved, options.renewed⟩ : Running).moved =
      (⟨place, options⟩ : Running).moved := by
  unfold Running.moved prepare renewed
  cases options.path <;> rfl

/-- The flags of options do not tell a module without a name from none. -/
theorem toArgs_renewed (options : Options) : options.renewed.toArgs = options.toArgs := by
  have once : nonempty (nonempty options.bootstrap) = nonempty options.bootstrap := by
    unfold nonempty
    rw [Option.filter_filter]
    simp only [Bool.and_self]
  rw [toArgs, toArgs, renewed, once]

/-- Restarts bring the options back when the settings give neither a prompt nor a module: whatever else
the settings and the command line give, every fresh process, however many restarts there were, stands in
the directory that the first one moved into and has the options of the first one, where a module
without a name is none; and it writes them as the same flags. The first process was started in a directory
that is really there, none of the texts is the one that flags lose, and path resolution is
idempotent. -/
theorem restarts_reproduce_options (standing : place.tree.Stands place.directory)
    (located : arguments.settingsDirectory place = .ok directory)
    (loaded : Settings.load place directory.text = .ok entries)
    (accepted : arguments.options place = .ok options)
    (noPrompt : given? (Settings.values entries) "prompt" = none)
    (noModule : given? (Settings.values entries) "bootstrap" = none)
    (tellable : Tellable options) (resolves : ResolvesAgain place directory options)
    (count : Nat) :
    let first : Running := ⟨place, options⟩
    first.afterRestarts? (count + 1) = some ⟨first.moved, options.renewed⟩ ∧
      options.renewed.toArgs = options.toArgs := by
  intro first
  have again (elsewhere : Location) := options_again standing located loaded accepted noPrompt noModule
    tellable resolves elsewhere
  have once : first.restarted? = some ⟨first.moved, options.renewed⟩ := by
    rw [Running.restarted?, CommandLine.read_toArgs]
    simp only [first, Running.moved, again, Except.toOption, Option.map_some]
  have twice : (⟨first.moved, options.renewed⟩ : Running).restarted? =
      some ⟨first.moved, options.renewed⟩ := by
    have flags : flagsOf options.renewed = flagsOf options := by
      have read := CommandLine.read_toArgs options.renewed
      rw [toArgs_renewed, CommandLine.read_toArgs] at read
      exact (Except.ok.inj read).symm
    rw [Running.restarted?, CommandLine.read_toArgs, moved_renewed, flags]
    simp only [first, Running.moved, again, Except.toOption, Option.map_some]
  refine ⟨?_, toArgs_renewed options⟩
  rw [Running.afterRestarts?, once, Option.bind_some]
  induction count with
  | zero => rfl
  | succ count ih => rw [Running.afterRestarts?, twice, Option.bind_some, ih]

end Again

/-- A directory with another one in it, and a settings file that watches that: `watch: sub`. -/
def watchedHome : Place where
  environment := ⟨[], none, []⟩
  tree := {
    entries := [([], .directory 0), (["sub"], .directory 0), (["shell.yaml"],
      .file 0 [119, 97, 116, 99, 104, 58, 32, 115, 117, 98] false)] }
  directory := []

/-- A command line with an empty prompt, an action whose name looks like a flag, and a directory. -/
def askingOddly : Arguments :=
  { Arguments.none with
    prompt := some (.text ""), hook := some (.text "-a=b c"), path := some (.text "sub") }

/-- The options of such a command line there. -/
def oddOptions : Options where
  prompt := ""
  basic := false
  quiet := false
  hook := some "-a=b c"
  watch := some "/sub"
  path := some "/sub"
  bootstrap := none
  configDir := some "/"
  asksWell := true

/-- An empty prompt, a name that looks like a flag, and a directory and a path to watch that were given
without their whole paths survive three restarts. -/
theorem restarts_reproduce_odd_texts :
    CommandLine.read ["--prompt=", "--hook=-a=b c", "--path=sub"] = .ok askingOddly ∧
      askingOddly.options watchedHome = .ok oddOptions ∧
      (⟨watchedHome, oddOptions⟩ : Running).afterRestarts? 3 =
        some ⟨watchedHome.movedTo ["sub"], oddOptions⟩ := by
  have read : CommandLine.read ["--prompt=", "--hook=-a=b c", "--path=sub"] = .ok askingOddly :=
    ok_of_toOption (by decide +kernel)
  have accepted : askingOddly.options watchedHome = .ok oddOptions :=
    ok_of_toOption (by decide +kernel)
  have located : askingOddly.settingsDirectory watchedHome = .ok (.ofLocation []) :=
    ok_of_toOption (by decide +kernel)
  have file : (Settings.load watchedHome (PurePath.ofLocation []).text).toOption.map
      (fun entries => (given? (Settings.values entries) "prompt",
        given? (Settings.values entries) "bootstrap")) = some (none, none) := by
    decide +kernel
  obtain ⟨entries, loaded, given⟩ := Option.map_eq_some_iff.1 file
  have tellable : Tellable oddOptions := by
    constructor <;> decide
  have resolves : ResolvesAgain watchedHome (.ofLocation []) oddOptions := by
    refine resolvesAgain_of_canBeLookedUp (.root ⟨0, rfl⟩) located (ok_of_toOption loaded) accepted
      ?_ ?_ ?_
    · rintro text ⟨⟩
      exact ⟨by decide, by decide⟩
    · rintro text ⟨⟩
      exact ⟨by decide, by decide⟩
    · rintro path ⟨⟩
      decide +kernel
  exact ⟨read, accepted, (restarts_reproduce_options (.root ⟨0, rfl⟩) located
    (ok_of_toOption loaded) accepted (congrArg Prod.fst given) (congrArg Prod.snd given) tellable
    resolves 2).1⟩

end Options

end LiveConsole
