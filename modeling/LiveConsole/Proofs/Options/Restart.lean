import LiveConsole.Proofs.CommandLine.Flags
import LiveConsole.Proofs.CommandLine.Merge
import LiveConsole.Proofs.Options.Again

/-!
# Options after a restart

A restart reads the flags that the options were written as, and the settings file again. A value that is
written as a flag comes back whatever the settings give, unless it is the two dashes that flags lose. A
value that is not written, because it is the usual one or empty, is replaced by the one in the settings:
the prompt and the module then come back only if the settings give the same.
-/
namespace LiveConsole.Options

open CommandLine (FlagValue Arguments flagsOf toldPrompt)
open FileTree (CanBeLookedUp)

/-- The value that a flag gives is its text, and no text where it is the two dashes. -/
theorem given_ofAttached (text : String) :
    (FlagValue.ofAttached text).given = if text = "--" then .other else .text text := by
  unfold FlagValue.ofAttached
  split <;> rfl

/-- A check that gives results for texts alone passes a flag if its value keeps its text and passes. -/
theorem passes_attached_iff {Result : Type} (check : Given → Checked Result) {text : String}
    {result : Option Result} (refused : ∀ found, check .other ≠ .ok (.ok found)) :
    Passes check (some (FlagValue.ofAttached text).given) result ↔
      text ≠ "--" ∧ Passes check (some (.text text)) result := by
  rw [given_ofAttached]
  by_cases dashes : text = "--"
  · rw [if_pos dashes]
    constructor
    · rintro ⟨found, passed, _⟩
      exact absurd passed (refused found)
    · exact fun both => absurd dashes both.1
  · rw [if_neg dashes]
    exact ⟨fun passes => ⟨dashes, passes⟩, And.right⟩

/-- No result comes of nothing given. -/
theorem passes_none_iff {Result : Type} {check : Given → Checked Result} {value : Option Given} :
    Passes check value none ↔ value = none := by
  cases value <;> simp [Passes]

/-- A result comes of a value that passes. -/
theorem passes_some {Result : Type} {check : Given → Checked Result} {value : Option Given}
    {result : Result} (passed : Passes check value (some result)) :
    ∃ given, value = some given ∧ check given = .ok (.ok result) := by
  cases value with
  | none => cases passed
  | some given =>
    obtain ⟨found, checked, same⟩ := passed
    cases same
    exact ⟨given, rfl, checked⟩

/-! ## One option after the other -/

section Fields

variable {place : Place} {file : Option Given} {flag : Option FlagValue}

/-- A text that is wanted comes back if it keeps its form as a flag, or is not written and the settings
give what is wanted. -/
theorem text_again_iff (told : Option String) (wanted : Option String → Prop) :
    (∃ again, Passes (fun value => plain value.asText)
        ((told.map (FlagValue.given ∘ FlagValue.ofAttached)).or file) again ∧ wanted again) ↔
      match told, file with
      | some text, _ => text ≠ "--" ∧ wanted (some text)
      | none, some value => ∃ text, value.asText = .ok text ∧ wanted (some text)
      | none, none => wanted none := by
  cases told with
  | some text =>
    have refused (found : String) : plain Given.other.asText ≠ .ok (.ok found) := by
      simp [plain, Given.asText]
    simp only [Option.map_some, Function.comp_apply, Option.some_or,
      passes_attached_iff (fun value => plain value.asText) refused]
    constructor
    · rintro ⟨again, ⟨kept, found, same, rfl⟩, fine⟩
      cases same
      exact ⟨kept, fine⟩
    · rintro ⟨kept, fine⟩
      exact ⟨some text, ⟨kept, text, rfl, rfl⟩, fine⟩
  | none =>
    rw [Option.map_none, Option.none_or]
    cases file with
    | none =>
      constructor
      · rintro ⟨again, rfl, fine⟩
        exact fine
      · exact fun fine => ⟨none, rfl, fine⟩
    | some value =>
      constructor
      · rintro ⟨again, ⟨found, same, rfl⟩, fine⟩
        exact ⟨found, Except.ok.inj same, fine⟩
      · rintro ⟨text, same, fine⟩
        exact ⟨some text, ⟨text, congrArg Except.ok same, rfl⟩, fine⟩

/-- The prompt comes back if it keeps its text as a flag, or is not written and the settings give the
usual one or none. -/
theorem prompt_again_iff (options : Options) (file : Option Given) :
    (∃ again, Passes (fun value => plain value.asText)
        (((toldPrompt options).map (FlagValue.given ∘ FlagValue.ofAttached)).or file) again ∧
        again.getD usualPrompt = options.prompt) ↔
      options.prompt ≠ "--" ∧ (options.prompt = usualPrompt →
        ∀ value, file = some value → value.asText = .ok usualPrompt) := by
  rw [text_again_iff (toldPrompt options) fun again => again.getD usualPrompt = options.prompt]
  unfold toldPrompt
  by_cases usual : options.prompt = usualPrompt
  · have kept : usualPrompt ≠ "--" := by decide
    rw [if_pos usual, usual]
    cases file with
    | none => simp [kept]
    | some value => simp [kept]
  · rw [if_neg usual]
    simp [usual]

/-- The module comes back if it keeps its name as a flag, or is not written and the settings give an
empty name or none. -/
theorem bootstrap_again_iff (bootstrap : Option String) (file : Option Given) :
    (∃ again, Passes (fun value => plain value.asText)
        (((nonempty bootstrap).map (FlagValue.given ∘ FlagValue.ofAttached)).or file) again ∧
        nonempty again = nonempty bootstrap) ↔
      bootstrap ≠ some "--" ∧
        (nonempty bootstrap = none → ∀ value, file = some value → value.asText = .ok "") := by
  rw [text_again_iff (nonempty bootstrap) fun again => nonempty again = nonempty bootstrap]
  have empty (text : String) : nonempty (some text) = none ↔ text = "" := by
    simp [nonempty, Option.filter]
  cases told : nonempty bootstrap with
  | none =>
    have kept : bootstrap ≠ some "--" := by
      rintro rfl
      cases told
    cases file with
    | none => simp [kept, nonempty]
    | some value => simp [kept, empty]
  | some text =>
    have whole : bootstrap = some text := by
      unfold nonempty at told
      exact (Option.filter_eq_some_iff.1 told).1
    have same : nonempty (some text) = some text := by
      rw [whole] at told
      exact told
    simp [whole, same]

/-- A switch that is on is set again; one that is off was off in the settings as well. -/
theorem switch_again {isSet : Bool} {result : Option Bool}
    (passed : Passes (fun value => plain value.asTruth)
      ((if isSet then some (.bool true) else none).or file) result) :
    ∃ again, again.getD false = result.getD false ∧ Passes (fun value => plain value.asTruth)
      ((if result.getD false then some (.bool true) else none).or file) again := by
  cases on : result.getD false with
  | true => exact ⟨some true, rfl, true, rfl, rfl⟩
  | false =>
    cases isSet with
    | true =>
      obtain ⟨found, same, rfl⟩ := passed
      cases same
      cases on
    | false => exact ⟨result, on, passed⟩

/-- The name of the action comes back as it is, unless it is what flags lose. -/
theorem hook_again {result : Option String}
    (passed : Passes (fun value => andThen value.asText checkHook)
      ((flag.map FlagValue.given).or file) result) (kept : result ≠ some "--") :
    Passes (fun value => andThen value.asText checkHook)
      (((nonempty result).map (FlagValue.given ∘ FlagValue.ofAttached)).or file) result := by
  cases result with
  | none =>
    have absent := (Option.or_eq_none_iff.1 (passes_none_iff.1 passed)).2
    exact passes_none_iff.2 absent
  | some name =>
    obtain ⟨value, _, found⟩ := passes_some passed
    obtain ⟨text, _, checked⟩ := andThen_ok_iff.1 found
    obtain ⟨present, again⟩ := checkHook_again checked
    have told : nonempty (some name) = some name := by simp [nonempty, Option.filter, present]
    have written : name ≠ "--" := by simpa using kept
    rw [told, Option.map_some, Option.some_or, Function.comp_apply, given_ofAttached, if_neg written]
    exact ⟨name, andThen_ok_iff.2 ⟨name, rfl, again⟩, rfl⟩

/-- The name of the action comes back if it keeps its text as a flag. -/
theorem hook_again_iff {result : Option String}
    (passed : Passes (fun value => andThen value.asText checkHook)
      ((flag.map FlagValue.given).or file) result) :
    (∃ again, Passes (fun value => andThen value.asText checkHook)
      (((nonempty result).map (FlagValue.given ∘ FlagValue.ofAttached)).or file) again) ↔
      result ≠ some "--" := by
  constructor
  · rintro ⟨again, passes⟩ rfl
    have told : nonempty (some "--") = some "--" := by decide
    rw [told, Option.map_some, Option.some_or, Function.comp_apply, given_ofAttached, if_pos rfl]
      at passes
    obtain ⟨found, refused, _⟩ := passes
    simp [andThen, Given.asText] at refused
  · exact fun kept => ⟨result, hook_again passed kept⟩

/-- A canonical path comes back if the check on it passes again. -/
theorem path_again_iff (check checkAgain : PurePath → Except Fault PurePath)
    {result : Option PurePath}
    (passed : Passes (fun value => andThen value.asPath check)
      ((flag.map FlagValue.given).or file) result)
    (canonical : ∀ path found, check path = .ok found → ∃ location, found = .ofLocation location ∧
      location.IsProper ∧ ((∃ again, checkAgain (.ofLocation location) = .ok again) ↔
        CanBeLookedUp location.text)) :
    (∃ again, Passes (fun value => andThen value.asPath checkAgain)
      (((nonempty (result.map PurePath.text)).map (FlagValue.given ∘ FlagValue.ofAttached)).or file)
      again) ↔ ∀ text, result.map PurePath.text = some text → CanBeLookedUp text := by
  cases result with
  | none =>
    have absent := (Option.or_eq_none_iff.1 (passes_none_iff.1 passed)).2
    exact ⟨fun _ => by simp, fun _ => ⟨none, passes_none_iff.2 absent⟩⟩
  | some path =>
    obtain ⟨value, _, found⟩ := passes_some passed
    obtain ⟨given, _, checked⟩ := andThen_ok_iff.1 found
    obtain ⟨location, rfl, proper, again⟩ := canonical given path checked
    have present := PurePath.text_ne_empty location
    have kept := PurePath.text_ne_dashes location
    have refused (found : PurePath) :
        andThen Given.other.asPath checkAgain ≠ .ok (.ok found) := by
      simp [andThen, Given.asPath]
    have told : nonempty (some location.text) = some location.text := by
      simp [nonempty, Option.filter, present]
    rw [Option.map_some, PurePath.text_ofLocation, told, Option.map_some, Option.some_or]
    simp only [Function.comp_apply, Option.some.injEq, forall_eq',
      passes_attached_iff (fun value => andThen value.asPath checkAgain) refused]
    rw [← again]
    constructor
    · rintro ⟨_, _, found, checkedAgain, _⟩
      obtain ⟨path, same, known⟩ := andThen_ok_iff.1 checkedAgain
      cases same
      rw [PurePath.ofText_text proper] at known
      exact ⟨found, known⟩
    · rintro ⟨found, known⟩
      refine ⟨some found, kept, found, andThen_ok_iff.2 ⟨.ofText location.text, rfl, ?_⟩, rfl⟩
      rw [PurePath.ofText_text proper]
      exact known

end Fields

/-! ## All options together -/

/-- What has to hold of options, and of the settings they were built with, for the prompt and the module
to be the same after a restart. -/
structure Carried (settings : Values) (options : Options) : Prop where
  /-- The prompt is not what flags lose. -/
  prompt : options.prompt ≠ "--"
  /-- The name of the action is not what flags lose. -/
  hook : options.hook ≠ some "--"
  /-- The name of the module is not what flags lose. -/
  bootstrap : options.bootstrap ≠ some "--"
  /-- A prompt that is the usual one is not replaced by the settings. -/
  usual : options.prompt = usualPrompt →
    ∀ value, given? settings "prompt" = some value → value.asText = .ok usualPrompt
  /-- A module that has no name is not replaced by the settings. -/
  unnamed : nonempty options.bootstrap = none →
    ∀ value, given? settings "bootstrap" = some value → value.asText = .ok ""
  /-- The path to watch can be looked up by its canonical text. -/
  watch : ∀ text, options.watch = some text → CanBeLookedUp text
  /-- The path to run from can be looked up by its canonical text. -/
  path : ∀ text, options.path = some text → CanBeLookedUp text

section Restart

variable {place : Place} {arguments : Arguments} {options : Options} {directory : PurePath}
variable {entries : Settings.Entries}

/-- The directory of the settings file has proper names, seen from a directory that is really there. -/
theorem checkConfigDir_isProper {path found : PurePath}
    (standing : place.tree.Stands place.directory) (passed : checkConfigDir place path = .ok found) :
    ∃ location, found = .ofLocation location ∧ location.IsProper := by
  unfold checkConfigDir at passed
  obtain ⟨expanded, _, resolved⟩ := bind_ok_iff.1 passed
  exact ⟨_, FileTree.resolve_ok resolved, FileTree.realLocation_isProper standing _⟩

/-- A canonical directory of the settings file is checked by its canonical form. -/
theorem checkConfigDir_ofLocation (place : Place) (location : Location) :
    checkConfigDir place (.ofLocation location) =
      place.tree.resolve place.directory (.ofLocation location) := by
  rw [checkConfigDir, PurePath.expandUser_ofLocation]
  rfl

/-- A canonical directory of the settings file is checked alike wherever that is done. -/
theorem checkConfigDir_movedTo (location elsewhere : Location) :
    checkConfigDir (place.movedTo elsewhere) (.ofLocation location) =
      checkConfigDir place (.ofLocation location) := by
  rw [checkConfigDir_ofLocation, checkConfigDir_ofLocation]
  exact FileTree.resolve_elsewhere elsewhere place.directory

/-- A canonical directory of the settings file that passes its check passes it wherever that is done. -/
theorem Passes.configDir_movedTo {location : Location} {result : Option PurePath}
    (passed : Passes (fun value => andThen value.asPath (checkConfigDir place))
      (some (.path (.ofLocation location))) result) (elsewhere : Location) :
    Passes (fun value => andThen value.asPath (checkConfigDir (place.movedTo elsewhere)))
      (some (.path (.ofLocation location))) result := by
  obtain ⟨found, checked, same⟩ := passed
  obtain ⟨_, alike, known⟩ := andThen_ok_iff.1 checked
  cases alike
  refine ⟨found, andThen_ok_iff.2 ⟨_, rfl, ?_⟩, same⟩
  rw [checkConfigDir_movedTo]
  exact known

/-- The settings file of a canonical directory is the same wherever it is loaded from. -/
theorem load_movedTo {location : Location} (proper : location.IsProper) (elsewhere : Location) :
    Settings.load (place.movedTo elsewhere) location.text = Settings.load place location.text := by
  have file : Settings.file location.text = .ofLocation (location ++ [Settings.fileName]) := by
    rw [Settings.file, PurePath.ofText_text proper]
    rfl
  have status (place : Place) : place.tree.status place.directory
      (location ++ [Settings.fileName]).text =
        place.tree.status [] (location ++ [Settings.fileName]).text :=
    FileTree.status_text place.directory []
  simp only [Settings.load, file, FileTree.pathExists, PurePath.text_ofLocation, status]
  rfl

/-- What settings and the flags that options were written as together give for each option. -/
theorem given?_again (options : Options) (directory : PurePath) (settings : Values) :
    let again := given? ((flagsOf options).merge directory settings)
    let told := fun value : Option String => value.map (FlagValue.given ∘ FlagValue.ofAttached)
    again "basic" = (if options.basic then some (.bool true) else none).or (given? settings "basic") ∧
      again "quiet" =
        (if options.quiet then some (.bool true) else none).or (given? settings "quiet") ∧
      again "hook" = (told (nonempty options.hook)).or (given? settings "hook") ∧
      again "watch" = (told (nonempty options.watch)).or (given? settings "watch") ∧
      again "path" = (told (nonempty options.path)).or (given? settings "path") ∧
      again "bootstrap" = (told (nonempty options.bootstrap)).or (given? settings "bootstrap") ∧
      again "prompt" = (told (toldPrompt options)).or (given? settings "prompt") ∧
      again "config_dir" = some (.path directory) := by
  simp only [← Option.map_map]
  exact Arguments.given?_merge_all (flagsOf options) directory settings

/-- After a restart the values pass and give the same prompt and the same module if those of the options
are carried. -/
theorem accepts_again_iff (standing : place.tree.Stands place.directory) {settings : Values}
    {reading : Reading} {asksWell : Bool} {location : Location}
    (accepts : Accepts place (arguments.merge (.ofLocation location) settings) reading)
    (settled : reading.configDir = some (.ofLocation location)) (elsewhere : Location) :
    (∃ again, Accepts (place.movedTo elsewhere)
        ((flagsOf (reading.options asksWell)).merge (.ofLocation location) settings) again ∧
        again.prompt.getD usualPrompt = (reading.options asksWell).prompt ∧
        nonempty again.bootstrap = nonempty reading.bootstrap) ↔
      Carried settings (reading.options asksWell) := by
  obtain ⟨basic, quiet, hook, watch, path, _, _, configDir⟩ :=
    Arguments.given?_merge_all arguments (.ofLocation location) settings
  obtain ⟨basicAgain, quietAgain, hookAgain, watchAgain, pathAgain, bootstrapAgain, promptAgain,
    configDirAgain⟩ := given?_again (reading.options asksWell) (.ofLocation location) settings
  obtain ⟨_, basicPasses, quietPasses, hookPasses, watchPasses, pathPasses, _, configDirPasses⟩ :=
    accepts
  rw [basic] at basicPasses
  rw [quiet] at quietPasses
  rw [hook] at hookPasses
  rw [watch] at watchPasses
  rw [path] at pathPasses
  rw [configDir, settled] at configDirPasses
  have promptIff := prompt_again_iff (reading.options asksWell) (given? settings "prompt")
  have bootstrapIff := bootstrap_again_iff reading.bootstrap (given? settings "bootstrap")
  have hookIff := hook_again_iff hookPasses
  have watchIff := path_again_iff (checkWatch place) (checkWatch (place.movedTo elsewhere))
    watchPasses fun path found passed => by
      obtain ⟨location, same, there⟩ := stands_of_checkWatch standing passed
      exact ⟨location, same, there.isProper, checkWatch_again_iff there elsewhere⟩
  have pathIff := path_again_iff (checkPath place) (checkPath (place.movedTo elsewhere))
    pathPasses fun path found passed => by
      obtain ⟨location, same, there, folder⟩ := stands_of_checkPath standing passed
      exact ⟨location, same, there.isProper, checkPath_again_iff there folder elsewhere⟩
  refine (exists_accepts_iff (fun prompt => prompt.getD usualPrompt = _)
    (fun bootstrap => nonempty bootstrap = _)).trans ?_
  rw [promptAgain, basicAgain, quietAgain, hookAgain, watchAgain, pathAgain, bootstrapAgain,
    configDirAgain]
  constructor
  · rintro ⟨prompt, _, _, hook, watch, path, bootstrap, _⟩
    exact ⟨(promptIff.1 prompt).1, hookIff.1 hook, (bootstrapIff.1 bootstrap).1,
      (promptIff.1 prompt).2, (bootstrapIff.1 bootstrap).2, watchIff.1 watch, pathIff.1 path⟩
  · intro carried
    obtain ⟨basicSet, _, basicOnce⟩ := switch_again basicPasses
    obtain ⟨quietSet, _, quietOnce⟩ := switch_again quietPasses
    exact ⟨promptIff.2 ⟨carried.prompt, carried.usual⟩, ⟨basicSet, basicOnce⟩,
      ⟨quietSet, quietOnce⟩, hookIff.2 carried.hook, watchIff.2 carried.watch,
      pathIff.2 carried.path, bootstrapIff.2 ⟨carried.bootstrap, carried.unnamed⟩,
      _, configDirPasses.configDir_movedTo elsewhere⟩

/-- Options of a command line are built from the flags and the settings file of the directory found. -/
theorem options_ok_iff (located : arguments.settingsDirectory place = .ok directory)
    (loaded : Settings.load place directory.text = .ok entries) :
    arguments.options place = .ok options ↔
      build place (arguments.merge directory (Settings.values entries)) = .ok options := by
  rw [Arguments.options, located]
  simp only [bind, Except.bind, loaded]

/-- The flags that options were written as name the directory of the settings file that they were built
with. -/
theorem settingsText_flagsOf {location : Location} (settled : options.configDir = some location.text) :
    (flagsOf options).settingsText = location.text := by
  have told : nonempty options.configDir = some location.text := by
    simp [settled, nonempty, Option.filter, PurePath.text_ne_empty location]
  have kept : FlagValue.ofAttached location.text = .text location.text := by
    rw [FlagValue.ofAttached, if_neg (PurePath.text_ne_dashes location)]
  have flag : (flagsOf options).configDir = some (.text location.text) := by
    rw [flagsOf, told, Option.map_some, kept]
  rw [Arguments.settingsText, flag]

/-- The directory of the settings file that options hold is what its check gave. -/
theorem Accepts.checked {location : Location} {settings : Values} {reading : Reading}
    (accepts : Accepts place (arguments.merge (.ofLocation location) settings) reading) :
    ∃ found, checkConfigDir place (.ofLocation location) = .ok found ∧
      reading.configDir = some found := by
  have configDir := accepts.configDir
  rw [Arguments.given?_merge, if_pos rfl] at configDir
  obtain ⟨found, checked, same⟩ := configDir
  obtain ⟨_, alike, known⟩ := andThen_ok_iff.1 checked
  cases alike
  exact ⟨found, known, same⟩

/-- Options that keep the canonical directory of the settings file have passed it through its check
unchanged. -/
theorem configDir_of_settled (standing : place.tree.Stands place.directory) {location : Location}
    (proper : location.IsProper) {settings : Values} {reading : Reading} {asksWell : Bool}
    (accepts : Accepts place (arguments.merge (.ofLocation location) settings) reading)
    (settled : (reading.options asksWell).configDir = some location.text) :
    reading.configDir = some (.ofLocation location) ∧
      checkConfigDir place (.ofLocation location) = .ok (.ofLocation location) := by
  obtain ⟨found, known, same⟩ := accepts.checked
  have unchanged : found = .ofLocation location := by
    obtain ⟨other, rfl, properToo⟩ := checkConfigDir_isProper standing known
    simp only [Reading.options, same, Option.map_some, PurePath.text_ofLocation,
      Option.some.injEq] at settled
    rw [← PurePath.ofText_text properToo, settled, PurePath.ofText_text proper]
  rw [unchanged] at known same
  exact ⟨same, known⟩

/-- Options keep the directory of the settings file that they were built with where no link on the way
to it leads back to itself. -/
theorem settled_of_complete (standing : place.tree.Stands place.directory)
    (located : arguments.settingsDirectory place = .ok directory)
    (loaded : Settings.load place directory.text = .ok entries)
    (accepted : arguments.options place = .ok options)
    (complete : ∀ path, (PurePath.ofText arguments.settingsText).expandUser place.environment =
      .ok path → (place.tree.resolution place.directory path.text).complete = true) :
    options.configDir = some directory.text := by
  unfold Arguments.settingsDirectory checkConfigDir at located
  obtain ⟨expanded, expands, resolved⟩ := bind_ok_iff.1 located
  have canonical := FileTree.resolve_ok resolved
  have again := FileTree.realLocation_again standing (complete expanded expands) place.directory
  obtain ⟨_, reading, accepts, rfl⟩ :=
    build_ok_iff.1 ((options_ok_iff located loaded).1 accepted)
  rw [canonical] at accepts
  obtain ⟨found, known, same⟩ := accepts.checked
  rw [checkConfigDir_ofLocation] at known
  have unchanged := FileTree.resolve_ok known
  rw [PurePath.text_ofLocation, again] at unchanged
  simp only [Reading.options, same, Option.map_some, unchanged, canonical]

/-- A restart keeps the prompt and the module if they are carried by the flags, or the settings agree
with them. The options are built from any command line and any settings file, in a directory that is
really there, and keep the directory of the settings file that they were built with; the restart may
happen in any other directory. -/
theorem restart_keeps_prompt_and_module_iff (standing : place.tree.Stands place.directory)
    (located : arguments.settingsDirectory place = .ok directory)
    (loaded : Settings.load place directory.text = .ok entries)
    (accepted : arguments.options place = .ok options)
    (settled : options.configDir = some directory.text) (elsewhere : Location) :
    (∃ flags again, CommandLine.read options.toArgs = .ok flags ∧
        flags.options (place.movedTo elsewhere) = .ok again ∧ again.prompt = options.prompt ∧
        nonempty again.bootstrap = nonempty options.bootstrap) ↔
      Carried (Settings.values entries) options := by
  obtain ⟨location, rfl, proper⟩ := checkConfigDir_isProper standing located
  obtain ⟨named, reading, accepts, written⟩ :=
    build_ok_iff.1 ((options_ok_iff located loaded).1 accepted)
  generalize Option.all Given.isPassable _ = asksWell at written
  subst written
  rw [PurePath.text_ofLocation] at settled loaded
  obtain ⟨same, known⟩ := configDir_of_settled standing proper accepts settled
  have locatedAgain : (flagsOf (reading.options asksWell)).settingsDirectory (place.movedTo elsewhere) =
      .ok (.ofLocation location) := by
    rw [Arguments.settingsDirectory, settingsText_flagsOf settled, PurePath.ofText_text proper,
      checkConfigDir_movedTo]
    exact known
  have loadedAgain : Settings.load (place.movedTo elsewhere) (PurePath.ofLocation location).text =
      .ok entries := by
    rw [PurePath.text_ofLocation, load_movedTo proper]
    exact loaded
  rw [← accepts_again_iff standing accepts same elsewhere]
  constructor
  · rintro ⟨flags, again, read, rebuilt, samePrompt, sameModule⟩
    rw [CommandLine.read_toArgs] at read
    cases read
    obtain ⟨_, readingAgain, acceptsAgain, rfl⟩ :=
      build_ok_iff.1 ((options_ok_iff locatedAgain loadedAgain).1 rebuilt)
    exact ⟨readingAgain, acceptsAgain, samePrompt, sameModule⟩
  · rintro ⟨readingAgain, acceptsAgain, samePrompt, sameModule⟩
    have namedAgain := (Arguments.named_merge (flagsOf (reading.options asksWell))
      (.ofLocation location) (Settings.values entries)).2 ((Arguments.named_merge _ _ _).1 named)
    exact ⟨_, _, CommandLine.read_toArgs _, (options_ok_iff locatedAgain loadedAgain).2
      (build_ok_iff.2 ⟨namedAgain, readingAgain, acceptsAgain, rfl⟩), samePrompt, sameModule⟩

end Restart

/-- A directory with a settings file that gives a prompt: `prompt: app`. -/
def promptedHome : Place where
  environment := ⟨[], none, []⟩
  tree := {
    entries := [([], .directory 0), (["shell.yaml"],
      .file 0 [112, 114, 111, 109, 112, 116, 58, 32, 97, 112, 112] false)] }
  directory := []

/-- A command line that asks for the usual prompt. -/
def askingUsual : Arguments := { Arguments.none with prompt := some (.text usualPrompt) }

/-- The result of a step is known if it is the only one that the step can have. -/
theorem ok_of_toOption {Fault Result : Type} {step : Except Fault Result} {result : Result}
    (found : step.toOption = some result) : step = .ok result := by
  cases step with
  | error fault => cases found
  | ok other =>
    cases found
    rfl

/-- A console that was asked for the usual prompt, and has it although its settings give another one,
loses it with a restart. -/
theorem restart_loses_usual_prompt :
    CommandLine.read ["--prompt=py> "] = .ok askingUsual ∧
      askingUsual.options promptedHome = .ok { usual with configDir := some "/" } ∧
      ¬∃ flags again, CommandLine.read { usual with configDir := some "/" }.toArgs = .ok flags ∧
        flags.options (promptedHome.movedTo []) = .ok again ∧ again.prompt = usualPrompt ∧
        nonempty again.bootstrap = none := by
  have read : CommandLine.read ["--prompt=py> "] = .ok askingUsual :=
    ok_of_toOption (by decide +kernel)
  have accepted : askingUsual.options promptedHome = .ok { usual with configDir := some "/" } :=
    ok_of_toOption (by decide +kernel)
  have located : askingUsual.settingsDirectory promptedHome = .ok (.ofLocation []) :=
    ok_of_toOption (by decide +kernel)
  have file : (Settings.load promptedHome (PurePath.ofLocation []).text).toOption.map
      (fun entries => given? (Settings.values entries) "prompt") = some (some (.text "app")) := by
    decide +kernel
  obtain ⟨entries, loaded, given⟩ := Option.map_eq_some_iff.1 file
  refine ⟨read, accepted, fun keeps => ?_⟩
  have carried := (restart_keeps_prompt_and_module_iff (.root ⟨0, rfl⟩) located
    (ok_of_toOption loaded) accepted rfl []).1 keeps
  have same := carried.usual rfl (.text "app") given
  exact absurd (Except.ok.inj same : "app" = usualPrompt) (by decide)

end LiveConsole.Options
