import LiveConsole.Proofs.CommandLine.Merge
import LiveConsole.Proofs.FileTree.Alike

/-!
# Settings behind flags

Options are built from the values given for them, and from the values that are given by other names. A value
of the settings that stands where a flag gives one is neither: it is replaced before anything is checked, and so
is the directory of the settings file. So settings that differ only in such values, in trees that differ
only in what their files say, come to the same options or to the same fault.
-/
namespace LiveConsole

/-- Whether two places differ at most in what is in files and in times. -/
structure Place.Alike (place other : Place) : Prop where
  /-- The surroundings are the same. -/
  environment : place.environment = other.environment
  /-- The trees have the same shape. -/
  tree : place.tree.Alike other.tree
  /-- The working directory is the same. -/
  directory : place.directory = other.directory

namespace Options

/-- The values that are not given by the name of an option, in their order. -/
def strangers (values : Values) : Values :=
  values.filter fun entry => !entry.1.any names.contains

/-! ## What checks see -/

section

variable {place other : Place} (alike : place.Alike other)
include alike

/-- Paths to watch are checked in the same way. -/
theorem checkWatch_eq : checkWatch place = checkWatch other := by
  funext path
  simp only [checkWatch, Watch.resolve, alike.environment, alike.directory, alike.tree.pathExists,
    alike.tree.resolve]

/-- Directories to run from are checked in the same way. -/
theorem checkPath_eq : checkPath place = checkPath other := by
  funext path
  simp only [checkPath, alike.environment, alike.directory, alike.tree.pathIsDirectory,
    alike.tree.resolve]

/-- Directories of the settings file are checked in the same way. -/
theorem checkConfigDir_eq : checkConfigDir place = checkConfigDir other := by
  funext path
  simp only [checkConfigDir, alike.environment, alike.directory, alike.tree.resolve]

end

/-! ## What options are built from -/

/-- Whether all names are texts can be told from those that are no options. -/
theorem any_isNone_strangers (values : Values) :
    (values.any fun entry => entry.1.isNone) = (strangers values).any fun entry => entry.1.isNone := by
  rw [strangers, List.any_filter]
  refine congrArg values.any (funext fun entry => ?_)
  cases entry.1 <;> simp

/-- Whether the kind of options is named can be told from the names that are no options. -/
theorem any_reserved_strangers (values : Values) :
    (values.any fun entry => entry.1 == some "cls") =
      (strangers values).any fun entry => entry.1 == some "cls" := by
  rw [strangers, List.any_filter]
  refine congrArg values.any (funext fun entry => ?_)
  by_cases reserved : entry.1 = some "cls"
  · rw [reserved]
    decide
  · simp [reserved]

/-- The problems of names that are no options come from these alone. -/
theorem unknownProblems_strangers (values : Values) :
    unknownProblems values = unknownProblems (strangers values) := by
  rw [strangers, unknownProblems, unknownProblems, List.filterMap_filter]
  refine List.filterMap_congr fun entry _ => ?_
  obtain ⟨name, value⟩ := entry
  cases name with
  | none => simp
  | some name => by_cases known : name ∈ names <;> simp [known]

/-- Building options comes to the same if the same values are given for them, by no other names but the
same ones. -/
theorem build_congr {place other : Place} {values others : Values} (alike : place.Alike other)
    (same : ∀ name ∈ names, given? values name = given? others name)
    (strange : strangers values = strangers others) : build place values = build other others := by
  have fields {Result : Type} {name : String} (known : name ∈ names) (check : Given → Checked Result)
      (problems : List Problem) : field values name check problems = field others name check problems := by
    rw [field, field, same name known]
  have checked : check place values = check other others := by
    simp only [check, checkWatch_eq alike, checkPath_eq alike, checkConfigDir_eq alike,
      fields (show "prompt" ∈ names by decide), fields (show "basic" ∈ names by decide),
      fields (show "quiet" ∈ names by decide), fields (show "hook" ∈ names by decide),
      fields (show "watch" ∈ names by decide), fields (show "path" ∈ names by decide),
      fields (show "bootstrap" ∈ names by decide), fields (show "config_dir" ∈ names by decide),
      same "prompt" (by decide), unknownProblems_strangers values, unknownProblems_strangers others,
      strange]
  rw [build, build, checked, any_isNone_strangers values, any_isNone_strangers others,
    any_reserved_strangers values, any_reserved_strangers others, strange]

/-- Giving a value for an option touches no other names. -/
theorem strangers_give {name : String} (known : name ∈ names) (values : Values) (value : Given) :
    strangers (give values name value) = strangers values := by
  unfold give
  split
  · rw [strangers, strangers, List.filter_map]
    have kept : (values.filter ((fun entry : Option String × Given => !entry.1.any names.contains) ∘
        fun entry => if entry.1 = some name then (entry.1, value) else entry)) =
          values.filter fun entry => !entry.1.any names.contains := by
      refine List.filter_congr fun entry _ => ?_
      rw [Function.comp_apply]
      split <;> rfl
    rw [kept]
    refine (List.map_congr_left fun entry member => ?_).trans (List.map_id _)
    have apart : entry.1 ≠ some name := by
      intro same
      have strange := (List.mem_filter.1 member).2
      simp [same, known] at strange
    rw [if_neg apart, id]
  · simp [strangers, known]

end Options

namespace CommandLine.Arguments

open Options (Values given? strangers strangers_give build_congr Passes plain andThen checkHook checkWatch
  checkPath checkConfigDir)

variable (arguments : Arguments)

/-- Whether a name is that of an option whose value in the settings is replaced. -/
def shadows (name : String) : Bool :=
  name == "config_dir" || (arguments.given.lookup name).isSome

/-- The values of settings that are not replaced, in their order. -/
def unshadowed (settings : Values) : Values := settings.filter fun entry => !entry.1.any arguments.shadows

/-- Whether the settings file that a command line leads to holds entries. -/
def Reads (place : Place) (entries : Settings.Entries) : Prop :=
  ∃ directory, arguments.settingsDirectory place = .ok directory ∧
    Settings.load place directory.text = .ok entries

/-- Only options are replaced. -/
theorem mem_names_of_shadows {name : String} (shadowed : arguments.shadows name = true) :
    name ∈ Options.names := by
  rcases Bool.or_eq_true_iff.1 shadowed with same | given
  · rw [eq_of_beq same]
    decide
  · obtain ⟨entry, member, same⟩ := List.lookup_isSome_iff.1 given
    rw [eq_of_beq same]
    exact arguments.mem_names_of_mem_given member

/-- The names that are no options stay as they are when flags are put in the place of settings. -/
theorem strangers_merge (directory : PurePath) (settings : Values) :
    strangers (arguments.merge directory settings) = strangers settings :=
  arguments.merge_eq strangers_give directory settings

/-- The names that are no options are among the values that are not replaced. -/
theorem strangers_unshadowed (settings : Values) :
    strangers (arguments.unshadowed settings) = strangers settings := by
  rw [strangers, unshadowed, List.filter_filter, strangers]
  refine List.filter_congr fun entry _ => ?_
  cases entry.1 with
  | none => rfl
  | some name =>
    by_cases shadowed : arguments.shadows name = true
    · simp [arguments.mem_names_of_shadows shadowed]
    · simp [shadowed]

/-- A value that is not replaced is found among those that are not. -/
theorem given?_unshadowed {name : String} (kept : arguments.shadows name = false) (settings : Values) :
    given? (arguments.unshadowed settings) name = given? settings name := by
  have found : (arguments.unshadowed settings).lookup (some name) = settings.lookup (some name) := by
    unfold unshadowed
    induction settings with
    | nil => rfl
    | cons entry settings ih =>
      obtain ⟨other, value⟩ := entry
      by_cases same : some name = other
      · rw [← same]
        simp [kept]
      · have apart : (some name == other) = false := beq_false_of_ne same
        rw [List.filter_cons, List.lookup_cons, apart]
        split
        · rw [List.lookup_cons, apart]
          exact ih
        · exact ih
  rw [given?, found, given?]

/-- Flags and settings together give the same values if the settings agree in those that are not replaced. -/
theorem given?_merge_congr {settings others : Values}
    (same : arguments.unshadowed settings = arguments.unshadowed others) (directory : PurePath)
    (name : String) :
    given? (arguments.merge directory settings) name = given? (arguments.merge directory others) name := by
  rw [given?_merge, given?_merge]
  by_cases own : name = "config_dir"
  · rw [if_pos own, if_pos own]
  · rw [if_neg own, if_neg own]
    cases flag : arguments.given.lookup name with
    | some value => rfl
    | none =>
      have kept : arguments.shadows name = false := by simp [shadows, own, flag]
      rw [← arguments.given?_unshadowed kept settings, same, arguments.given?_unshadowed kept others]

/-- Settings that agree in the values that are not replaced come to the same options, or to the same fault. -/
theorem options_congr {place other : Place} (alike : place.Alike other)
    {entries others : Settings.Entries} (read : arguments.Reads place entries)
    (alsoRead : arguments.Reads other others)
    (same : arguments.unshadowed (Settings.values entries) =
      arguments.unshadowed (Settings.values others)) :
    arguments.options place = arguments.options other := by
  obtain ⟨directory, found, loaded⟩ := read
  obtain ⟨twin, alsoFound, alsoLoaded⟩ := alsoRead
  have twins : arguments.settingsDirectory place = arguments.settingsDirectory other := by
    rw [settingsDirectory, settingsDirectory, Options.checkConfigDir_eq alike]
  cases (found.symm.trans twins).trans alsoFound
  simp only [options, found, loaded, alsoFound, alsoLoaded, bind, Except.bind]
  refine build_congr alike (fun name _ => arguments.given?_merge_congr same directory name) ?_
  rw [strangers_merge, strangers_merge, ← arguments.strangers_unshadowed, same, strangers_unshadowed]

/--
Whether options are drawn from flags and settings: each is the value of its flag if there is one, else the
value that the settings give, once it has passed its check, and what it usually is where neither gives one.
-/
structure Draws (place : Place) (settings : Values) (directory : PurePath) (options : Options) : Prop where
  /-- The prompt. -/
  prompt : ∃ result, Passes (fun value => plain value.asText)
    ((arguments.prompt.map FlagValue.given).or (given? settings "prompt")) result ∧
    options.prompt = result.getD usualPrompt
  /-- Whether the basic read loop is asked for. -/
  basic : ∃ result, Passes (fun value => plain value.asTruth)
    ((if arguments.basic then some (.bool true) else .none).or (given? settings "basic")) result ∧
    options.basic = result.getD false
  /-- Whether values and status lines are left out. -/
  quiet : ∃ result, Passes (fun value => plain value.asTruth)
    ((if arguments.quiet then some (.bool true) else .none).or (given? settings "quiet")) result ∧
    options.quiet = result.getD false
  /-- The action whose firing starts the console. -/
  hook : Passes (fun value => andThen value.asText checkHook)
    ((arguments.hook.map FlagValue.given).or (given? settings "hook")) options.hook
  /-- The path to watch. -/
  watch : ∃ result, Passes (fun value => andThen value.asPath (checkWatch place))
    ((arguments.watch.map FlagValue.given).or (given? settings "watch")) result ∧
    options.watch = result.map PurePath.text
  /-- The directory to run from. -/
  path : ∃ result, Passes (fun value => andThen value.asPath (checkPath place))
    ((arguments.path.map FlagValue.given).or (given? settings "path")) result ∧
    options.path = result.map PurePath.text
  /-- The module whose names the console starts with. -/
  bootstrap : Passes (fun value => plain value.asText)
    ((arguments.bootstrap.map FlagValue.given).or (given? settings "bootstrap")) options.bootstrap
  /-- The directory of the settings file is the one that was looked into. -/
  configDir : ∃ found, checkConfigDir place directory = .ok found ∧ options.configDir = some found.text
  /-- Whether the prompt may be part of a command line is told by the value that it comes from. -/
  asksWell : options.asksWell =
    ((arguments.prompt.map FlagValue.given).or (given? settings "prompt")).all Given.isPassable

/-- Options that are built are drawn from flags and settings. -/
theorem draws_of_ok {place : Place} {entries : Settings.Entries} {directory : PurePath} {options : Options}
    (found : arguments.settingsDirectory place = .ok directory)
    (loaded : Settings.load place directory.text = .ok entries)
    (built : arguments.options place = .ok options) :
    arguments.Draws place (Settings.values entries) directory options := by
  simp only [Arguments.options, found, loaded, bind, Except.bind] at built
  obtain ⟨-, reading, accepts, rfl⟩ := Options.build_ok_iff.1 built
  obtain ⟨basic, quiet, hook, watch, path, bootstrap, prompt, configDir⟩ :=
    arguments.given?_merge_all directory (Settings.values entries)
  obtain ⟨result, passed, same⟩ := configDir ▸ accepts.configDir
  obtain ⟨value, read, checked⟩ := Options.andThen_ok_iff.1 passed
  cases read
  exact {
    prompt := ⟨_, prompt ▸ accepts.prompt, rfl⟩
    basic := ⟨_, basic ▸ accepts.basic, rfl⟩
    quiet := ⟨_, quiet ▸ accepts.quiet, rfl⟩
    hook := hook ▸ accepts.hook
    watch := ⟨_, watch ▸ accepts.watch, rfl⟩
    path := ⟨_, path ▸ accepts.path, rfl⟩
    bootstrap := bootstrap ▸ accepts.bootstrap
    configDir := ⟨result, checked, by rw [Options.Reading.options, same]; rfl⟩
    asksWell := by rw [Options.Reading.options, prompt] }

/--
Flags stand in front of settings. Settings that agree in the values that flags do not replace, leaving out the
directory of the settings file, come to the same options or to the same fault, and options that are
built are drawn from the flags first, then from the settings.
-/
theorem flags_shadow_settings (arguments : Arguments) :
    (∀ {place other : Place} {entries others : Settings.Entries}, place.Alike other →
      arguments.Reads place entries → arguments.Reads other others →
      arguments.unshadowed (Settings.values entries) = arguments.unshadowed (Settings.values others) →
      arguments.options place = arguments.options other) ∧
    ∀ {place : Place} {entries : Settings.Entries} {options : Options}, arguments.Reads place entries →
      arguments.options place = .ok options →
      ∃ directory, arguments.settingsDirectory place = .ok directory ∧
        arguments.Draws place (Settings.values entries) directory options := by
  refine ⟨fun alike read alsoRead same => arguments.options_congr alike read alsoRead same, ?_⟩
  rintro place entries options ⟨directory, found, loaded⟩ built
  exact ⟨directory, found, arguments.draws_of_ok found loaded built⟩

/-- A root directory with a settings file. -/
def settled (content : List UInt8) : Place where
  environment := ⟨[], .none, []⟩
  tree := { entries := [([], .directory 0), (["shell.yaml"], .file 0 content false)] }
  directory := []

/-- The settings `quiet: 3` and `hook: h`, and the settings `hook: h` and `config_dir: 1`, behind a flag that asks for
quiet: what cannot be read as the value of an option is replaced in both. -/
theorem quiet_shadows_settings :
    let arguments : Arguments := { Arguments.none with quiet := true }
    let place := settled [113, 117, 105, 101, 116, 58, 32, 51, 10, 104, 111, 111, 107, 58, 32, 104]
    let other := settled [104, 111, 111, 107, 58, 32, 104, 10, 99, 111, 110, 102, 105, 103, 95, 100, 105, 114,
      58, 32, 49]
    place.Alike other ∧ (∃ entries others, arguments.Reads place entries ∧ arguments.Reads other others ∧
        Settings.values entries = [(some "quiet", .int 3), (some "hook", .text "h")] ∧
        Settings.values others = [(some "hook", .text "h"), (some "config_dir", .int 1)] ∧
        arguments.unshadowed (Settings.values entries) = arguments.unshadowed (Settings.values others) ∧
        ∃ directory, arguments.settingsDirectory place = .ok directory ∧
          arguments.Draws place (Settings.values entries) directory
            { Options.usual with quiet := true, hook := some "h", configDir := some "/" }) ∧
      arguments.options place = arguments.options other := by
  intro arguments place other
  have alike : place.Alike other :=
    ⟨rfl, .cons ⟨rfl, .directory⟩ (.cons ⟨rfl, .file⟩ .nil), rfl⟩
  have located : arguments.settingsDirectory place = .ok (.ofLocation []) := by decide +kernel
  have alsoLocated : arguments.settingsDirectory other = .ok (.ofLocation []) := by decide +kernel
  have file : (Settings.load place (PurePath.ofLocation []).text).toOption.map Settings.values =
      some [(some "quiet", .int 3), (some "hook", .text "h")] := by decide +kernel
  have alsoFile : (Settings.load other (PurePath.ofLocation []).text).toOption.map Settings.values =
      some [(some "hook", .text "h"), (some "config_dir", .int 1)] := by decide +kernel
  have built : arguments.options place =
      .ok { Options.usual with quiet := true, hook := some "h", configDir := some "/" } := by
    decide +kernel
  have loadedOf {step : Except Fault Settings.Entries} {values : Values}
      (found : step.toOption.map Settings.values = some values) :
      ∃ entries, step = .ok entries ∧ Settings.values entries = values := by
    cases step with
    | error fault => cases found
    | ok entries => exact ⟨entries, rfl, Option.some.inj found⟩
  obtain ⟨entries, loaded, values⟩ := loadedOf file
  obtain ⟨others, alsoLoaded, alsoValues⟩ := loadedOf alsoFile
  have read : arguments.Reads place entries := ⟨_, located, loaded⟩
  have alsoRead : arguments.Reads other others := ⟨_, alsoLocated, alsoLoaded⟩
  have same : arguments.unshadowed (Settings.values entries) =
      arguments.unshadowed (Settings.values others) := by
    rw [values, alsoValues]
    decide
  obtain ⟨shadowed, drawn⟩ := flags_shadow_settings arguments
  exact ⟨alike, ⟨entries, others, read, alsoRead, values, alsoValues, same, drawn read built⟩,
    shadowed alike read alsoRead same⟩

end CommandLine.Arguments

end LiveConsole
