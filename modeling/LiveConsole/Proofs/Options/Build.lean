import LiveConsole.CommandLine.Merge

/-!
# What options are built from

Options are built if every name that a value is given by is the name of an option, unless nothing is
given by it, and every value given for an option passes the check of that option. An option depends on
nothing but the value given for it; a value given by a flag is that value, whatever the settings give in
its place.
-/
namespace LiveConsole.Options

/-! ## Values that pass -/

/-- Whether a check of an option passes with a result: nothing given gives no result, and a value gives
the one that the check comes to. -/
def Passes {Result : Type} (check : Given → Checked Result) (value : Option Given)
    (result : Option Result) : Prop :=
  match value with
  | none => result = none
  | some value => ∃ found, check value = .ok (.ok found) ∧ result = some found

/-- A field that leaves no problem had none before, and its check passes. -/
theorem field_ok_nil_iff {Result : Type} {values : Values} {name : String}
    {check : Given → Checked Result} {problems : List Problem} {result : Option Result} :
    field values name check problems = .ok (result, []) ↔
      problems = [] ∧ Passes check (given? values name) result := by
  unfold field Passes
  cases given? values name with
  | none =>
    simp only [Except.ok.injEq, Prod.mk.injEq]
    exact ⟨fun both => ⟨both.2, both.1.symm⟩, fun both => ⟨both.2.symm, both.1⟩⟩
  | some value =>
    simp only [bind, Except.bind]
    rcases check value with fault | (message | found)
    · simp
    · simp [pure, Except.pure]
    · simp only [pure, Except.pure, Except.ok.injEq, Prod.mk.injEq]
      constructor
      · rintro ⟨rfl, rfl⟩
        exact ⟨rfl, found, rfl, rfl⟩
      · rintro ⟨rfl, other, same, rfl⟩
        exact ⟨by rw [same], rfl⟩

/-- A check behind the reading of a value passes if both do. -/
theorem andThen_ok_iff {Read Result : Type} {read : Except String Read}
    {check : Read → Except Fault Result} {result : Result} :
    andThen read check = .ok (.ok result) ↔ ∃ value, read = .ok value ∧ check value = .ok result := by
  cases read with
  | error message => simp [andThen]
  | ok value =>
    cases found : check value with
    | ok other => simp [andThen, found]
    | error fault =>
      have refused : ofFault fault ≠ (.ok (.ok result) : Checked Result) := by
        unfold ofFault
        split <;> simp
      simp [andThen, found, refused]

/-- What the values given for options come to. -/
structure Reading where
  /-- The prompt. -/
  prompt : Option String
  /-- Whether the basic read loop is asked for. -/
  basic : Option Bool
  /-- Whether values and status lines are to be left out. -/
  quiet : Option Bool
  /-- The action whose firing starts the console. -/
  hook : Option String
  /-- The canonical path to watch. -/
  watch : Option PurePath
  /-- The canonical path of the directory to run from. -/
  path : Option PurePath
  /-- The module whose names the console starts with. -/
  bootstrap : Option String
  /-- The canonical path of the directory of the settings file. -/
  configDir : Option PurePath

/-- The options that values come to. -/
def Reading.options (reading : Reading) (asksWell : Bool) : Options where
  prompt := reading.prompt.getD usualPrompt
  basic := reading.basic.getD false
  quiet := reading.quiet.getD false
  hook := reading.hook
  watch := reading.watch.map PurePath.text
  path := reading.path.map PurePath.text
  bootstrap := reading.bootstrap
  configDir := reading.configDir.map PurePath.text
  asksWell

/-- Whether the values given for options pass their checks. -/
structure Accepts (place : Place) (values : Values) (reading : Reading) : Prop where
  /-- The prompt is a text. -/
  prompt : Passes (fun value => plain value.asText) (given? values "prompt") reading.prompt
  /-- Whether the basic read loop is asked for is a truth value. -/
  basic : Passes (fun value => plain value.asTruth) (given? values "basic") reading.basic
  /-- Whether values are left out is a truth value. -/
  quiet : Passes (fun value => plain value.asTruth) (given? values "quiet") reading.quiet
  /-- The name of the action is a text that is not blank. -/
  hook : Passes (fun value => andThen value.asText checkHook) (given? values "hook") reading.hook
  /-- The path to watch leads somewhere. -/
  watch : Passes (fun value => andThen value.asPath (checkWatch place)) (given? values "watch")
    reading.watch
  /-- The path to run from leads to a directory. -/
  path : Passes (fun value => andThen value.asPath (checkPath place)) (given? values "path")
    reading.path
  /-- The name of the module is a text. -/
  bootstrap : Passes (fun value => plain value.asText) (given? values "bootstrap") reading.bootstrap
  /-- The directory of the settings file has a canonical path. -/
  configDir : Passes (fun value => andThen value.asPath (checkConfigDir place))
    (given? values "config_dir") reading.configDir

/-- Values pass with results that are wanted if each of them does by itself. -/
theorem exists_accepts_iff {place : Place} {values : Values}
    (wantedPrompt wantedModule : Option String → Prop) :
    (∃ reading, Accepts place values reading ∧ wantedPrompt reading.prompt ∧
        wantedModule reading.bootstrap) ↔
      (∃ prompt, Passes (fun value => plain value.asText) (given? values "prompt") prompt ∧
        wantedPrompt prompt) ∧
      (∃ basic, Passes (fun value => plain value.asTruth) (given? values "basic") basic) ∧
      (∃ quiet, Passes (fun value => plain value.asTruth) (given? values "quiet") quiet) ∧
      (∃ hook, Passes (fun value => andThen value.asText checkHook) (given? values "hook") hook) ∧
      (∃ watch, Passes (fun value => andThen value.asPath (checkWatch place))
        (given? values "watch") watch) ∧
      (∃ path, Passes (fun value => andThen value.asPath (checkPath place))
        (given? values "path") path) ∧
      (∃ bootstrap, Passes (fun value => plain value.asText) (given? values "bootstrap") bootstrap ∧
        wantedModule bootstrap) ∧
      ∃ configDir, Passes (fun value => andThen value.asPath (checkConfigDir place))
        (given? values "config_dir") configDir := by
  constructor
  · rintro ⟨reading, accepts, samePrompt, sameModule⟩
    exact ⟨⟨_, accepts.prompt, samePrompt⟩, ⟨_, accepts.basic⟩, ⟨_, accepts.quiet⟩,
      ⟨_, accepts.hook⟩, ⟨_, accepts.watch⟩, ⟨_, accepts.path⟩,
      ⟨_, accepts.bootstrap, sameModule⟩, ⟨_, accepts.configDir⟩⟩
  · rintro ⟨⟨prompt, promptPasses, samePrompt⟩, ⟨basic, basicPasses⟩, ⟨quiet, quietPasses⟩,
      ⟨hook, hookPasses⟩, ⟨watch, watchPasses⟩, ⟨path, pathPasses⟩,
      ⟨bootstrap, bootstrapPasses, sameModule⟩, ⟨configDir, configDirPasses⟩⟩
    exact ⟨⟨prompt, basic, quiet, hook, watch, path, bootstrap, configDir⟩,
      ⟨promptPasses, basicPasses, quietPasses, hookPasses, watchPasses, pathPasses, bootstrapPasses,
        configDirPasses⟩, samePrompt, sameModule⟩

/-- Whether a value is given by the name of an option, or is nothing and given by any name that is a
text and does not stand for the kind of options. -/
def IsNamed (entry : Option String × Given) : Prop :=
  ∃ name, entry.1 = some name ∧ name ≠ "cls" ∧ (name ∈ names ∨ entry.2 = .nothing)

/-- Whether all values are given by names that are allowed for them. -/
def Named (values : Values) : Prop := ∀ entry ∈ values, IsNamed entry

/-- One step after another gives a result if both do. -/
theorem bind_ok_iff {Fault First Result : Type} {first : Except Fault First}
    {next : First → Except Fault Result} {result : Result} :
    (first >>= next) = .ok result ↔ ∃ value, first = .ok value ∧ next value = .ok result := by
  cases first with
  | error fault => simp [bind, Except.bind]
  | ok value => simp [bind, Except.bind]

/-- The checks find no problem if the values pass and no name is unknown. -/
theorem check_ok_nil_iff {place : Place} {values : Values} {options : Options} :
    check place values = .ok (options, []) ↔
      unknownProblems values = [] ∧ ∃ reading, Accepts place values reading ∧
        options = reading.options ((given? values "prompt").all Given.isPassable) := by
  simp only [check, bind_ok_iff, Prod.exists, pure, Except.pure, Except.ok.injEq, Prod.mk.injEq,
    List.append_eq_nil_iff]
  constructor
  · rintro ⟨prompt, _, first, basic, _, second, quiet, _, third, hook, _, fourth, watch, _, fifth,
      path, _, sixth, bootstrap, _, seventh, configDir, _, eighth, rfl, rfl, unknown⟩
    obtain ⟨rfl, configDirPasses⟩ := field_ok_nil_iff.1 eighth
    obtain ⟨rfl, bootstrapPasses⟩ := field_ok_nil_iff.1 seventh
    obtain ⟨rfl, pathPasses⟩ := field_ok_nil_iff.1 sixth
    obtain ⟨rfl, watchPasses⟩ := field_ok_nil_iff.1 fifth
    obtain ⟨rfl, hookPasses⟩ := field_ok_nil_iff.1 fourth
    obtain ⟨rfl, quietPasses⟩ := field_ok_nil_iff.1 third
    obtain ⟨rfl, basicPasses⟩ := field_ok_nil_iff.1 second
    obtain ⟨_, promptPasses⟩ := field_ok_nil_iff.1 first
    exact ⟨unknown, ⟨prompt, basic, quiet, hook, watch, path, bootstrap, configDir⟩,
      ⟨promptPasses, basicPasses, quietPasses, hookPasses, watchPasses, pathPasses, bootstrapPasses,
        configDirPasses⟩, rfl⟩
  · rintro ⟨unknown, reading, accepts, rfl⟩
    exact ⟨reading.prompt, [], field_ok_nil_iff.2 ⟨rfl, accepts.prompt⟩,
      reading.basic, [], field_ok_nil_iff.2 ⟨rfl, accepts.basic⟩,
      reading.quiet, [], field_ok_nil_iff.2 ⟨rfl, accepts.quiet⟩,
      reading.hook, [], field_ok_nil_iff.2 ⟨rfl, accepts.hook⟩,
      reading.watch, [], field_ok_nil_iff.2 ⟨rfl, accepts.watch⟩,
      reading.path, [], field_ok_nil_iff.2 ⟨rfl, accepts.path⟩,
      reading.bootstrap, [], field_ok_nil_iff.2 ⟨rfl, accepts.bootstrap⟩,
      reading.configDir, [], field_ok_nil_iff.2 ⟨rfl, accepts.configDir⟩, rfl, rfl, unknown⟩

/-- Values are given by names that are allowed for them if all names are texts, none stands for the kind
of options, and none is unknown. -/
theorem named_iff {values : Values} :
    Named values ↔ (values.any fun entry => entry.1.isNone) = false ∧
      (values.any fun entry => entry.1 == some "cls") = false ∧ unknownProblems values = [] := by
  rw [List.any_eq_false, List.any_eq_false, unknownProblems, List.filterMap_eq_nil_iff]
  constructor
  · intro named
    refine ⟨fun entry member => ?_, fun entry member => ?_, fun entry member => ?_⟩
    all_goals
      obtain ⟨name, same, allowed, known⟩ := named entry member
      obtain ⟨first, value⟩ := entry
      cases same
    · simp
    · simpa using allowed
    · rcases known with member | rfl
      · simp [member]
      · simp
  · rintro ⟨texts, allowed, known⟩ ⟨first, value⟩ member
    cases first with
    | none => exact absurd rfl (texts _ member)
    | some name =>
      have other : name ≠ "cls" := by
        rintro rfl
        exact allowed _ member (by simp)
      refine ⟨name, rfl, other, ?_⟩
      have fine := known _ member
      by_cases nothing : value = .nothing
      · exact .inr nothing
      · left
        simpa [nothing] using fine

/-- Options are built if the values are given by names that are allowed for them, and pass. -/
theorem build_ok_iff {place : Place} {values : Values} {options : Options} :
    build place values = .ok options ↔ Named values ∧ ∃ reading, Accepts place values reading ∧
      options = reading.options ((given? values "prompt").all Given.isPassable) := by
  have checked : build place values = .ok options ↔
      (values.any fun entry => entry.1.isNone) = false ∧
        (values.any fun entry => entry.1 == some "cls") = false ∧
        check place values = .ok (options, []) := by
    unfold build
    cases values.any fun entry => entry.1.isNone
    · cases values.any fun entry => entry.1 == some "cls"
      · rcases check place values with fault | ⟨found, problems⟩
        · simp [bind, Except.bind]
        · cases problems <;> simp [bind, Except.bind, pure, Except.pure, throw, throwThe,
            MonadExceptOf.throw]
      · simp [bind, Except.bind, throw, throwThe, MonadExceptOf.throw]
    · simp [bind, Except.bind, throw, throwThe, MonadExceptOf.throw]
  rw [checked, check_ok_nil_iff, named_iff]
  constructor
  · rintro ⟨texts, allowed, known, passes⟩
    exact ⟨⟨texts, allowed, known⟩, passes⟩
  · rintro ⟨⟨texts, allowed, known⟩, passes⟩
    exact ⟨texts, allowed, known, passes⟩

/-! ## Values in place of others -/

/-- Replacing values by their name leaves every name with a value where it had one. -/
theorem lookup_replace (values : Values) (name other : String) (value : Given) :
    (values.map fun entry => if entry.1 = some name then (entry.1, value) else entry).lookup
        (some other) =
      (values.lookup (some other)).map fun old => if other = name then value else old := by
  induction values with
  | nil => rfl
  | cons entry values ih =>
    obtain ⟨first, old⟩ := entry
    rw [List.map_cons, List.lookup_cons]
    by_cases replaced : first = some name
    · rw [if_pos replaced, List.lookup_cons, ih, replaced]
      by_cases same : other = name
      · simp [same]
      · simp [same, beq_eq_false_iff_ne.2 same]
    · rw [if_neg replaced, List.lookup_cons, ih]
      by_cases met : some other = first
      · have kept : other ≠ name := by
          rintro rfl
          exact replaced met.symm
        simp [met, kept]
      · simp [beq_eq_false_iff_ne.2 met]

/-- A value given in place of others is found by its name, and all other names keep their values. -/
theorem lookup_give (values : Values) (name other : String) (value : Given) :
    (give values name value).lookup (some other) =
      if other = name then some value else values.lookup (some other) := by
  unfold give
  split
  · rename_i present
    rw [lookup_replace]
    split
    · rename_i same
      subst same
      have found : (values.lookup (some other)).isSome = true := by
        rw [List.lookup_isSome_iff]
        obtain ⟨entry, member, same⟩ := List.any_eq_true.1 present
        exact ⟨entry, member, by rw [eq_of_beq same]; simp⟩
      obtain ⟨old, found⟩ := Option.isSome_iff_exists.1 found
      simp [found]
    · rename_i different
      simp
  · rename_i absent
    rw [List.lookup_append]
    split
    · rename_i same
      subst same
      have none : values.lookup (some other) = none := by
        rw [List.lookup_eq_none_iff]
        intro entry member
        rw [bne_iff_ne]
        intro same
        exact absent (List.any_eq_true.2 ⟨entry, member, by rw [same]; simp⟩)
      simp [none]
    · rename_i different
      have other : (some other == some name) = false := by simpa using different
      rw [List.lookup_cons, other]
      exact Option.or_none

/-- A value given in place of others is the one given by its name. -/
theorem given?_give (values : Values) (name other : String) {value : Given}
    (present : value ≠ .nothing) :
    given? (give values name value) other =
      if other = name then some value else given? values other := by
  unfold given?
  rw [lookup_give]
  by_cases same : other = name
  · rw [if_pos same, if_pos same]
    cases value <;> first | rfl | exact absurd rfl present
  · rw [if_neg same, if_neg same]

/-- A value may always be given by the name of an option. -/
theorem isNamed_of_mem {name : String} (known : name ∈ names) (value : Given) :
    IsNamed (some name, value) := by
  refine ⟨name, rfl, ?_, .inl known⟩
  rintro rfl
  exact absurd known (by decide)

/-- Giving a value by the name of an option makes no difference to the names that values are given by. -/
theorem named_give {values : Values} {name : String} (known : name ∈ names) (value : Given) :
    Named (give values name value) ↔ Named values := by
  unfold give
  split
  · constructor
    · intro named entry member
      by_cases replaced : entry.1 = some name
      · obtain ⟨first, old⟩ := entry
        cases replaced
        exact isNamed_of_mem known old
      · have kept := named _ (List.mem_map_of_mem member)
        rwa [if_neg replaced] at kept
    · intro named entry member
      obtain ⟨before, known', rfl⟩ := List.mem_map.1 member
      split
      · rename_i replaced
        rw [replaced]
        exact isNamed_of_mem known value
      · exact named before known'
  · constructor
    · exact fun named entry member => named entry (List.mem_append_left _ member)
    · intro named entry member
      rcases List.mem_append.1 member with before | last
      · exact named entry before
      · rw [List.mem_singleton.1 last]
        exact isNamed_of_mem known value

/-! ## Names and paths that pass -/

/-- The name of an action passes its check if something is left of it without the blanks at its ends. -/
theorem checkHook_ok_iff {name found : String} :
    checkHook name = .ok found ↔ found = Text.trimmed name ∧ found ≠ "" := by
  unfold checkHook
  by_cases blank : Text.trimmed name = ""
  · simp [blank]
  · have filled : (Text.trimmed name).isEmpty = false := by simpa using blank
    simp only [filled, Bool.false_eq_true, if_false, Except.ok.injEq]
    constructor
    · rintro rfl
      exact ⟨rfl, blank⟩
    · exact fun both => both.1.symm

end LiveConsole.Options

namespace LiveConsole.Watch

/-- A text names a path to watch if it is not blank and its path leads to something that is there. -/
theorem resolve_ok_iff {environment : Environment} {tree : FileTree} {directory : Location}
    {text : String} {found : PurePath} :
    resolve environment tree directory text = .ok found ↔
      Text.allBlank text = false ∧ ∃ expanded, (PurePath.ofText text).expandUser environment = .ok expanded ∧
        tree.pathExists directory expanded = .ok true ∧ tree.resolve directory expanded = .ok found := by
  unfold resolve
  cases blank : Text.allBlank text with
  | true => simp [throw, throwThe, MonadExceptOf.throw, bind, Except.bind]
  | false =>
    simp only [Bool.false_eq_true, if_false, Options.bind_ok_iff, true_and]
    refine exists_congr fun expanded => and_congr_right fun _ => ?_
    constructor
    · rintro ⟨there, asked, rest⟩
      cases there with
      | false => cases rest
      | true => exact ⟨asked, rest⟩
    · exact fun both => ⟨true, both⟩

end LiveConsole.Watch
