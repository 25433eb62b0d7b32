import LiveConsole.CommandLine.Merge

/-!
# Flags that options are written as

Options are written as flags, each in a word of its own with its value attached. Such words are understood
one after another, whatever the values are, so that the flags are read as they were meant: values keep
their text, but for the two dashes, which are taken out.
-/
namespace LiveConsole.CommandLine

/-- Whether words are understood as flags that together change what a command line says. -/
def Says (words : List String) (change : Arguments → Arguments) : Prop :=
  "--" ∉ words ∧ ∃ found, classifyAll words = .ok found ∧
    ∀ arguments rest, takeAll arguments (found ++ rest) = takeAll (change arguments) rest

/-- Words that are no dashes are told one by one. -/
theorem classifyAll_cons {word : String} {words : List String} (ordinary : word ≠ "--") :
    classifyAll (word :: words) =
      (classify word).bind fun found => (classifyAll words).map fun others => found :: others := by
  rw [classifyAll]
  · cases classify word <;> cases classifyAll words <;> rfl
  · exact ordinary

/-- Words without dashes are told apart from those behind them. -/
theorem classifyAll_append {words others : List String} (ordinary : "--" ∉ words) :
    classifyAll (words ++ others) =
      (classifyAll words).bind fun found => (classifyAll others).map fun more => found ++ more := by
  induction words with
  | nil =>
    rw [List.nil_append]
    cases classifyAll others <;> rfl
  | cons word words ih =>
    have first : word ≠ "--" := fun same => ordinary (by rw [same]; exact List.mem_cons_self)
    rw [List.cons_append, classifyAll_cons first, classifyAll_cons first,
      ih fun member => ordinary (List.mem_cons_of_mem word member)]
    cases classify word <;> cases classifyAll words <;> cases classifyAll others <;> rfl

/-- No words change nothing. -/
theorem says_nil : Says [] id := ⟨by simp, [], rfl, fun _ _ => rfl⟩

/-- Words one behind the other change one thing after the other. -/
theorem Says.append {words others : List String} {change further : Arguments → Arguments}
    (first : Says words change) (second : Says others further) :
    Says (words ++ others) (further ∘ change) := by
  obtain ⟨ordinary, found, told, taken⟩ := first
  obtain ⟨ordinaryToo, more, toldToo, takenToo⟩ := second
  refine ⟨by simp [ordinary, ordinaryToo], found ++ more, ?_, fun arguments rest => ?_⟩
  · rw [classifyAll_append ordinary, told, toldToo]
    rfl
  · rw [List.append_assoc, taken, takenToo, Function.comp_apply]

/-- A word for one flag, alone or with a value attached, says what the flag does. -/
theorem says_flag {word spelling : String} {flag : Flag} {attached : Option String}
    {change : Arguments → Arguments} (ordinary : word ≠ "--")
    (told : classify word = .ok (.flag flag spelling attached))
    (taken : ∀ arguments rest, takeAll arguments (.flag flag spelling attached :: rest) =
      takeAll (change arguments) rest) : Says [word] change := by
  refine ⟨by simpa using Ne.symm ordinary, [.flag flag spelling attached], ?_, taken⟩
  rw [classifyAll_cons ordinary, told]
  rfl

/-- Words that are understood are read as what they say. -/
theorem read_of_meaning {words : List String} {change : Arguments → Arguments}
    (meant : Says words change) : read words = .ok (change .none) := by
  obtain ⟨_, found, told, taken⟩ := meant
  have all : takeAll .none found = .ok (change .none, []) := by
    have whole := taken .none []
    rw [List.append_nil] at whole
    exact whole
  rw [read, told]
  simp only [bind, Except.bind, all]
  rfl

/-! ## Values attached to flags -/

/-- No spelling of a flag has an equals sign in it. -/
theorem noEquals_of_spelled : ∀ entry ∈ Flag.spelled, '=' ∉ entry.1.toList := by decide

/-- A word with an equals sign in it is no spelling of a flag. -/
theorem ofSpelling?_of_equals {word : String} (equals : '=' ∈ word.toList) :
    Flag.ofSpelling? word = none := by
  rw [Flag.ofSpelling?, List.lookup_eq_none_iff]
  intro entry member
  rw [bne_iff_ne]
  intro same
  rw [same] at equals
  exact noEquals_of_spelled entry member equals

/-- A word is split at its first equals sign. -/
theorem splitValue_append {start value : List Char} (free : '=' ∉ start) :
    splitValue (start ++ '=' :: value) = some (start, value) := by
  have before : ∀ c ∈ start, (c != '=') = true := by
    intro c member
    rw [bne_iff_ne]
    rintro rfl
    exact free member
  rw [splitValue, List.dropWhile_append_of_pos before, List.takeWhile_append_of_pos before]
  simp

/-- A spelling with a value attached is told from all else. -/
theorem classify_attached {spelling value : String} {flag : Flag} {rest : List Char}
    (spelled : Flag.ofSpelling? spelling = some flag) (dashes : spelling.toList = '-' :: '-' :: rest) :
    classify (spelling ++ "=" ++ value) = .ok (.flag flag spelling (some value)) := by
  have free : '=' ∉ spelling.toList := by
    intro equals
    rw [ofSpelling?_of_equals equals] at spelled
    cases spelled
  have chars : (spelling ++ "=" ++ value).toList = spelling.toList ++ '=' :: value.toList := by
    simp
  have found : exactFlag? (spelling ++ "=" ++ value) = some (.flag flag spelling (some value)) := by
    have unspelled : Flag.ofSpelling? (spelling ++ "=" ++ value) = none := by
      apply ofSpelling?_of_equals
      rw [chars]
      simp
    rw [exactFlag?, unspelled]
    simp only [chars, splitValue_append free, String.ofList_toList, spelled, Option.map_some]
  rw [classify, chars, dashes]
  simp only [List.cons_append, found]

/-- Take a flag with its value, where there is one. -/
def giveValue (flag : Flag) (value : Option FlagValue) (arguments : Arguments) : Arguments :=
  value.elim arguments (setValue arguments flag)

/-- A flag with its value takes the place of one given before, and leaves all else as it was. -/
theorem giveValue_eq (flag : Flag) (value : Option FlagValue) (arguments : Arguments) :
    giveValue flag value arguments =
      { arguments with
        hook := if flag = .hook then value.or arguments.hook else arguments.hook
        watch := if flag = .watch then value.or arguments.watch else arguments.watch
        path := if flag = .path then value.or arguments.path else arguments.path
        bootstrap := if flag = .bootstrap then value.or arguments.bootstrap else arguments.bootstrap
        configDir := if flag = .config then value.or arguments.configDir else arguments.configDir
        prompt := if flag = .prompt then value.or arguments.prompt else arguments.prompt } := by
  cases value <;> cases flag <;> rfl

/-- A flag with a value attached sets the value, and nothing where the value is missing. -/
theorem says_valued {spelling : String} {flag : Flag} {rest : List Char}
    (spelled : Flag.ofSpelling? spelling = some flag) (dashes : spelling.toList = '-' :: '-' :: rest)
    (takes : flag.takesValue = true) (value : Option String) :
    Says (Options.valued spelling value) (giveValue flag (value.map .ofAttached)) := by
  cases value with
  | none => exact says_nil
  | some value =>
    refine says_flag ?_ (classify_attached spelled dashes) fun arguments rest => ?_
    · intro same
      have equals : '=' ∈ ("--" : String).toList := by
        rw [← same]
        simp
      exact absurd equals (by decide)
    · rw [takeAll, if_pos takes]
      rfl

/-- A flag that stands alone is switched on where it is set. -/
theorem says_switch {spelling : String} {flag : Flag} {change : Arguments → Arguments}
    (told : classify spelling = .ok (.flag flag spelling none)) (ordinary : spelling ≠ "--")
    (alone : flag.takesValue = false) (on : ∀ arguments, switchOn arguments flag = .ok (change arguments))
    (isSet : Bool) :
    Says (Options.switch spelling isSet) fun arguments =>
      if isSet then change arguments else arguments := by
  cases isSet with
  | false => exact says_nil
  | true =>
    refine says_flag ordinary told fun arguments rest => ?_
    -- The word behind a flag counts only where the flag takes a value.
    rcases rest with _ | ⟨_ | _ | _ | _, rest⟩ <;> simp [takeAll, alone, on]

/-! ## Options written as flags -/

/-- The prompt that is written as a flag. -/
def toldPrompt (options : Options) : Option String :=
  if options.prompt = usualPrompt then none else some options.prompt

/-- What the flags that options are written as say. -/
def flagsOf (options : Options) : Arguments where
  basic := options.basic
  quiet := options.quiet
  debug := false
  hook := (Options.nonempty options.hook).map .ofAttached
  watch := (Options.nonempty options.watch).map .ofAttached
  path := (Options.nonempty options.path).map .ofAttached
  bootstrap := (Options.nonempty options.bootstrap).map .ofAttached
  configDir := (Options.nonempty options.configDir).map .ofAttached
  prompt := (toldPrompt options).map .ofAttached

/-- The flags that options are written as are read as they were meant. -/
theorem read_toArgs (options : Options) : read options.toArgs = .ok (flagsOf options) := by
  have switches := (says_switch (by rfl : classify "--basic" = .ok (.flag .basic "--basic" none))
      (by decide) rfl (fun _ => rfl) options.basic).append
    (says_switch (by rfl : classify "--quiet" = .ok (.flag .quiet "--quiet" none)) (by decide) rfl
      (fun _ => rfl) options.quiet)
  have valued (spelling : String) (flag : Flag) (rest : List Char)
      (spelled : Flag.ofSpelling? spelling = some flag)
      (dashes : spelling.toList = '-' :: '-' :: rest) (takes : flag.takesValue = true) :=
    says_valued spelled dashes takes
  have all := ((((((switches.append
    (valued "--prompt" .prompt _ rfl rfl rfl (toldPrompt options))).append
    (valued "--hook" .hook _ rfl rfl rfl (Options.nonempty options.hook))).append
    (valued "--watch" .watch _ rfl rfl rfl (Options.nonempty options.watch))).append
    (valued "--path" .path _ rfl rfl rfl (Options.nonempty options.path))).append
    (valued "--bootstrap" .bootstrap _ rfl rfl rfl (Options.nonempty options.bootstrap))).append
    (valued "--config" .config _ rfl rfl rfl (Options.nonempty options.configDir)))
  have prompt : Options.valued "--prompt" (toldPrompt options) =
      if options.prompt = usualPrompt then []
      else Options.valued "--prompt" (some options.prompt) := by
    unfold toldPrompt
    split <;> rfl
  rw [prompt] at all
  refine (read_of_meaning all).trans (congrArg Except.ok ?_)
  simp only [Function.comp_apply, giveValue_eq, flagsOf, reduceCtorEq, if_true, if_false]
  cases options.basic <;> cases options.quiet <;> simp [Arguments.none]

end LiveConsole.CommandLine
