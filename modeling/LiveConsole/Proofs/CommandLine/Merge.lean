import LiveConsole.Proofs.Options.Build

/-!
# Flags in the place of settings

Where a flag gives a value for an option, settings and flags together give that value; where none does,
they give what the settings give. The directory of the settings file is never taken from the settings.
-/
namespace LiveConsole.CommandLine

open Options (Values Named given? give given?_give named_give)

/-- A flag never gives nothing. -/
theorem FlagValue.given_ne_nothing (value : FlagValue) : value.given ≠ .nothing := by
  cases value <;> simp [FlagValue.given]

namespace Arguments

/-- The names of the options that flags can give values for, in the order in which they are given. -/
def flagNames : List String := ["basic", "quiet", "hook", "watch", "path", "bootstrap", "prompt"]

variable (arguments : Arguments)

/-- Flags give values for different options. -/
theorem given_names : (arguments.given.map Prod.fst).Sublist flagNames := by
  have switch (name : String) (isSet : Bool) :
      ((if isSet then [(name, Given.bool true)] else []).map Prod.fst).Sublist [name] := by
    cases isSet <;> simp
  have valued (name : String) (value : Option FlagValue) :
      (((value.map fun value => (name, value.given)).toList).map Prod.fst).Sublist [name] := by
    cases value <;> simp
  unfold given
  simp only [List.map_append]
  exact ((((((switch "basic" arguments.basic).append (switch "quiet" arguments.quiet)).append
    (valued "hook" arguments.hook)).append (valued "watch" arguments.watch)).append
    (valued "path" arguments.path)).append (valued "bootstrap" arguments.bootstrap)).append
    (valued "prompt" arguments.prompt)

/-- Values given by flags are values. -/
theorem given_ne_nothing : ∀ entry ∈ arguments.given, entry.2 ≠ .nothing := by
  intro entry member
  simp only [given, List.mem_append, List.mem_ite_nil_right, List.mem_singleton, Option.mem_toList,
    Option.map_eq_some_iff] at member
  rcases member with (((((⟨_, rfl⟩ | ⟨_, rfl⟩) | ⟨value, _, rfl⟩) | ⟨value, _, rfl⟩) |
    ⟨value, _, rfl⟩) | ⟨value, _, rfl⟩) | ⟨value, _, rfl⟩
  · simp
  · simp
  all_goals exact value.given_ne_nothing

/-- Values given one after another, by different names, are found where they are given, and no other
value is touched. -/
theorem given?_foldl_give {entries : List (String × Given)} (different : (entries.map Prod.fst).Nodup)
    (present : ∀ entry ∈ entries, entry.2 ≠ .nothing) (values : Values) (name : String) :
    given? (entries.foldl (fun values entry => give values entry.1 entry.2) values) name =
      (entries.lookup name).or (given? values name) := by
  induction entries generalizing values with
  | nil => rfl
  | cons entry entries ih =>
    obtain ⟨first, value⟩ := entry
    rw [List.map_cons, List.nodup_cons] at different
    rw [List.foldl_cons, ih different.2 fun other member => present other (List.mem_cons_of_mem _ member),
      given?_give _ _ _ (present _ List.mem_cons_self), List.lookup_cons]
    by_cases same : name = first
    · have absent : entries.lookup name = .none := by
        rw [List.lookup_eq_none_iff]
        intro other member
        rw [bne_iff_ne, same]
        intro alike
        rw [alike] at different
        exact different.1 (List.mem_map.2 ⟨other, member, rfl⟩)
      rw [absent, if_pos same, same, beq_self_eq_true]
      rfl
    · rw [if_neg same, beq_eq_false_iff_ne.2 same]

/-- What settings and flags together give for an option. -/
theorem given?_merge (directory : PurePath) (settings : Values) (name : String) :
    given? (arguments.merge directory settings) name =
      if name = "config_dir" then some (.path directory)
      else (arguments.given.lookup name).or (given? settings name) := by
  have different : (arguments.given.map Prod.fst).Nodup :=
    arguments.given_names.nodup (by decide)
  rw [merge, given?_foldl_give different arguments.given_ne_nothing, given?_give _ _ _ (by simp)]
  by_cases same : name = "config_dir"
  · have absent : arguments.given.lookup name = .none := by
      rw [List.lookup_eq_none_iff]
      intro entry member
      rw [bne_iff_ne, same]
      intro alike
      have known := arguments.given_names.subset (List.mem_map_of_mem member)
      rw [← alike] at known
      exact absurd known (by decide)
    rw [absent, if_pos same, if_pos same]
    rfl
  · rw [if_neg same, if_neg same]

/-- Flags give values for options. -/
theorem mem_names_of_mem_given {entry : String × Given} (member : entry ∈ arguments.given) :
    entry.1 ∈ Options.names := by
  have inside := arguments.given_names.subset (List.mem_map_of_mem member)
  have flags : ∀ name ∈ flagNames, name ∈ Options.names := by decide
  exact flags _ inside

/-- Flags make no difference to what a value given for an option makes none to. -/
theorem merge_eq {Result : Type} {seen : Values → Result}
    (kept : ∀ {name : String}, name ∈ Options.names → ∀ (values : Values) (value : Given),
      seen (give values name value) = seen values)
    (directory : PurePath) (settings : Values) :
    seen (arguments.merge directory settings) = seen settings := by
  have fold (entries : List (String × Given)) (known : ∀ entry ∈ entries, entry.1 ∈ Options.names)
      (values : Values) :
      seen (entries.foldl (fun values entry => give values entry.1 entry.2) values) = seen values := by
    induction entries generalizing values with
    | nil => rfl
    | cons entry entries ih =>
      rw [List.foldl_cons, ih (fun other member => known other (List.mem_cons_of_mem _ member)),
        kept (known entry List.mem_cons_self)]
  rw [merge, fold _ (fun _ member => arguments.mem_names_of_mem_given member), kept (by decide)]

/-- Flags make no difference to the names that values are given by. -/
theorem named_merge (directory : PurePath) (settings : Values) :
    Named (arguments.merge directory settings) ↔ Named settings :=
  Iff.of_eq (arguments.merge_eq (fun known _ value => propext (named_give known value)) directory settings)

/-- What flags give for each option that they can give a value for. -/
theorem lookup_given :
    arguments.given.lookup "basic" = (if arguments.basic then some (.bool true) else .none) ∧
      arguments.given.lookup "quiet" = (if arguments.quiet then some (.bool true) else .none) ∧
      arguments.given.lookup "hook" = arguments.hook.map FlagValue.given ∧
      arguments.given.lookup "watch" = arguments.watch.map FlagValue.given ∧
      arguments.given.lookup "path" = arguments.path.map FlagValue.given ∧
      arguments.given.lookup "bootstrap" = arguments.bootstrap.map FlagValue.given ∧
      arguments.given.lookup "prompt" = arguments.prompt.map FlagValue.given := by
  have single (name other : String) (value : Given) :
      [(name, value)].lookup other = if other = name then some value else .none := by
    rw [List.lookup_cons]
    by_cases same : other = name
    · rw [if_pos same, same, beq_self_eq_true]
    · rw [if_neg same, beq_eq_false_iff_ne.2 same]
      rfl
  have switch (name other : String) (isSet : Bool) :
      (if isSet then [(name, Given.bool true)] else []).lookup other =
        if other = name ∧ isSet then some (.bool true) else .none := by
    cases isSet <;> simp [single]
  have valued (name other : String) (value : Option FlagValue) :
      ((value.map fun value => (name, value.given)).toList).lookup other =
        if other = name then value.map FlagValue.given else .none := by
    cases value <;> simp [single]
  simp [given, List.lookup_append, switch, valued]

/-- What settings and flags together give for each option: the value of its flag, else that of the
settings, and for the directory of the settings file the one that was looked into. -/
theorem given?_merge_all (directory : PurePath) (settings : Values) :
    let together := given? (arguments.merge directory settings)
    together "basic" =
        (if arguments.basic then some (.bool true) else .none).or (given? settings "basic") ∧
      together "quiet" =
        (if arguments.quiet then some (.bool true) else .none).or (given? settings "quiet") ∧
      together "hook" = (arguments.hook.map FlagValue.given).or (given? settings "hook") ∧
      together "watch" = (arguments.watch.map FlagValue.given).or (given? settings "watch") ∧
      together "path" = (arguments.path.map FlagValue.given).or (given? settings "path") ∧
      together "bootstrap" =
        (arguments.bootstrap.map FlagValue.given).or (given? settings "bootstrap") ∧
      together "prompt" = (arguments.prompt.map FlagValue.given).or (given? settings "prompt") ∧
      together "config_dir" = some (.path directory) := by
  obtain ⟨basic, quiet, hook, watch, path, bootstrap, prompt⟩ := arguments.lookup_given
  simp [given?_merge, basic, quiet, hook, watch, path, bootstrap, prompt]

end Arguments

end LiveConsole.CommandLine
