import LiveConsole.Proofs.Options.Build

/-!
# Faults that stop the building of options

A check can fail in two ways. A problem of the value is put down, and the first one becomes the fault of the
options, which names its setting. Everything else stops the building at once and stays the fault that it was:
a tilde for which there is no home directory, a path that is too long to be looked up, links that lead in a
circle, and names that cannot stand for options.
-/
namespace LiveConsole

/-- Whether a fault of a check is a problem of the value that is checked. -/
def Fault.IsProblem (fault : Fault) : Prop :=
  fault.isConfiguration = true ∨ ∃ message, fault = .raised "ValueError" message

namespace Options

variable {place : Place} {values : Values} {fault : Fault}

/-! ## Single checks -/

/-- One step after another fails if the first one does, or the second one behind it. -/
theorem bind_error_iff {First Result : Type} {first : Except Fault First}
    {next : First → Except Fault Result} :
    (first >>= next) = .error fault ↔
      first = .error fault ∨ ∃ value, first = .ok value ∧ next value = .error fault := by
  cases first with
  | error other => simp [bind, Except.bind]
  | ok value => simp [bind, Except.bind]

/-- What is no problem of a value stays the fault that it is. -/
theorem ofFault_error_iff {Result : Type} {other : Fault} :
    (ofFault other : Checked Result) = .error fault ↔ other = fault ∧ ¬fault.IsProblem := by
  unfold ofFault Fault.IsProblem
  split
  · simp only [reduceCtorEq, false_iff]
    rintro ⟨rfl, noProblem⟩
    exact noProblem (.inl rfl)
  · simp only [reduceCtorEq, false_iff]
    rintro ⟨rfl, noProblem⟩
    exact noProblem (.inr ⟨_, rfl⟩)
  · rename_i noConfiguration noValue
    rw [Except.error.injEq]
    refine ⟨?_, And.left⟩
    rintro rfl
    refine ⟨rfl, ?_⟩
    rintro (configuration | ⟨message, rfl⟩)
    · cases other with
      | configuration message setting => exact noConfiguration _ _ rfl
      | _ => cases configuration
    · exact noValue _ rfl

/-- A check behind the reading of a value stops everything if it fails for no problem of the value. -/
theorem andThen_error_iff {Read Result : Type} {read : Except String Read}
    {check : Read → Except Fault Result} :
    andThen read check = .error fault ↔
      ∃ value, read = .ok value ∧ check value = .error fault ∧ ¬fault.IsProblem := by
  cases read with
  | error message => simp [andThen]
  | ok value =>
    cases found : check value with
    | ok result => simp [andThen, found]
    | error other =>
      simp only [andThen, found, ofFault_error_iff, Except.ok.injEq, Except.error.injEq,
        exists_eq_left']

/-- A field stops everything if the check of its value does. -/
theorem field_error_iff {Result : Type} {name : String} {check : Given → Checked Result}
    {problems : List Problem} :
    field values name check problems = .error fault ↔
      ∃ value, given? values name = some value ∧ check value = .error fault := by
  unfold field
  cases given? values name with
  | none => simp
  | some value =>
    simp only [bind_error_iff, Option.some.injEq, exists_eq_left']
    refine ⟨?_, .inl⟩
    rintro (stopped | ⟨message | result, -, later⟩)
    · exact stopped
    · cases later
    · cases later

/-- The check of a name of an action stops nothing. -/
theorem checkHook_calm (value : Given) : andThen value.asText checkHook ≠ .error fault := by
  intro stopped
  obtain ⟨name, -, failed, noProblem⟩ := andThen_error_iff.1 stopped
  unfold checkHook at failed
  dsimp only at failed
  split at failed
  · cases failed
    exact noProblem (.inl rfl)
  · cases failed

/-! ## Paths -/

/--
Whether a path that is given for an option stops everything: there is no home directory for its tilde, it
is too long to be looked up, or it leads to an entry that is admitted, and yet its canonical form
loops through links.
-/
inductive Strays (place : Place) (admits : Entry → Bool) (path : PurePath) : Fault → Prop where
  /-- There is no home directory. -/
  | homeless (unknown : path.expandUser place.environment = .error PurePath.noHome) :
    Strays place admits path PurePath.noHome
  /-- A name, or the whole path, is too long. -/
  | tooLong {expanded : PurePath} (found : path.expandUser place.environment = .ok expanded)
    (long : place.tree.status place.directory expanded.text = .error .tooLong) :
    Strays place admits path (FileTree.tooLongFault expanded.text)
  /-- The canonical form loops. -/
  | loops {expanded : PurePath} {entry : Entry} {canonical : String}
    (found : path.expandUser place.environment = .ok expanded)
    (leads : place.tree.status place.directory expanded.text = .ok entry) (admitted : admits entry = true)
    (loops : place.tree.resolve place.directory expanded = .error (FileTree.loopFault canonical)) :
    Strays place admits path (FileTree.loopFault canonical)

/-- What is wrong with a path that stops everything is no problem of its value. -/
theorem Strays.not_isProblem {admits : Entry → Bool} {path : PurePath}
    (strays : Strays place admits path fault) : ¬fault.IsProblem := by
  rintro (configuration | ⟨message, same⟩)
  · cases strays <;> cases configuration
  · cases strays <;>
      simp [PurePath.noHome, FileTree.tooLongFault, FileTree.loopFault] at same

/-- A tilde cannot be replaced for one of two reasons. -/
theorem expandUser_error {environment : Environment} {path : PurePath}
    (failed : path.expandUser environment = .error fault) :
    fault = PurePath.noHome ∨ fault = PurePath.nullFault := by
  unfold PurePath.expandUser at failed
  split at failed
  · split at failed
    · split at failed
      · rename_i unnamed
        unfold PurePath.homeOf at unnamed
        split at unnamed
        · cases unnamed
          cases failed
          exact .inr rfl
        · cases unnamed
      · cases failed
        exact .inl rfl
      · dsimp only at failed
        split at failed
        · cases failed
          exact .inl rfl
        · cases failed
    · cases failed
  · cases failed

/-- A path has no canonical form for one of two reasons. -/
theorem resolve_error {tree : FileTree} {directory : Location} {path : PurePath}
    (failed : tree.resolve directory path = .error fault) :
    fault = PurePath.nullFault ∨ ∃ canonical, fault = FileTree.loopFault canonical := by
  unfold FileTree.resolve at failed
  split at failed
  · cases failed
    exact .inl rfl
  · dsimp only at failed
    split at failed
    · cases failed
      exact .inr ⟨_, rfl⟩
    · cases failed

/-- A null character is a problem of the value. -/
theorem isProblem_nullFault : PurePath.nullFault.IsProblem := .inr ⟨_, rfl⟩

/-- Look up whether a path leads to an entry that is admitted; a path that is too long is a fault. -/
def lookUp (place : Place) (admits : Entry → Bool) (path : PurePath) : Except Fault Bool :=
  match place.tree.status place.directory path.text with
  | .ok entry => .ok (admits entry)
  | .error .tooLong => .error (FileTree.tooLongFault path.text)
  | .error _ => .ok false

/-- A path that must lead to an entry that is admitted stops everything exactly if it strays. -/
theorem strays_iff {admits : Entry → Bool} {path : PurePath} {missing : Fault}
    (told : missing.isConfiguration = true) :
    (do
      let expanded ← path.expandUser place.environment
      if ← lookUp place admits expanded then place.tree.resolve place.directory expanded
      else throw missing) = (.error fault : Except Fault PurePath) ∧ ¬fault.IsProblem ↔
      Strays place admits path fault := by
  constructor
  · rintro ⟨failed, noProblem⟩
    rcases bind_error_iff.1 failed with unknown | ⟨expanded, found, failed⟩
    · rcases expandUser_error unknown with rfl | rfl
      · exact .homeless unknown
      · exact absurd isProblem_nullFault noProblem
    · rcases bind_error_iff.1 failed with long | ⟨there, looked, failed⟩
      · unfold lookUp at long
        split at long
        · cases long
        · rename_i status
          cases long
          exact .tooLong found status
        · cases long
      · unfold lookUp at looked
        split at looked
        · rename_i entry leads
          cases looked
          cases admitted : admits entry with
          | true =>
            rw [admitted, if_pos rfl] at failed
            rcases resolve_error failed with rfl | ⟨canonical, rfl⟩
            · exact absurd isProblem_nullFault noProblem
            · exact .loops found leads admitted failed
          | false =>
            rw [admitted, if_neg (by decide)] at failed
            cases failed
            exact absurd (.inl told) noProblem
        · cases looked
        · cases looked
          cases failed
          exact absurd (.inl told) noProblem
  · intro strays
    refine ⟨?_, strays.not_isProblem⟩
    cases strays with
    | homeless unknown => exact bind_error_iff.2 (.inl unknown)
    | tooLong found long =>
      refine bind_error_iff.2 (.inr ⟨_, found, bind_error_iff.2 (.inl ?_)⟩)
      rw [lookUp, long]
    | loops found leads admitted loops =>
      refine bind_error_iff.2 (.inr ⟨_, found, bind_error_iff.2 (.inr ⟨true, ?_, ?_⟩)⟩)
      · rw [lookUp, leads, ← admitted]
      · rw [if_pos rfl, loops]

/-- A path to watch stops everything if it is not blank and strays. -/
theorem checkWatch_strays_iff {path : PurePath} :
    checkWatch place path = .error fault ∧ ¬fault.IsProblem ↔
      Text.allBlank path.text = false ∧
        Strays place (fun _ => true) (PurePath.ofText path.text) fault := by
  rw [checkWatch, Watch.resolve]
  cases blank : Text.allBlank path.text with
  | true =>
    rw [if_pos rfl]
    simp only [Bool.true_eq_false, false_and, iff_false, not_and, Classical.not_not]
    intro failed
    cases failed
    exact .inl rfl
  | false =>
    rw [if_neg (by decide)]
    exact ⟨fun failed => ⟨rfl, (strays_iff rfl).1 failed⟩,
      fun strays => (strays_iff rfl).2 strays.2⟩

/-- A directory to run from stops everything if it strays. -/
theorem checkPath_strays_iff {path : PurePath} :
    checkPath place path = .error fault ∧ ¬fault.IsProblem ↔ Strays place Entry.isDirectory path fault :=
  strays_iff rfl

/-! ## All checks -/

/-- Whether the check of the path that is given for an option stops everything. -/
def StopsAt (values : Values) (name : String) (check : PurePath → Except Fault PurePath)
    (fault : Fault) : Prop :=
  ∃ value path, given? values name = some value ∧ value.asPath = .ok path ∧
    check path = .error fault ∧ ¬fault.IsProblem

/-- What stops everything is no problem of a value. -/
theorem StopsAt.not_isProblem {name : String} {check : PurePath → Except Fault PurePath}
    (stops : StopsAt values name check fault) : ¬fault.IsProblem := by
  obtain ⟨_, _, _, _, _, noProblem⟩ := stops
  exact noProblem

section

variable {Result Other : Type} {name : String} {problems : List Problem} {later : Prop}

/-- Behind a field whose check stops nothing, everything stops for what comes later. -/
theorem calm_field_then {check : Given → Checked Result}
    {next : Option Result × List Problem → Except Fault Other}
    (calm : ∀ value fault, check value ≠ .error fault)
    (rest : ∀ found, next found = .error fault ↔ later) :
    (field values name check problems >>= next) = .error fault ↔ later := by
  rw [bind_error_iff, field_error_iff]
  cases found : field values name check problems with
  | error other =>
    obtain ⟨value, -, stopped⟩ := field_error_iff.1 found
    exact absurd stopped (calm value other)
  | ok outcome => simp [calm, rest]

/-- At the field of a path everything stops if its check stops everything, else for what comes later. -/
theorem field_then {check : PurePath → Except Fault PurePath}
    {next : Option PurePath × List Problem → Except Fault Other}
    (rest : ∀ found, next found = .error fault ↔ later) :
    (field values name (fun value => andThen value.asPath check) problems >>= next) = .error fault ↔
      StopsAt values name check fault ∨ (∀ other, ¬StopsAt values name check other) ∧ later := by
  have stops (other : Fault) :
      field values name (fun value => andThen value.asPath check) problems = .error other ↔
        StopsAt values name check other := by
    simp only [field_error_iff, andThen_error_iff, StopsAt, exists_and_left]
  simp only [bind_error_iff, ← stops]
  cases field values name (fun value => andThen value.asPath check) problems with
  | error other => simp
  | ok outcome => simp [rest]

/-- At the field of a path everything stops only if its check stops everything, when nothing does later. -/
theorem last_field {check : PurePath → Except Fault PurePath}
    {next : Option PurePath × List Problem → Except Fault Other}
    (rest : ∀ found, next found ≠ .error fault) :
    (field values name (fun value => andThen value.asPath check) problems >>= next) = .error fault ↔
      StopsAt values name check fault := by
  rw [field_then fun found => iff_false_intro (rest found), and_false, or_false]

end

/-- The checks stop at the first path whose check stops everything. -/
theorem check_error_iff : check place values = .error fault ↔
    StopsAt values "watch" (checkWatch place) fault ∨
      (∀ other, ¬StopsAt values "watch" (checkWatch place) other) ∧
        (StopsAt values "path" (checkPath place) fault ∨
          (∀ other, ¬StopsAt values "path" (checkPath place) other) ∧
            StopsAt values "config_dir" (checkConfigDir place) fault) := by
  have plainly {Result : Type} (read : Given → Except String Result) (value : Given) (other : Fault) :
      plain (read value) ≠ .error other := nofun
  exact calm_field_then (plainly _) fun ⟨_, _⟩ => calm_field_then (plainly _) fun ⟨_, _⟩ =>
    calm_field_then (plainly _) fun ⟨_, _⟩ => calm_field_then (fun value _ => checkHook_calm value)
      fun ⟨_, _⟩ => field_then fun ⟨_, _⟩ => field_then fun ⟨_, _⟩ =>
        calm_field_then (plainly _) fun ⟨_, _⟩ => last_field fun ⟨_, _⟩ => nofun

/-- Building options stops for a fault that is none of the set-up if a name is no text, if one stands for the
kind of options, or if the checks stop everything. -/
theorem build_stray_iff : build place values = .error fault ∧ fault.isConfiguration = false ↔
    if (values.any fun entry => entry.1.isNone) then fault = namesNotText
    else if (values.any fun entry => entry.1 == some "cls") then fault = reservedName
    else check place values = .error fault := by
  have stopped (other : Fault) (strange : other.isConfiguration = false) :
      (Except.error other : Except Fault Options) = .error fault ∧ fault.isConfiguration = false ↔
        fault = other := by
    constructor
    · rintro ⟨same, -⟩
      exact (Except.error.inj same).symm
    · rintro rfl
      exact ⟨rfl, strange⟩
  unfold build
  cases values.any fun entry => entry.1.isNone with
  | true => exact stopped namesNotText rfl
  | false =>
    cases values.any fun entry => entry.1 == some "cls" with
    | true => exact stopped reservedName rfl
    | false =>
      simp only [Bool.false_eq_true, if_false]
      constructor
      · rintro ⟨failed, strange⟩
        rcases bind_error_iff.1 failed with early | ⟨⟨options, problems⟩, -, told⟩
        · exact early
        · dsimp only at told
          split at told
          · cases told
          · cases told
            cases strange
      · intro failed
        refine ⟨bind_error_iff.2 (.inl failed), ?_⟩
        have noProblem : ¬fault.IsProblem := by
          rcases check_error_iff.1 failed with watch | ⟨-, path | ⟨-, configDir⟩⟩
          · exact watch.not_isProblem
          · exact path.not_isProblem
          · exact configDir.not_isProblem
        exact Bool.eq_false_iff.2 fun configuration => noProblem (.inl configuration)

end Options

end LiveConsole
