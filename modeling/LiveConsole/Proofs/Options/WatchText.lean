import LiveConsole.Proofs.FileTree.Real
import LiveConsole.Proofs.Options.Build
import Mathlib.Data.Nat.Basic

/-!
# Two ways to name a path to watch

A path to watch is named by a text, for a watch that is set up or among the options. Options read the text as a path
before they check it, and so their check for blank texts is made on the text of that path. Both ways come to the
same canonical path, or both fail, for every text that is as blank as its path. Two kinds of texts are not: the
empty text, whose path is not blank but the working directory; and a blank name with slashes and points around it.
-/
namespace LiveConsole

/-- The canonical path that a text names for a watch that is set up. -/
def Place.watched (place : Place) (text : String) : Except Fault PurePath :=
  Watch.resolve place.environment place.tree place.directory text

namespace Options

open Text

variable {place : Place} {text : String} {path found : PurePath}

/-! ## Paths that lead somewhere -/

/-- Whether a path leads to something that is there, and this is its canonical form. -/
def LeadsTo (place : Place) (path found : PurePath) : Prop :=
  ∃ expanded, path.expandUser place.environment = .ok expanded ∧
    place.tree.pathExists place.directory expanded = .ok true ∧
    place.tree.resolve place.directory expanded = .ok found

/-- A text names a path to watch if it is not blank and its path leads somewhere. -/
theorem watched_ok_iff :
    place.watched text = .ok found ↔ allBlank text = false ∧ LeadsTo place (.ofText text) found :=
  Watch.resolve_ok_iff

/-- A blank text is refused as such. -/
theorem watched_of_allBlank (blank : allBlank text = true) : place.watched text = .error Watch.blankPath := by
  rw [Place.watched, Watch.resolve, if_pos blank]
  rfl

/-- What a text names starts at the root. -/
theorem isAbsolute_of_watched (resolved : place.watched text = .ok found) : found.isAbsolute = true := by
  obtain ⟨-, expanded, -, -, canonical⟩ := watched_ok_iff.1 resolved
  rw [FileTree.resolve_ok canonical]
  rfl

/-! ## Options for a path to watch -/

/-- The values that name nothing but a path to watch. -/
def onlyWatch (text : String) : Values := [(some "watch", .text text)]

/-- The options that watch a path and are the usual ones else. -/
def watchingOnly (path : PurePath) : Options := { usual with watch := some path.text }

/-- A path is checked among the options by the text that it has in normal form. -/
theorem checkWatch_eq_watched (path : PurePath) : checkWatch place path = place.watched path.text := rfl

/-- Options are built from a text for the path to watch by the check of its path, and by nothing else. -/
theorem build_onlyWatch (place : Place) (text : String) :
    build place (onlyWatch text) =
      (andThen (.ok (PurePath.ofText text)) (checkWatch place)).bind fun
        | .ok path => .ok (watchingOnly path)
        | .error message => .error (Watch.fault message) := by
  have given : given? (onlyWatch text) "watch" = some (.text text) := rfl
  have others (name : String) (other : name ≠ "watch") : given? (onlyWatch text) name = none := by
    have apart : (name == "watch") = false := beq_eq_false_iff_ne.2 other
    simp [given?, onlyWatch, List.lookup_cons, apart]
  have texts : (onlyWatch text).any (fun entry => entry.1.isNone) = false := rfl
  have allowed : (onlyWatch text).any (fun entry => entry.1 == some "cls") = false := rfl
  have known : unknownProblems (onlyWatch text) = [] := rfl
  have read : (Given.text text).asPath = .ok (PurePath.ofText text) := rfl
  simp only [build, texts, allowed, check, field, given, known, read, bind, Except.bind, pure, Except.pure]
  rcases andThen (.ok (PurePath.ofText text)) (checkWatch place) with fault | (message | path)
  · simp [others]
  · simp [others]
    rfl
  · simp [others]
    rfl

/-- Options are built from a text if its path in normal form has a text that names a path to watch. -/
theorem build_onlyWatch_ok_iff {options : Options} :
    build place (onlyWatch text) = .ok options ↔
      ∃ path, place.watched (PurePath.ofText text).text = .ok path ∧ options = watchingOnly path := by
  have passes (path : PurePath) :
      andThen (.ok (PurePath.ofText text)) (checkWatch place) = .ok (.ok path) ↔
        place.watched (PurePath.ofText text).text = .ok path := by
    rw [andThen_ok_iff]
    simp only [Except.ok.injEq, exists_eq_left', checkWatch_eq_watched]
  rw [build_onlyWatch]
  simp only [← passes]
  rcases andThen (.ok (PurePath.ofText text)) (checkWatch place) with fault | (message | path)
  · simp [Except.bind]
  · simp [Except.bind]
  · simp [Except.bind, eq_comm]

/-- Options are not built from a text whose path is blank. -/
theorem build_onlyWatch_of_allBlank (blank : allBlank (PurePath.ofText text).text = true) :
    build place (onlyWatch text) = .error Watch.blankPath := by
  have checked : checkWatch place (PurePath.ofText text) = .error Watch.blankPath :=
    (checkWatch_eq_watched _).trans (watched_of_allBlank blank)
  rw [build_onlyWatch]
  simp only [andThen, checked, Watch.blankPath, Watch.fault, ofFault, Except.bind]

/-! ## Texts that are as blank as their paths -/

/-- Whether a text stands for a blank name without being it: there are slashes or points around it. -/
def HidesBlank (text : String) : Prop :=
  ∃ name, PurePath.ofText text = ⟨"", [name]⟩ ∧ allBlank name = true ∧ text ≠ name

/-- A text with one name in its path is not empty. -/
theorem ne_empty_of_single {name : String} (same : PurePath.ofText text = ⟨"", [name]⟩) : text ≠ "" := by
  rintro rfl
  have parts : [] = [name] := congrArg PurePath.parts same
  cases parts

/-- The path of a text is blank if the text is blank and not empty, or stands for a blank name without being it. -/
theorem allBlank_path_iff :
    allBlank (PurePath.ofText text).text = true ↔ text ≠ "" ∧ allBlank text = true ∨ HidesBlank text := by
  rw [(PurePath.isReduced_ofText text).allBlank_text_iff]
  constructor
  · rintro ⟨name, same, blank⟩
    by_cases own : text = name
    · exact .inl ⟨ne_empty_of_single same, own ▸ blank⟩
    · exact .inr ⟨name, same, blank, own⟩
  · rintro (⟨filled, blank⟩ | ⟨name, same, blank, -⟩)
    · exact ⟨text, PurePath.ofText_of_allBlank blank filled, blank⟩
    · exact ⟨name, same, blank⟩

/-- A text that stands for a blank name without being it is not blank. -/
theorem HidesBlank.not_blank (hides : HidesBlank text) : allBlank text = false := by
  obtain ⟨name, same, -, other⟩ := hides
  rw [← Bool.not_eq_true]
  intro blank
  rw [PurePath.ofText_of_allBlank blank (ne_empty_of_single same)] at same
  cases same
  exact other rfl

/-- Whether both ways to name a path to watch come to the same absolute path, or both fail. -/
def Agree (place : Place) (text : String) : Prop :=
  (∃ path, path.isAbsolute = true ∧ place.watched text = .ok path ∧
    build place (onlyWatch text) = .ok (watchingOnly path)) ∨
  (∀ path, place.watched text ≠ .ok path) ∧ ∀ options, build place (onlyWatch text) ≠ .ok options

/-- Both ways agree on a text that is as blank as its path. -/
theorem agree_of_alike (alike : allBlank text = allBlank (PurePath.ofText text).text) : Agree place text := by
  have again (path : PurePath) :
      place.watched (PurePath.ofText text).text = .ok path ↔ place.watched text = .ok path := by
    rw [watched_ok_iff, watched_ok_iff, (PurePath.isReduced_ofText text).ofText_text, alike]
  by_cases resolves : ∃ path, place.watched text = .ok path
  · obtain ⟨path, resolved⟩ := resolves
    exact .inl ⟨path, isAbsolute_of_watched resolved, resolved,
      build_onlyWatch_ok_iff.2 ⟨path, (again path).2 resolved, rfl⟩⟩
  · refine .inr ⟨fun path resolved => resolves ⟨path, resolved⟩, fun options built => ?_⟩
    obtain ⟨path, resolved, -⟩ := build_onlyWatch_ok_iff.1 built
    exact resolves ⟨path, (again path).1 resolved⟩

/-- Both ways agree if both fail, and then only. -/
theorem agree_iff_of_fails (fails : ∀ path, place.watched text ≠ .ok path) :
    Agree place text ↔ ∀ options, build place (onlyWatch text) ≠ .ok options := by
  constructor
  · rintro (⟨path, -, resolved, -⟩ | ⟨-, refused⟩)
    · exact absurd resolved (fails path)
    · exact refused
  · exact fun refused => .inr ⟨fails, refused⟩

/-- Both ways agree on the empty text if the working directory cannot be watched, and then only: options take it for
that. -/
theorem agree_empty_iff : Agree place "" ↔ ¬∃ path, place.watched "." = .ok path := by
  have fails (path : PurePath) : place.watched "" ≠ .ok path := by
    rw [watched_of_allBlank rfl]
    exact nofun
  have built (options : Options) : build place (onlyWatch "") = .ok options ↔
      ∃ path, place.watched "." = .ok path ∧ options = watchingOnly path := build_onlyWatch_ok_iff
  rw [agree_iff_of_fails fails]
  constructor
  · rintro nothing ⟨path, found⟩
    exact nothing _ ((built _).2 ⟨path, found, rfl⟩)
  · intro nowhere options accepted
    obtain ⟨path, found, -⟩ := (built options).1 accepted
    exact nowhere ⟨path, found⟩

/-- Both ways agree on a text that stands for a blank name without being it if it leads nowhere, and then only: options
refuse it. -/
theorem HidesBlank.agree_iff (hides : HidesBlank text) :
    Agree place text ↔ ¬∃ path, place.watched text = .ok path := by
  have refused (options : Options) : build place (onlyWatch text) ≠ .ok options := by
    rw [build_onlyWatch_of_allBlank (allBlank_path_iff.2 (.inr hides))]
    exact nofun
  constructor
  · rintro (⟨path, -, -, built⟩ | ⟨fails, -⟩) ⟨other, found⟩
    · exact refused _ built
    · exact fails other found
  · exact fun nowhere => .inr ⟨fun path found => nowhere ⟨path, found⟩, refused⟩

/-- Both ways agree on a text that is neither empty nor stands for a blank name without being it. -/
theorem agree_of_plain (filled : text ≠ "") (plain : ¬HidesBlank text) : Agree place text := by
  have alike : allBlank text = allBlank (PurePath.ofText text).text := by
    rw [Bool.eq_iff_iff, allBlank_path_iff]
    simp [filled, plain]
  exact agree_of_alike alike

/-- The empty text stands for no blank name. -/
theorem not_hidesBlank_empty : ¬HidesBlank "" := by
  rintro ⟨name, same, -, -⟩
  exact ne_empty_of_single same rfl

/--
Both ways to name a path to watch come to the same absolute path, or both fail, for every text but two kinds. The
empty text is refused as blank for a watch, and stands for the working directory among the options, if that
leads somewhere. A blank name with slashes or points around it is looked up for a watch, and refused as blank among
the options. All other blank texts are refused as blank both ways.
-/
theorem watch_texts_agree_iff (place : Place) (text : String) :
    (Agree place text ↔
      ¬(text = "" ∧ ∃ path, place.watched "." = .ok path) ∧
      ¬(HidesBlank text ∧ ∃ path, place.watched text = .ok path)) ∧
    (allBlank text = true → place.watched text = .error Watch.blankPath) ∧
    (text ≠ "" ∧ allBlank text = true ∨ HidesBlank text →
      build place (onlyWatch text) = .error Watch.blankPath) ∧
    (text = "" → build place (onlyWatch text) = build place (onlyWatch ".")) ∧ Agree place "." := by
  have agrees : Agree place text ↔
      ¬(text = "" ∧ ∃ path, place.watched "." = .ok path) ∧
      ¬(HidesBlank text ∧ ∃ path, place.watched text = .ok path) := by
    by_cases empty : text = ""
    · subst empty
      simp [agree_empty_iff, not_hidesBlank_empty]
    · by_cases hides : HidesBlank text
      · simp [hides.agree_iff, empty, hides]
      · simp [agree_of_plain empty hides, empty, hides]
  refine ⟨agrees, watched_of_allBlank, fun blank => build_onlyWatch_of_allBlank (allBlank_path_iff.2 blank), ?_,
    agree_of_alike rfl⟩
  rintro rfl
  rw [build_onlyWatch, build_onlyWatch]
  rfl

/-- A directory with another one in it whose name is a blank. -/
def blankPlace : Place where
  environment := ⟨[], none, []⟩
  tree := { entries := [([], .directory 0), (["app"], .directory 0), (["app", " "], .directory 0)] }
  directory := ["app"]

/-- The empty text names nothing for a watch, and the working directory among the options; a blank name with a slash
behind it is found for a watch, and refused among the options. -/
theorem blank_texts_disagree :
    blankPlace.watched "" = .error Watch.blankPath ∧
      build blankPlace (onlyWatch "") = .ok (watchingOnly (.ofLocation ["app"])) ∧ ¬Agree blankPlace "" ∧
      blankPlace.watched " /" = .ok (.ofLocation ["app", " "]) ∧
      build blankPlace (onlyWatch " /") = .error Watch.blankPath ∧ ¬Agree blankPlace " /" := by
  obtain ⟨emptyAgrees, refused, -, -⟩ := watch_texts_agree_iff blankPlace ""
  obtain ⟨hiddenAgrees, -, hiddenRefused, -⟩ := watch_texts_agree_iff blankPlace " /"
  have point : blankPlace.watched "." = .ok (.ofLocation ["app"]) := by decide +kernel
  have found : blankPlace.watched " /" = .ok (.ofLocation ["app", " "]) := by decide +kernel
  have hides : HidesBlank " /" := ⟨" ", by decide, by decide, by decide⟩
  refine ⟨refused rfl, build_onlyWatch_ok_iff.2 ⟨_, point, rfl⟩, fun agree => ?_, found,
    hiddenRefused (.inr hides), fun agree => ?_⟩
  · exact (emptyAgrees.1 agree).1 ⟨rfl, _, point⟩
  · exact (hiddenAgrees.1 agree).2 ⟨hides, _, found⟩

end Options

end LiveConsole
