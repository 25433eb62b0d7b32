import LiveConsole.FileTree.Path
import LiveConsole.Proofs.Text.Blank

/-!
# Texts of paths and of locations

A path that is read from a text has no empty names and no single points, and is read from its own text again. Its
text is blank only if it is one blank name and nothing else; every other path shows a slash, a point or a
character that is no blank. The text of a location holds its names with a slash in front of each. Where the names
are proper ones, the location is read from its text again, and no working directory has a part in it.
-/
namespace LiveConsole

open Text

/-- Whether a name stands for itself wherever it is met on a path. -/
structure IsProper (name : String) : Prop where
  /-- The name is not empty. -/
  full : name ≠ ""
  /-- The name is not the one for the directory that it stands in. -/
  notPoint : name ≠ "."
  /-- The name is not the one for the directory above. -/
  notPoints : name ≠ ".."
  /-- The name has no slash in it. -/
  noSlash : '/' ∉ name.toList

/-- Whether a name is proper can be told. -/
instance (name : String) : Decidable (IsProper name) :=
  decidable_of_iff (name ≠ "" ∧ name ≠ "." ∧ name ≠ ".." ∧ '/' ∉ name.toList)
    ⟨fun ⟨full, notPoint, notPoints, noSlash⟩ => ⟨full, notPoint, notPoints, noSlash⟩,
      fun proper => ⟨proper.full, proper.notPoint, proper.notPoints, proper.noSlash⟩⟩

/-- Whether all names of a location are proper ones. -/
def Location.IsProper (location : Location) : Prop := ∀ name ∈ location, LiveConsole.IsProper name

/-- A proper name is no name to be skipped. -/
theorem IsProper.notIdle {name : String} (proper : IsProper name) : ¬(name = "" ∨ name = ".") := by
  rintro (empty | point)
  · exact proper.full empty
  · exact proper.notPoint point

namespace FileTree

/-- The names of a path text have no slashes in them. -/
theorem noSlash_of_mem_steps {path name : String} (member : name ∈ steps path) :
    '/' ∉ name.toList := by
  obtain ⟨piece, inside, rfl⟩ := List.mem_map.1 member
  rw [String.toList_ofList]
  exact Text.not_mem_of_mem_splitAt inside

/-- A name without a slash is the only name of its path. -/
theorem steps_of_noSlash {name : String} (noSlash : '/' ∉ name.toList) : steps name = [name] := by
  have joined : steps (joinWith (String.singleton '/') [name]) = [name] :=
    splitAt_joinWith (List.cons_ne_nil name []) (by simpa using noSlash)
  rwa [joinWith, String.intercalate_singleton] at joined

/-- The names of two paths with a slash between them are those of the one and the other. -/
theorem steps_append_slash (before after : String) :
    steps (before ++ "/" ++ after) = steps before ++ steps after := by
  have slash : ("/" : String).toList = ['/'] := rfl
  simp only [steps, String.toList_append, slash, List.append_assoc, List.singleton_append,
    splitAt_append, List.map_append]

/-- A slash in front of a path puts an empty name in front of its names. -/
theorem steps_slash (text : String) : steps ("/" ++ text) = "" :: steps text := by
  have parted := steps_append_slash "" text
  rwa [String.empty_append] at parted

/-- The names of joined names are these, or one empty name if there are none. -/
theorem steps_joinWith {names : List String} (noSlash : ∀ name ∈ names, '/' ∉ name.toList) :
    steps (joinWith "/" names) = if names = [] then [""] else names := by
  by_cases empty : names = []
  · rw [if_pos empty, empty]
    rfl
  · rw [if_neg empty]
    exact splitAt_joinWith empty noSlash

/-- The names of the text of a location are its names behind one to be skipped, or two where it has
none. -/
theorem steps_text {location : Location} (free : ∀ name ∈ location, '/' ∉ name.toList) :
    steps location.text = "" :: if location = [] then [""] else location := by
  rw [Location.text, steps_slash, steps_joinWith free]

/-- Whether a path starts at the root. -/
def IsRooted (path : String) : Prop := path.toList.head? = some '/'

/-- The text of a location starts at the root. -/
theorem isRooted_text (location : Location) : IsRooted location.text := by
  rw [IsRooted, Location.text, String.toList_append]
  rfl

/-- A path from the root is not empty. -/
theorem IsRooted.present {path : String} (rooted : IsRooted path) : path ≠ "" := by
  rintro rfl
  cases rooted

/-- The walk of a path from the root starts there. -/
theorem IsRooted.startOf {path : String} (rooted : IsRooted path) (directory : Location) :
    FileTree.startOf directory path = [] := by
  rw [FileTree.startOf, rooted, if_pos (beq_self_eq_true _)]

/-- The walk of the text of a location starts at the root. -/
theorem startOf_text (directory location : Location) : startOf directory location.text = [] :=
  (isRooted_text location).startOf directory

end FileTree

namespace PurePath

/-! ## Paths in normal form -/

/-- Whether a path is in normal form. -/
structure IsReduced (path : PurePath) : Prop where
  /-- In front of the names there is nothing, one slash or two. -/
  root : path.root = "" ∨ path.root = "/" ∨ path.root = "//"
  /-- No name is empty. -/
  full : ∀ name ∈ path.parts, name ≠ ""
  /-- No name is a single point. -/
  notPoint : ∀ name ∈ path.parts, name ≠ "."
  /-- No name has a slash in it. -/
  noSlash : ∀ name ∈ path.parts, '/' ∉ name.toList

/-- What stands in front of the names is nothing, one slash or two. -/
theorem rootOf_cases (chars : List Char) : rootOf chars = "" ∨ rootOf chars = "/" ∨ rootOf chars = "//" := by
  unfold rootOf
  split <;> simp

/-- A path that is read from a text is in normal form. -/
theorem isReduced_ofText (text : String) : (ofText text).IsReduced := by
  have kept {name : String} (member : name ∈ (ofText text).parts) :
      name ∈ FileTree.steps text ∧ name ≠ "" ∧ name ≠ "." := by
    simpa [ofText] using member
  exact ⟨rootOf_cases text.toList, fun name member => (kept member).2.1, fun name member => (kept member).2.2,
    fun name member => FileTree.noSlash_of_mem_steps (kept member).1⟩

/-- A single slash at the front of a path stays single. -/
theorem rootOf_cons {c : Char} {chars : List Char} (noSlash : c ≠ '/') :
    rootOf ('/' :: c :: chars) = "/" := by
  unfold rootOf
  split
  · rename_i same
    cases same
    exact absurd rfl noSlash
  · rename_i same
    cases same
    exact absurd rfl noSlash
  · rfl
  · rename_i other
    exact absurd rfl (other (c :: chars))

/-- Slashes in front of what opens with none are counted up to two. -/
theorem rootOf_slashes {chars : List Char} (plain : chars.head? ≠ some '/') :
    rootOf chars = "" ∧ rootOf ('/' :: chars) = "/" ∧ rootOf ('/' :: '/' :: chars) = "//" := by
  cases chars with
  | nil => exact ⟨rfl, rfl, rfl⟩
  | cons c rest =>
    have other : c ≠ '/' := by simpa using plain
    refine ⟨?_, rootOf_cons other, ?_⟩
    · rw [rootOf]
      all_goals
        intro tail same
        exact other (List.cons.inj same).1
    · rw [rootOf]
      intro tail same
      exact other (List.cons.inj same).1

/-- Joined names open with the first of them. -/
theorem head?_joinWith {first : String} (full : first ≠ "") (rest : List String) :
    (joinWith "/" (first :: rest)).toList.head? = first.toList.head? := by
  have filled : first.toList ≠ [] := by simpa using full
  cases rest with
  | nil => rw [joinWith, String.intercalate_singleton]
  | cons second rest =>
    rw [joinWith, String.intercalate_cons_cons, String.toList_append, String.toList_append,
      List.append_assoc, List.head?_append, List.head?_eq_some_head filled, Option.some_or]

/-- Names in normal form are not skipped, and empty names are. -/
theorem IsReduced.filter {path : PurePath} (reduced : path.IsReduced) :
    (if path.parts = [] then [""] else path.parts).filter (fun name => name ≠ "" ∧ name ≠ ".") =
      path.parts := by
  by_cases empty : path.parts = []
  · rw [if_pos empty, empty]
    rfl
  · rw [if_neg empty, List.filter_eq_self]
    intro name member
    simp [reduced.full name member, reduced.notPoint name member]

/-- A path in normal form is read from its text again. -/
theorem IsReduced.ofText_text {path : PurePath} (reduced : path.IsReduced) : ofText path.text = path := by
  obtain ⟨root, parts⟩ := path
  have plain : (joinWith "/" parts).toList.head? ≠ some '/' := by
    cases parts with
    | nil => exact nofun
    | cons first rest =>
      rw [head?_joinWith (reduced.full first List.mem_cons_self)]
      intro slash
      exact reduced.noSlash first List.mem_cons_self (List.mem_of_mem_head? slash)
  obtain ⟨none, one, two⟩ := rootOf_slashes plain
  have names := FileTree.steps_joinWith reduced.noSlash
  have kept := reduced.filter
  have slash : ("/" : String).toList = ['/'] := rfl
  have slashes : "//" ++ joinWith "/" parts = "/" ++ ("/" ++ joinWith "/" parts) := by
    rw [← String.append_assoc]
    rfl
  by_cases idle : root = "" ∧ parts = []
  · obtain ⟨rfl, rfl⟩ := idle
    rfl
  · rw [text, if_neg idle]
    rcases reduced.root with rfl | rfl | rfl
    · rw [String.empty_append, ofText, none, names, kept]
    · rw [ofText, FileTree.steps_slash, String.toList_append, slash, List.singleton_append, one, names,
        List.filter_cons_of_neg (by simp), kept]
    · rw [slashes, ofText, FileTree.steps_slash, FileTree.steps_slash, String.toList_append,
        String.toList_append, slash, List.singleton_append, List.singleton_append, two, names,
        List.filter_cons_of_neg (by simp), List.filter_cons_of_neg (by simp), kept]

/-! ## Blank texts -/

/-- A slash is no blank. -/
theorem allBlank_eq_false_of_slash {text : String} (slash : '/' ∈ text.toList) : allBlank text = false := by
  rw [allBlank, List.all_eq_false]
  exact ⟨'/', slash, by decide⟩

/-- The text of a path in normal form is blank exactly if the path is one blank name. -/
theorem IsReduced.allBlank_text_iff {path : PurePath} (reduced : path.IsReduced) :
    allBlank path.text = true ↔ ∃ name, path = ⟨"", [name]⟩ ∧ allBlank name = true := by
  obtain ⟨root, parts⟩ := path
  constructor
  · intro blank
    by_cases idle : root = "" ∧ parts = []
    · rw [text, if_pos idle] at blank
      exact absurd blank (by decide)
    · rw [text, if_neg idle] at blank
      have free : '/' ∉ (root ++ joinWith "/" parts).toList := by
        intro slash
        rw [allBlank_eq_false_of_slash slash] at blank
        cases blank
      rw [String.toList_append, List.mem_append, not_or] at free
      rcases reduced.root with rfl | rfl | rfl
      · match parts with
        | [] => exact absurd ⟨rfl, rfl⟩ idle
        | [name] =>
          rw [String.empty_append, joinWith, String.intercalate_singleton] at blank
          exact ⟨name, rfl, blank⟩
        | first :: second :: rest =>
          rw [joinWith, String.intercalate_cons_cons] at free
          exact absurd (by simp) free.2
      · exact absurd (by decide) free.1
      · exact absurd (by decide) free.1
  · rintro ⟨name, same, blank⟩
    cases same
    rw [text, if_neg (by simp), String.empty_append, joinWith, String.intercalate_singleton]
    exact blank

/-- A blank text that is not empty is the one name of its path. -/
theorem ofText_of_allBlank {text : String} (blank : allBlank text = true) (filled : text ≠ "") :
    ofText text = ⟨"", [text]⟩ := by
  have noSlash : '/' ∉ text.toList := by
    intro slash
    rw [allBlank_eq_false_of_slash slash] at blank
    cases blank
  have noPoint : text ≠ "." := by
    rintro rfl
    exact absurd blank (by decide)
  have plain : text.toList.head? ≠ some '/' := fun slash => noSlash (List.mem_of_mem_head? slash)
  rw [ofText, (rootOf_slashes plain).1, FileTree.steps_of_noSlash noSlash,
    List.filter_cons_of_pos (by simp [filled, noPoint]), List.filter_nil]

/-! ## Locations -/

/-- The text of the normal form of a location is the text of the location. -/
theorem text_ofLocation (location : Location) : (ofLocation location).text = location.text := by
  have rooted : ¬("/" = "" ∧ location = []) := fun both => absurd both.1 (by decide)
  rw [text, ofLocation, if_neg rooted, Location.text]

/-- The text of a location is never empty. -/
theorem text_ne_empty (location : Location) : location.text ≠ "" := by
  intro empty
  have chars := congrArg String.toList empty
  rw [Location.text, String.toList_append] at chars
  cases chars

/-- The text of a location is never two dashes. -/
theorem text_ne_dashes (location : Location) : location.text ≠ "--" := by
  intro same
  have chars := congrArg String.toList same
  rw [Location.text, String.toList_append] at chars
  exact absurd (List.head_eq_of_cons_eq chars) (by decide)

/-- The normal form of a location with proper names is a path in normal form. -/
theorem isReduced_ofLocation {location : Location} (proper : location.IsProper) : (ofLocation location).IsReduced :=
  ⟨.inr (.inl rfl), fun name member => (proper name member).full, fun name member => (proper name member).notPoint,
    fun name member => (proper name member).noSlash⟩

/-- A location with proper names is read from its text again. -/
theorem ofText_text {location : Location} (proper : location.IsProper) :
    ofText location.text = ofLocation location := by
  rw [← text_ofLocation]
  exact (isReduced_ofLocation proper).ofText_text

/-- Locations with proper names and the same text are the same. -/
theorem text_injective {first second : Location} (proper : first.IsProper) (other : second.IsProper)
    (same : first.text = second.text) : first = second := by
  have paths : ofLocation first = ofLocation second := by
    rw [← ofText_text proper, ← ofText_text other, same]
  exact congrArg parts paths

/-- A path that starts at the root has no home directory in it. -/
theorem expandUser_ofLocation (environment : Environment) (location : Location) :
    (ofLocation location).expandUser environment = .ok (ofLocation location) := rfl

end PurePath

end LiveConsole
