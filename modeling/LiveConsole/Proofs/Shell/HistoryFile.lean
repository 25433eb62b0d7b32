import LiveConsole.History
import LiveConsole.Proofs.FileTree.Touch
import LiveConsole.Shell.HistoryList
import LiveConsole.Shell.System

/-!
# The history file

A file that was written is read back as it was written, whether it was there before or not. And a line in which
the history finds nothing to drop is still a line of the file after the list that holds it was written, and
still an entry after the file was loaded.
-/
namespace LiveConsole

open Text

/-! ## Trees with one file more -/

namespace FileTree

variable {tree : FileTree} {place location directory : Location} {entry : Entry} {path name : String}
variable {budget spared : Nat} {outcome : Location × Nat}

/-- An entry that is put where none was is found there, and nothing else changes. -/
theorem get?_put_of_none (absent : tree.get? place = none) (location : Location) :
    (tree.put place entry).get? location = if location = place then some entry else tree.get? location := by
  have appended : tree.put place entry = { tree with entries := tree.entries ++ [(place, entry)] } :=
    if_neg (by rw [absent]; exact Bool.false_ne_true)
  rw [appended, get?, List.lookup_append, List.lookup_cons, List.lookup_nil]
  by_cases own : location = place
  · rw [if_pos own, own, show tree.entries.lookup place = none from absent, beq_self_eq_true]
    rfl
  · have different : (location == place) = false := by simpa using own
    rw [if_neg own, different, Option.or_none]
    rfl

/-- What is found in a tree is found there after an entry was put where none was. -/
theorem get?_put_mono {other : Entry} (absent : tree.get? place = none)
    (found : tree.get? location = some other) : (tree.put place entry).get? location = some other := by
  have apart : location ≠ place := by
    rintro rfl
    rw [absent] at found
    cases found
  rw [get?_put_of_none absent, if_neg apart, found]

/-- A walk that leads somewhere leads there after an entry was put where none was, if it is so behind each
link. -/
theorem walkWith_put_mono (absent : tree.get? place = none)
    {follow later : Location → List String → Except WalkFault (Location × Nat)}
    (follows : ∀ location names, follow location names = .ok outcome → later location names = .ok outcome)
    {names : List String} (walked : walkWith tree budget follow location names = .ok outcome) :
    walkWith (tree.put place entry) budget later location names = .ok outcome := by
  induction names generalizing location with
  | nil => exact walked
  | cons name names ih =>
    rw [walkWith] at walked ⊢
    split at walked
    · rename_i modified stands
      rw [get?_put_mono absent stands]
      split at walked
      · rename_i idle
        simp only [if_pos idle]
        exact ih walked
      · rename_i busy
        simp only [if_neg busy]
        split at walked
        · rename_i above
          simp only [if_pos above]
          exact ih walked
        · rename_i deeper
          simp only [if_neg deeper]
          split at walked
          · cases walked
          · rename_i short
            simp only [if_neg short]
            split at walked
            · cases walked
            · rename_i target link
              rw [get?_put_mono absent link]
              split at walked
              · cases walked
              · rename_i led
                simp only [if_neg led]
                exact follows _ _ walked
            · rename_i other solid there
              rw [get?_put_mono absent there]
              cases other with
              | link target => exact absurd rfl (solid target)
              | _ => exact ih walked
    · cases walked

/-- A walk that leads somewhere leads there after an entry was put where none was. -/
theorem walk_put_mono (absent : tree.get? place = none) {names : List String}
    (walked : tree.walk budget location names = .ok outcome) :
    (tree.put place entry).walk budget location names = .ok outcome := by
  induction budget generalizing location names with
  | zero => exact walkWith_put_mono absent (fun _ _ none => by cases none) walked
  | succ budget ih => exact walkWith_put_mono absent (fun _ _ led => ih led) walked

/-- A path that leads somewhere leads there after an entry was put where none was. -/
theorem locate_put_mono (absent : tree.get? place = none) (led : tree.locate directory path = .ok outcome) :
    (tree.put place entry).locate directory path = .ok outcome := by
  obtain ⟨fits, present, walked⟩ := locate_ok led
  rw [locate_eq fits present]
  exact walk_put_mono absent walked

/-- The names of a path make up the path. -/
theorem joinWith_steps (path : String) : joinWith "/" (steps path) = path := by
  have names : (steps path).map String.toList = path.toList.splitOn '/' := by
    rw [steps, splitAt_eq_splitOn, List.map_map]
    simp [Function.comp_def]
  rw [← String.toList_inj, joinWith, String.toList_intercalate, names]
  exact List.intercalate_splitOn '/'

/-- A path that has a slash has a last one. -/
theorem exists_lastSlash {path : String} (slash : '/' ∈ path.toList) :
    ∃ above name, path = above ++ "/" ++ name ∧ '/' ∉ name.toList := by
  obtain ⟨behind, before, parted, free⟩ := List.eq_append_cons_of_mem (List.mem_reverse.2 slash)
  refine ⟨String.ofList before.reverse, String.ofList behind.reverse, ?_, by simpa using free⟩
  rw [← String.toList_inj, ← List.reverse_inj, parted]
  simp

/-- A walk that does not find its last name goes there when an entry without a link is put there. -/
theorem walk_put_last {names : List String} {parent : Location} {left : Nat}
    (solid : ∀ target, entry ≠ .link target)
    (led : tree.walk budget location names = .ok (parent, left))
    (stands : tree.HasDirectory parent) (absent : tree.get? (parent ++ [name]) = none)
    (missing : tree.walk budget location (names ++ [name]) = .error .missing) :
    (tree.put (parent ++ [name]) entry).walk budget location (names ++ [name]) =
      .ok (parent ++ [name], left) := by
  obtain ⟨modified, folder⟩ := stands
  have last : tree.walk left parent [name] = .error .missing := by
    rw [walk_append, led] at missing
    exact missing
  have inward : LeadsIn name := by
    have busy : ¬(name = "" ∨ name = ".") := by
      intro idle
      cases left <;> simp [walk, walkWith, folder, idle] at last
    have deeper : name ≠ ".." := by
      intro above
      cases left <;> simp [walk, walkWith, folder, above] at last
    refine ⟨busy, deeper, Nat.le_of_not_lt fun long => ?_⟩
    cases left <;> simp [walk, walkWith, folder, busy, deeper, long] at last
  have created : (tree.put (parent ++ [name]) entry).get? (parent ++ [name]) = some entry := by
    rw [get?_put_of_none absent, if_pos rfl]
  have noLink : (tree.put (parent ++ [name]) entry).linkAt? (parent ++ [name]) = none := by
    cases found : entry with
    | link target => exact absurd found (solid target)
    | _ => rw [found] at created; rw [linkAt?, created]
  rw [walk_append, walk_put_mono absent led]
  exact (walk_down ⟨modified, get?_put_mono absent folder⟩ inward created noLink).trans walk_nil

/-- A path that goes on starts where it starts. -/
theorem startOf_append (present : path ≠ "") (directory : Location) (rest : String) :
    startOf directory (path ++ rest) = startOf directory path := by
  unfold startOf
  cases chars : path.toList with
  | nil => exact absurd (String.toList_eq_nil_iff.1 chars) present
  | cons c chars' => rw [String.toList_append, chars]; rfl

end FileTree

namespace Shell

open FileTree

/-! ## Files that are written -/

namespace System

variable {system later other : System} {path : String} {content rest : Bytes}

/-- What a path leads to is its file. -/
theorem fileAt?_of_locate {location : Location} {spared : Nat} {modified : Time} {executable : Bool}
    (led : system.tree.locate system.directory path = .ok (location, spared))
    (found : system.tree.get? location = some (.file modified content executable)) :
    system.fileAt? path = some content := by
  simp only [fileAt?, status, led, bind, Except.bind, found]

/-- The directory that a file would stand in. -/
def parentOf (tree : FileTree) (directory : Location) (path : String) : Except WalkFault (Location × Nat) :=
  if (steps path).length ≤ 1 then .ok (directory, 0)
  else
    tree.locate directory
      (if String.intercalate "/" (steps path).dropLast = "" then "/"
        else String.intercalate "/" (steps path).dropLast)

/-- Where the directory of a missing file is found, all names of its path but the last one lead there. -/
theorem walk_parent {tree : FileTree} {directory parent : Location} {spared : Nat}
    (led : parentOf tree directory path = .ok (parent, spared)) :
    ∃ left, tree.walk maxLinks (startOf directory path) (steps path).dropLast = .ok (parent, left) := by
  unfold parentOf at led
  by_cases slash : '/' ∈ path.toList
  · obtain ⟨above, name, rfl, free⟩ := exists_lastSlash slash
    have names : steps (above ++ "/" ++ name) = steps above ++ [name] := by
      rw [steps_append_slash, steps_of_noSlash free]
    have many : ¬(steps above ++ [name]).length ≤ 1 := by
      have some : steps above ≠ [] := by
        simpa [steps] using splitAt_ne_nil '/' above.toList
      have positive := List.length_pos_iff.2 some
      simp
      omega
    rw [names, if_neg many, List.dropLast_concat, show String.intercalate "/" (steps above) = above from
      joinWith_steps above] at led
    rw [names, List.dropLast_concat]
    by_cases root : above = ""
    · rw [if_pos root] at led
      obtain ⟨_, _, walked⟩ := locate_ok led
      have walkedTwice : tree.walk maxLinks [] ["", ""] = .ok (parent, spared) := walked
      obtain ⟨stands, _⟩ := walk_cons_ok walkedTwice
      rw [walk_skip stands] at walkedTwice
      have rooted : startOf directory (above ++ "/" ++ name) = [] := by
        rw [root, startOf, String.toList_append]
        rfl
      rw [rooted, root]
      exact ⟨spared, walkedTwice⟩
    · rw [if_neg root] at led
      rw [String.append_assoc, startOf_append root]
      exact ⟨spared, (locate_ok led).2.2⟩
  · have names : steps path = [path] := steps_of_noSlash slash
    have start : startOf directory path = directory := by
      rw [startOf, if_neg]
      intro rooted
      exact slash (List.mem_of_mem_head? (by simpa using rooted))
    rw [names, if_pos (by simp)] at led
    cases led
    rw [names, start]
    exact ⟨maxLinks, walk_nil⟩

/-- Where a file is written, its time and whether it may be run: in the place of the file that a path leads to,
or as a new file in the directory that the names before the last one lead to. -/
def placeToWrite? (tree : FileTree) (directory : Location) (path : String) :
    Option (Location × Time × Bool) :=
  match tree.locate directory path with
  | .ok (location, _) =>
    match tree.get? location with
    | some (.file modified _ executable) => some (location, modified, executable)
    | _ => none
  | .error .missing =>
    match parentOf tree directory path, (steps path).getLast? with
    | .ok (parent, _), some name =>
      if name = "" then none
      else
        match tree.get? parent, tree.get? (parent ++ [name]) with
        | some (.directory _), none => some (parent ++ [name], usualTime, false)
        | _, _ => none
    | _, _ => none
  | .error _ => none

/-- Writing a file puts it where it is written, and nothing else changes. -/
theorem writeFile?_eq_map (system : System) (path : String) (content : Bytes) :
    system.writeFile? path content =
      (placeToWrite? system.tree system.directory path).map fun place =>
        { system with tree := system.tree.put place.1 (.file place.2.1 content place.2.2) } := by
  unfold writeFile? placeToWrite?
  cases system.tree.locate system.directory path with
  | ok outcome =>
    cases found : system.tree.get? outcome.1 with
    | none => simp only [found, Option.map_none]
    | some entry => cases entry <;> simp only [found, Option.map_none, Option.map_some]
  | error fault =>
    cases fault with
    | missing =>
      dsimp only
      rw [show (if (steps path).length ≤ 1 then .ok (system.directory, 0) else _ :
        Except WalkFault (Location × Nat)) = parentOf system.tree system.directory path from rfl]
      cases parentOf system.tree system.directory path with
      | error fault => rfl
      | ok outcome =>
        cases (steps path).getLast? with
        | none => rfl
        | some name =>
          by_cases full : name = ""
          · simp only [if_pos full, Option.map_none]
          · simp only [if_neg full]
            cases system.tree.get? outcome.1 with
            | none => rfl
            | some entry =>
              cases entry with
              | directory modified => cases system.tree.get? (outcome.1 ++ [name]) <;> rfl
              | _ => rfl
    | _ => rfl

/-- A path leads to the place where its file is written. -/
theorem locate_placeToWrite {tree : FileTree} {directory place : Location} {modified : Time}
    {executable : Bool} (found : placeToWrite? tree directory path = some (place, modified, executable))
    (content : Bytes) :
    ∃ spared, (tree.put place (.file modified content executable)).locate directory path = .ok (place, spared) ∧
      (tree.put place (.file modified content executable)).get? place =
        some (.file modified content executable) := by
  unfold placeToWrite? at found
  split at found
  · rename_i location spared led
    split at found
    · rename_i known
      cases found
      refine ⟨spared, ((touches_put known).locate_eq _ _).trans led, ?_⟩
      rw [get?_put (by rw [known]; rfl), if_pos rfl]
    · cases found
  · rename_i missing
    split at found
    · rename_i parent spared name led last
      split at found
      · cases found
      · rename_i full
        split at found
        · rename_i modified folder absent
          cases found
          obtain ⟨left, walked⟩ := walk_parent led
          have names : steps path = (steps path).dropLast ++ [name] := by
            obtain ⟨before, same⟩ := List.getLast?_eq_some_iff.1 last
            rw [same, List.dropLast_concat]
          have present : path ≠ "" := by
            rintro rfl
            cases last
            exact full rfl
          have fits : CanBeLookedUp path := by
            unfold locate at missing
            split at missing
            · cases missing
            · rename_i noNull
              split at missing
              · cases missing
              · rename_i short
                exact ⟨by simpa using noNull, by omega⟩
          rw [locate_eq fits present, names] at missing
          have there : (tree.put (parent ++ [name]) (.file usualTime content false)).walk maxLinks
              (startOf directory path) ((steps path).dropLast ++ [name]) = .ok (parent ++ [name], left) :=
            walk_put_last (by simp) walked ⟨modified, folder⟩ absent missing
          refine ⟨left, ?_, by rw [get?_put_of_none absent, if_pos rfl]⟩
          rw [locate_eq fits present, names]
          exact there
        · cases found
    · cases found
  · cases found

/-- What is written to a file is read back. -/
theorem fileAt?_writeFile (written : system.writeFile? path content = some later) :
    later.fileAt? path = some content := by
  rw [writeFile?_eq_map] at written
  obtain ⟨⟨place, modified, executable⟩, found, rfl⟩ := Option.map_eq_some_iff.1 written
  obtain ⟨spared, led, there⟩ := locate_placeToWrite found content
  exact fileAt?_of_locate led there

/-- A file is written in the place of another one that its path leads to, or where nothing was. -/
theorem placeToWrite?_cases {tree : FileTree} {directory place : Location} {modified : Time} {executable : Bool}
    (found : placeToWrite? tree directory path = some (place, modified, executable)) :
    (∃ spared content, tree.locate directory path = .ok (place, spared) ∧
        tree.get? place = some (.file modified content executable)) ∨
      tree.get? place = none := by
  unfold placeToWrite? at found
  split at found
  · rename_i location spared led
    split at found
    · rename_i known
      cases found
      exact .inl ⟨spared, _, led, known⟩
    · cases found
  · split at found
    · split at found
      · cases found
      · split at found
        · rename_i absent
          cases found
          exact .inr absent
        · cases found
    · cases found
  · cases found

/-- Writing a file leaves every other file alone: a path that leads to that one leads there afterwards, and the path
of the written file still does not. -/
theorem writeFile?_apart (written : system.writeFile? path content = some later) {outer : String}
    {location : Location} {spared : Nat} {entry : Entry}
    (led : system.tree.locate system.directory outer = .ok (location, spared))
    (there : system.tree.get? location = some entry)
    (apart : ∀ spared, system.tree.locate system.directory path ≠ .ok (location, spared)) :
    later.tree.locate system.directory outer = .ok (location, spared) ∧
      later.tree.get? location = some entry ∧
      ∀ spared, later.tree.locate system.directory path ≠ .ok (location, spared) := by
  rw [writeFile?_eq_map] at written
  obtain ⟨⟨place, modified, executable⟩, found, rfl⟩ := Option.map_eq_some_iff.1 written
  rcases placeToWrite?_cases found with ⟨own, old, leads, known⟩ | absent
  · have other : location ≠ place := by
      rintro rfl
      exact apart own leads
    have same := (touches_put known : Touches _ (system.tree.put place (.file modified content executable)) _ _ _)
    refine ⟨(same.locate_eq _ _).trans led, (same.elsewhere location other).trans there, fun spared leads => ?_⟩
    exact apart spared ((same.locate_eq _ _).symm.trans leads)
  · refine ⟨locate_put_mono absent led, get?_put_mono absent there, fun spared leads => ?_⟩
    obtain ⟨left, own, -⟩ := locate_placeToWrite found content
    cases own.symm.trans leads
    rw [absent] at there
    cases there

/-- Only the file tree changes when a file is written. -/
theorem writeFile?_eq (written : system.writeFile? path content = some later) :
    later = { system with tree := later.tree } := by
  rw [writeFile?_eq_map] at written
  obtain ⟨place, -, rfl⟩ := Option.map_eq_some_iff.1 written
  rfl

/-- Only the file tree changes when a file is written, or not at all where that fails. -/
theorem writeFile?_getD_eq (system : System) (path : String) (content : Bytes) :
    (system.writeFile? path content).getD system =
      { system with tree := ((system.writeFile? path content).getD system).tree } := by
  cases written : system.writeFile? path content with
  | none => rfl
  | some later => exact writeFile?_eq written

/-- Whether a file can be written depends on the file tree and the working directory only. -/
theorem writeFile?_isSome_eq (tree : system.tree = other.tree) (directory : system.directory = other.directory)
    (path : String) (content rest : Bytes) :
    (system.writeFile? path content).isSome = (other.writeFile? path rest).isSome := by
  rw [writeFile?_eq_map, writeFile?_eq_map, Option.isSome_map, Option.isSome_map, tree, directory]

/-- What the files are after one was written does not depend on the input. -/
theorem writeFile?_tree (system : System) (input : Bytes) (path : String) (content : Bytes) :
    ((({ system with input } : System).writeFile? path content).getD { system with input }).tree =
      ((system.writeFile? path content).getD system).tree := by
  rw [writeFile?_eq_map, writeFile?_eq_map]
  cases placeToWrite? system.tree system.directory path <;> rfl

/-- What a path leads to depends on the file tree and the working directory only. -/
theorem fileAt?_eq (tree : system.tree = other.tree) (directory : system.directory = other.directory)
    (path : String) : system.fileAt? path = other.fileAt? path := by
  rw [fileAt?, fileAt?, tree, directory]

/-- A file that can be read can be written. -/
theorem writeFile?_isSome_of_fileAt? (read : system.fileAt? path = some content) (rest : Bytes) :
    (system.writeFile? path rest).isSome = true := by
  unfold fileAt? at read
  split at read
  · rename_i modified _ executable known
    obtain ⟨location, spared, led, found⟩ := locate_of_status known
    simp only [writeFile?, led, found, Option.isSome_some]
  · cases read

end System

/-! ## Entries of the history -/

namespace HistoryList

variable {line : Bytes} {entries : List Bytes} {file : Bytes}

/-- Whether the history keeps a line as it is when it is written to a file and loaded again. -/
structure IsKept (line : Bytes) : Prop where
  /-- The line is not empty. -/
  full : line ≠ []
  /-- The line is a single one. -/
  single : 0x0A ∉ line
  /-- Nothing of the line is dropped. -/
  whole : textOfLine line = line
  /-- The line is not taken for a time stamp. -/
  noStamp : startsStamp line = false

/-- Whether the history keeps a line can be told. -/
instance (line : Bytes) : Decidable (IsKept line) :=
  decidable_of_iff (line ≠ [] ∧ 0x0A ∉ line ∧ textOfLine line = line ∧ startsStamp line = false)
    ⟨fun ⟨full, single, whole, noStamp⟩ => ⟨full, single, whole, noStamp⟩,
      fun kept => ⟨kept.full, kept.single, kept.whole, kept.noStamp⟩⟩

/-- The lines of a text are those up to a line feed and those behind it. -/
theorem linesFrom_append (line before after : Bytes) :
    linesFrom line (before ++ 0x0A :: after) = linesFrom line (before ++ [0x0A]) ++ linesFrom [] after := by
  induction before generalizing line with
  | nil => rfl
  | cons byte before ih =>
    rw [List.cons_append, List.cons_append, linesFrom, linesFrom]
    split
    · rw [ih, List.cons_append]
    · exact ih _

/-- A text without a line feed is a line when a line feed ends it. -/
theorem linesFrom_single (line : Bytes) {entry : Bytes} (single : 0x0A ∉ entry) :
    linesFrom line (entry ++ [0x0A]) = [line ++ entry] := by
  induction entry generalizing line with
  | nil => simp [linesFrom]
  | cons byte entry ih =>
    obtain ⟨own, others⟩ := not_or.1 (List.mem_cons.not.1 single)
    rw [List.cons_append, linesFrom, if_neg (Ne.symm own), ih _ others]
    simp

/-- An entry of a list is a line of the file that holds the list. -/
theorem mem_linesFrom_write (single : 0x0A ∉ line) (member : line ∈ entries) :
    line ∈ linesFrom [] (write entries) := by
  induction entries with
  | nil => cases member
  | cons entry entries ih =>
    have file : write (entry :: entries) = entry ++ 0x0A :: write entries := by
      simp [write]
    rw [file, linesFrom_append]
    rcases List.mem_cons.1 member with rfl | later
    · rw [linesFrom_single [] single]
      simp
    · exact List.mem_append_right _ (ih later)

/-- A line of a file that the history keeps is an entry when the file is loaded. -/
theorem IsKept.mem_load (kept : IsKept line) (member : line ∈ linesFrom [] file) : line ∈ load file := by
  refine List.mem_filter.2 ⟨List.mem_map.2 ⟨line, member, kept.whole⟩, ?_⟩
  have full : line.isEmpty = false := by simpa using kept.full
  rw [full, kept.noStamp]
  simp

/-- A line that no dash starts is added as it is. -/
theorem push_of_noDash (entries : List Bytes) (noDash : line.head? ≠ some 0x2D) :
    push entries line = ⟨entries ++ [line], 0⟩ := by
  unfold push
  split
  · exact absurd rfl noDash
  · exact absurd rfl noDash
  · rfl

end HistoryList

end Shell

/-! ## Its name -/

/-- The path of the history file of a directory and a user does not ask for help. -/
theorem History.text_file_ne_help (temporary : PurePath) (directory user : String) :
    (History.file temporary directory user).text ≠ "--help" := by
  intro same
  have ends : ∃ above, (History.file temporary directory user).text =
      above ++ (fileStart ++ Text.Digest.ofText (key directory user)) := by
    rw [file, PurePath.child, PurePath.text, if_neg (by simp)]
    by_cases top : temporary.parts = []
    · rw [top, List.nil_append, joinWith, String.intercalate_singleton]
      exact ⟨_, rfl⟩
    · rw [joinWith, String.intercalate_append_of_ne_nil top (by simp), String.intercalate_singleton]
      exact ⟨_, (String.append_assoc ..).symm⟩
  obtain ⟨above, same'⟩ := ends
  have length := congrArg String.length (same'.symm.trans same)
  have start : fileStart.length = 19 := by decide
  have help : "--help".length = 6 := by decide
  rw [String.length_append, String.length_append, start, help] at length
  omega

end LiveConsole
