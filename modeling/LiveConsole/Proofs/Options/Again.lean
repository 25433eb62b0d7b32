import LiveConsole.Proofs.FileTree.Real
import LiveConsole.Proofs.Options.Build

/-!
# Checks on what checks gave

What a check of an option gives can be given again. The name of an action is trimmed already. A canonical
path starts at the root and leads to the same place from every working directory, so it passes its check
again, unless its text has become too long to be looked up. In all of this the console stands in a
directory that is really there.
-/
namespace LiveConsole

/-- The same place, seen from another working directory. -/
def Place.movedTo (place : Place) (directory : Location) : Place := { place with directory }

namespace Options

open FileTree (Stands CanBeLookedUp)

variable {place : Place} {path found : PurePath} {location : Location}

/-- The name of an action that passed its check passes it again, as it is. -/
theorem checkHook_again {name found : String} (passed : checkHook name = .ok found) :
    found ≠ "" ∧ checkHook found = .ok found := by
  obtain ⟨rfl, filled⟩ := checkHook_ok_iff.1 passed
  have same : Text.trimmed (Text.trimmed name) = Text.trimmed name := by
    rw [Text.trimmed, Text.trimmed, String.toList_ofList, Text.trim_trim]
  exact ⟨filled, checkHook_ok_iff.2 ⟨same.symm, filled⟩⟩

/-! ## Paths that pass -/

/-- A path that exists leads somewhere. -/
theorem locate_of_pathExists {tree : FileTree} {directory : Location}
    (there : tree.pathExists directory path = .ok true) :
    ∃ entry, tree.status directory path.text = .ok entry := by
  unfold FileTree.pathExists at there
  split at there
  · rename_i entry found
    exact ⟨entry, found⟩
  · cases there
  · cases there

/-- A path that is a directory leads to one. -/
theorem status_of_pathIsDirectory {tree : FileTree} {directory : Location}
    (there : tree.pathIsDirectory directory path = .ok true) :
    ∃ entry, tree.status directory path.text = .ok entry ∧ entry.isDirectory = true := by
  unfold FileTree.pathIsDirectory at there
  split at there
  · rename_i entry found
    simp only [Except.ok.injEq] at there
    exact ⟨entry, found, there⟩
  · cases there
  · cases there

/-- A path to watch that passes its check leads to something that is really there. -/
theorem stands_of_checkWatch (standing : place.tree.Stands place.directory)
    (passed : checkWatch place path = .ok found) :
    ∃ location, found = .ofLocation location ∧ place.tree.Stands location := by
  obtain ⟨-, expanded, -, asked, resolved⟩ := Watch.resolve_ok_iff.1 passed
  obtain ⟨entry, known⟩ := locate_of_pathExists asked
  obtain ⟨reached, spared, located, _⟩ := FileTree.locate_of_status known
  exact ⟨reached, FileTree.resolve_of_locate standing located resolved,
    FileTree.stands_of_locate standing located⟩

/-- A path to run from that passes its check leads to a directory that is really there. -/
theorem stands_of_checkPath (standing : place.tree.Stands place.directory)
    (passed : checkPath place path = .ok found) :
    ∃ location, found = .ofLocation location ∧ place.tree.Stands location ∧
      place.tree.HasDirectory location := by
  unfold checkPath at passed
  simp only [bind_ok_iff] at passed
  obtain ⟨expanded, _, there, asked, rest⟩ := passed
  cases there with
  | false => cases rest
  | true =>
    simp only [if_true] at rest
    obtain ⟨entry, known, folder⟩ := status_of_pathIsDirectory asked
    obtain ⟨reached, spared, located, entryFound⟩ := FileTree.locate_of_status known
    refine ⟨reached, FileTree.resolve_of_locate standing located rest,
      FileTree.stands_of_locate standing located, ?_⟩
    cases entry with
    | directory modified => exact ⟨modified, entryFound⟩
    | _ => cases folder

/-! ## Canonical paths given again -/

/-- The text of a location that cannot be looked up leads nowhere. -/
theorem status_of_not_fits (tree : FileTree) (directory : Location)
    (fails : ¬CanBeLookedUp location.text) :
    tree.status directory location.text = .error .nullCharacter ∨
      tree.status directory location.text = .error .tooLong := by
  by_cases null : '\x00' ∈ location.text.toList
  · left
    have located : tree.locate directory location.text = .error .nullCharacter := by
      rw [FileTree.locate, if_pos (by simpa using null)]
    rw [FileTree.status, located]
    rfl
  · right
    have long : FileTree.maxPathBytes < location.text.utf8ByteSize := by
      apply Nat.lt_of_not_le
      exact fun short => fails ⟨null, short⟩
    have located : tree.locate directory location.text = .error .tooLong := by
      rw [FileTree.locate, if_neg (by simpa using null), if_neg (PurePath.text_ne_empty location),
        if_pos long]
    rw [FileTree.status, located]
    rfl

/-- A canonical path to watch is looked up as it is. -/
theorem checkWatch_ofLocation (proper : location.IsProper) (directory : Location) :
    checkWatch (place.movedTo directory) (.ofLocation location) =
      (place.tree.pathExists directory (.ofLocation location)).bind fun there =>
        if there then place.tree.resolve directory (.ofLocation location)
        else .error (Watch.missingPath location.text) := by
  have present : Text.allBlank location.text = false := by
    rw [Text.allBlank, Location.text, String.toList_append]
    rfl
  rw [checkWatch, Watch.resolve, PurePath.text_ofLocation, present,
    PurePath.ofText_text proper, PurePath.expandUser_ofLocation]
  rfl

/-- A canonical path to run from is looked up as it is. -/
theorem checkPath_ofLocation (location directory : Location) :
    checkPath (place.movedTo directory) (.ofLocation location) =
      (place.tree.pathIsDirectory directory (.ofLocation location)).bind fun there =>
        if there then place.tree.resolve directory (.ofLocation location)
        else .error (.configuration ("The path '" ++ location.text ++ "' is not a directory.")
          (some "path")) := by
  rw [checkPath, PurePath.expandUser_ofLocation, PurePath.text_ofLocation]
  rfl

/-- A canonical path to watch whose text can be looked up is resolved to itself, wherever that is done. -/
theorem checkWatch_again (there : place.tree.Stands location) (fits : CanBeLookedUp location.text)
    (directory : Location) :
    checkWatch (place.movedTo directory) (.ofLocation location) = .ok (.ofLocation location) := by
  obtain ⟨entry, _, known⟩ := there.status fits directory
  rw [checkWatch_ofLocation there.isProper]
  simp only [FileTree.pathExists, PurePath.text_ofLocation, known, Except.bind, if_true,
    there.resolve fits directory]

/-- A canonical directory to run from whose text can be looked up is resolved to itself, wherever that is
done. -/
theorem checkPath_again (there : place.tree.Stands location)
    (folder : place.tree.HasDirectory location) (fits : CanBeLookedUp location.text)
    (directory : Location) :
    checkPath (place.movedTo directory) (.ofLocation location) = .ok (.ofLocation location) := by
  obtain ⟨entry, found, known⟩ := there.status fits directory
  obtain ⟨modified, same⟩ := folder
  rw [found] at same
  cases same
  rw [checkPath_ofLocation]
  simp only [FileTree.pathIsDirectory, PurePath.text_ofLocation, known, Entry.isDirectory,
    Except.bind, if_true, there.resolve fits directory]

/-- A canonical path to watch passes its check again, wherever that is made, if its text can be looked
up. -/
theorem checkWatch_again_iff (there : place.tree.Stands location) (directory : Location) :
    (∃ found, checkWatch (place.movedTo directory) (.ofLocation location) = .ok found) ↔
      CanBeLookedUp location.text := by
  constructor
  · rintro ⟨found, passed⟩
    rw [checkWatch_ofLocation there.isProper] at passed
    apply Classical.byContradiction
    intro fails
    rcases status_of_not_fits place.tree directory fails with null | long
    · simp [FileTree.pathExists, PurePath.text_ofLocation, null, Except.bind] at passed
    · simp [FileTree.pathExists, PurePath.text_ofLocation, long, Except.bind] at passed
  · exact fun fits => ⟨.ofLocation location, checkWatch_again there fits directory⟩

/-- A canonical path to run from passes its check again, wherever that is made, if its text can be looked
up. -/
theorem checkPath_again_iff (there : place.tree.Stands location)
    (folder : place.tree.HasDirectory location) (directory : Location) :
    (∃ found, checkPath (place.movedTo directory) (.ofLocation location) = .ok found) ↔
      CanBeLookedUp location.text := by
  constructor
  · rintro ⟨found, passed⟩
    rw [checkPath_ofLocation] at passed
    apply Classical.byContradiction
    intro fails
    rcases status_of_not_fits place.tree directory fails with null | long
    · simp [FileTree.pathIsDirectory, PurePath.text_ofLocation, null, Except.bind] at passed
    · simp [FileTree.pathIsDirectory, PurePath.text_ofLocation, long, Except.bind] at passed
  · exact fun fits => ⟨.ofLocation location, checkPath_again there folder fits directory⟩

end Options

end LiveConsole
