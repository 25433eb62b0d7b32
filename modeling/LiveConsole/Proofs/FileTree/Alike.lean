import LiveConsole.FileTree.Real
import Mathlib.Data.List.Forall2

/-!
# Trees of the same shape

Where a path leads, what kind of entry it leads to and what its canonical form is depend on the names, the
directories and the links of a tree. What stands in files makes no difference, and no time does.
-/
namespace LiveConsole

/-- Whether two entries are of one kind, links with the same target. -/
inductive Entry.Alike : Entry → Entry → Prop where
  /-- Files, whatever is in them. -/
  | file {modified content executable modified' content' executable'} :
    Alike (.file modified content executable) (.file modified' content' executable')
  /-- Directories. -/
  | directory {modified modified'} : Alike (.directory modified) (.directory modified')
  /-- Links to the same target. -/
  | link {target} : Alike (.link target) (.link target)

/-- Entries that are alike are directories together. -/
theorem Entry.Alike.isDirectory {entry twin : Entry} (alike : entry.Alike twin) :
    entry.isDirectory = twin.isDirectory := by
  cases alike <;> rfl

namespace FileTree

/-- Whether two trees have the same names in the same order, with entries that are alike. -/
def Alike (tree other : FileTree) : Prop :=
  List.Forall₂ (fun place twin => place.1 = twin.1 ∧ place.2.Alike twin.2) tree.entries other.entries

namespace Alike

variable {tree other : FileTree} (alike : Alike tree other)
include alike

/-- At each location there are entries that are alike, or none. -/
theorem get? (location : Location) :
    Option.Rel Entry.Alike (tree.get? location) (other.get? location) := by
  unfold FileTree.get?
  unfold Alike at alike
  generalize tree.entries = places, other.entries = twins at alike ⊢
  induction alike with
  | nil => exact .none
  | @cons place twin places twins same _ ih =>
    obtain ⟨name, entry⟩ := place
    obtain ⟨twinName, twinEntry⟩ := twin
    obtain ⟨(rfl : name = twinName), same⟩ := same
    rw [List.lookup_cons, List.lookup_cons]
    cases location == name with
    | true => exact .some same
    | false => exact ih

/-- There are as many links. -/
theorem linkCount : tree.linkCount = other.linkCount := by
  unfold FileTree.linkCount
  unfold Alike at alike
  generalize tree.entries = places, other.entries = twins at alike ⊢
  induction alike with
  | nil => rfl
  | @cons place twin places twins same _ ih =>
    obtain ⟨name, entry⟩ := place
    obtain ⟨twinName, twinEntry⟩ := twin
    obtain ⟨-, same⟩ := same
    cases same with
    | file => simpa using ih
    | directory => simpa using ih
    | link => simpa using ih

/-- Walks are the same. -/
theorem walkWith (budget : Nat)
    (follow : Location → List String → Except WalkFault (Location × Nat)) (location : Location)
    (names : List String) :
    FileTree.walkWith tree budget follow location names =
      FileTree.walkWith other budget follow location names := by
  induction names generalizing location with
  | nil => rfl
  | cons name rest ih =>
    have here := alike.get? location
    have next := alike.get? (location ++ [name])
    rw [FileTree.walkWith, FileTree.walkWith]
    simp only [ih]
    revert here next
    generalize tree.get? location = found, other.get? location = twin,
      tree.get? (location ++ [name]) = inner, other.get? (location ++ [name]) = innerTwin
    intro here next
    cases here with
    | none => rfl
    | some here =>
      cases here with
      | file => rfl
      | link => rfl
      | directory =>
        cases next with
        | none => rfl
        | some next => cases next <;> rfl

/-- Walks are the same with any number of links to spare. -/
theorem walk (budget : Nat) : tree.walk budget = other.walk budget := by
  induction budget with
  | zero => exact funext fun _ => funext fun _ => alike.walkWith _ _ _ _
  | succ budget ih =>
    funext location names
    rw [FileTree.walk, FileTree.walk, ih]
    exact alike.walkWith _ _ _ _

/-- Paths lead to the same locations. -/
theorem locate (directory : Location) (path : String) :
    tree.locate directory path = other.locate directory path := by
  rw [FileTree.locate, FileTree.locate, alike.walk]

/-- Paths lead to entries that are alike, or fail in the same way. -/
theorem status (directory : Location) (path : String) :
    (∃ entry twin, tree.status directory path = .ok entry ∧ other.status directory path = .ok twin ∧
        entry.Alike twin) ∨
      ∃ fault, tree.status directory path = .error fault ∧ other.status directory path = .error fault := by
  rw [FileTree.status, FileTree.status, alike.locate]
  cases other.locate directory path with
  | error fault => exact .inr ⟨fault, rfl, rfl⟩
  | ok outcome =>
    obtain ⟨location, spared⟩ := outcome
    have found := alike.get? location
    simp only [bind, Except.bind]
    revert found
    generalize tree.get? location = entry, other.get? location = twin
    intro found
    cases found with
    | none => exact .inr ⟨.missing, rfl, rfl⟩
    | some same => exact .inl ⟨_, _, rfl, rfl, same⟩

/-- Paths lead somewhere or not in the same way. -/
theorem pathExists (directory : Location) (path : PurePath) :
    tree.pathExists directory path = other.pathExists directory path := by
  rw [FileTree.pathExists, FileTree.pathExists]
  rcases alike.status directory path.text with ⟨entry, twin, found, also, -⟩ | ⟨fault, found, also⟩
  · rw [found, also]
  · rw [found, also]

/-- Paths lead to directories or not in the same way. -/
theorem pathIsDirectory (directory : Location) (path : PurePath) :
    tree.pathIsDirectory directory path = other.pathIsDirectory directory path := by
  rw [FileTree.pathIsDirectory, FileTree.pathIsDirectory]
  rcases alike.status directory path.text with ⟨entry, twin, found, also, same⟩ | ⟨fault, found, also⟩
  · rw [found, also]
    exact congrArg Except.ok same.isDirectory
  · rw [found, also]

/-- The same links stand at the same locations. -/
theorem linkAt? : tree.linkAt? = other.linkAt? := by
  funext location
  rw [FileTree.linkAt?, FileTree.linkAt?]
  have found := alike.get? location
  revert found
  generalize tree.get? location = entry, other.get? location = twin
  intro found
  cases found with
  | none => rfl
  | some same => cases same <;> rfl

/-- Names are resolved in the same way. -/
theorem resolveWith (follow : Followed → Location → List String → Resolved) (followed : Followed)
    (location : Location) (names : List String) :
    FileTree.resolveWith tree follow followed location names =
      FileTree.resolveWith other follow followed location names := by
  induction names generalizing followed location with
  | nil => rfl
  | cons name rest ih =>
    rw [FileTree.resolveWith, FileTree.resolveWith, alike.linkAt?]
    simp only [ih]

/-- Names are resolved in the same way with any number of links inside links. -/
theorem resolveNames (levels : Nat) : tree.resolveNames levels = other.resolveNames levels := by
  induction levels with
  | zero => exact funext fun _ => funext fun _ => funext fun _ => alike.resolveWith _ _ _ _
  | succ levels ih =>
    funext followed location names
    rw [FileTree.resolveNames, FileTree.resolveNames, ih]
    exact alike.resolveWith _ _ _ _

/-- Paths have the same canonical form, or none for the same reason. -/
theorem resolve (directory : Location) (path : PurePath) :
    tree.resolve directory path = other.resolve directory path := by
  have canonical : tree.realLocation directory path.text = other.realLocation directory path.text := by
    rw [realLocation, realLocation, alike.linkCount, alike.resolveNames]
  rw [FileTree.resolve, FileTree.resolve, canonical]
  rcases alike.status directory (PurePath.ofLocation (other.realLocation directory path.text)).text with
    ⟨entry, twin, found, also, -⟩ | ⟨fault, found, also⟩
  · simp only [found, also]
  · simp only [found, also]

end Alike

end FileTree

end LiveConsole
