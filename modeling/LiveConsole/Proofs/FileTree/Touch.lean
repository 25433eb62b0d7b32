import LiveConsole.Proofs.FileTree.Survey

/-!
# Trees that differ in one file

A file that takes on another time and other content changes no walk, no listing and no path. So at a directory
and below it all times stay the same but the one of the file, on however many paths it is met.
-/
namespace LiveConsole.FileTree

/-- Whether a tree differs from another one in a single file, which has another time and perhaps other
content. -/
structure Touches (tree later : FileTree) (place : Location) (old new : Time) : Prop where
  /-- The file before. -/
  before : ∃ content executable, tree.get? place = some (.file old content executable)
  /-- The file afterwards. -/
  after : ∃ content executable, later.get? place = some (.file new content executable)
  /-- Everything else is the same. -/
  elsewhere : ∀ location, location ≠ place → later.get? location = tree.get? location
  /-- The names in all directories are the same. -/
  names : later.entries.map Prod.fst = tree.entries.map Prod.fst
  /-- What may be read is the same. -/
  unreadable : later.unreadable = tree.unreadable
  /-- Times that cannot be read are the same. -/
  untimed : later.untimed = tree.untimed

variable {tree later : FileTree} {directory location place : Location} {path inner : String}
variable {old new time : Time}

/-- An entry that is put in the place of another one is found there, and nothing else changes. -/
theorem get?_put {entry : Entry} (found : (tree.get? place).isSome = true) (location : Location) :
    (tree.put place entry).get? location =
      if location = place then some entry else tree.get? location := by
  have looked (places : List (Location × Entry)) (known : (places.lookup place).isSome = true) :
      (places.map fun other => if other.1 = place then (place, entry) else other).lookup place =
        some entry := by
    induction places with
    | nil => cases known
    | cons other places ih =>
      rw [List.map_cons]
      by_cases same : other.1 = place
      · rw [if_pos same, List.lookup_cons_self]
      · have different : (place == other.1) = false := by simpa using Ne.symm same
        rw [if_neg same, List.lookup_cons, different]
        exact ih (by rwa [List.lookup_cons, different] at known)
  have kept (places : List (Location × Entry)) (apart : location ≠ place) :
      (places.map fun other => if other.1 = place then (place, entry) else other).lookup location =
        places.lookup location := by
    induction places with
    | nil => rfl
    | cons other places ih =>
      rw [List.map_cons, List.lookup_cons, List.lookup_cons, ih]
      by_cases same : other.1 = place
      · rw [if_pos same, same]
        have different : (location == place) = false := by simpa using apart
        simp only [different]
      · rw [if_neg same]
  rw [put, if_pos found, get?]
  by_cases same : location = place
  · rw [if_pos same, same]
    exact looked tree.entries found
  · rw [if_neg same]
    exact kept tree.entries same

/-- Putting a file in the place of another one touches it. -/
theorem touches_put {oldContent newContent : List UInt8} {oldExecutable newExecutable : Bool}
    (found : tree.get? place = some (.file old oldContent oldExecutable)) :
    Touches tree (tree.put place (.file new newContent newExecutable)) place old new := by
  have known : (tree.get? place).isSome = true := by rw [found]; rfl
  have put : tree.put place (.file new newContent newExecutable) = { tree with
      entries := tree.entries.map fun other =>
        if other.1 = place then (place, .file new newContent newExecutable) else other } := if_pos known
  refine ⟨⟨_, _, found⟩, ⟨newContent, newExecutable, ?_⟩, fun location apart => ?_, ?_, ?_, ?_⟩
  · rw [get?_put known, if_pos rfl]
  · rw [get?_put known, if_neg apart]
  · rw [put, List.map_map]
    refine List.map_congr_left fun other _ => ?_
    by_cases same : other.1 = place
    · simp [same]
    · simp [same]
  · rw [put]
  · rw [put]

namespace Touches

/-- Where directories and links stand stays the same. -/
theorem walkWith_eq (touches : Touches tree later place old new) (budget : Nat)
    {follow : Location → List String → Except WalkFault (Location × Nat)} (location : Location)
    (names : List String) :
    walkWith later budget follow location names = walkWith tree budget follow location names := by
  obtain ⟨_, _, before⟩ := touches.before
  obtain ⟨_, _, after⟩ := touches.after
  induction names generalizing location with
  | nil => rfl
  | cons name names ih =>
    rw [walkWith, walkWith]
    by_cases own : location = place
    · rw [own, before, after]
    · rw [touches.elsewhere location own]
      by_cases next : location ++ [name] = place
      · rw [next, before, after]
        simp only [ih]
      · rw [touches.elsewhere _ next]
        simp only [ih]

/-- All paths lead where they did. -/
theorem locate_eq (touches : Touches tree later place old new) (directory : Location) (path : String) :
    later.locate directory path = tree.locate directory path := by
  have walks (budget : Nat) : later.walk budget = tree.walk budget := by
    induction budget with
    | zero => exact funext fun _ => funext fun _ => touches.walkWith_eq 0 _ _
    | succ budget ih =>
      funext location names
      rw [walk, walk, ih]
      exact touches.walkWith_eq (budget + 1) location names
  rw [locate, locate, walks]

/-- The names in each directory are the same. -/
theorem listing?_eq (touches : Touches tree later place old new) (directory : Location) (path : String) :
    later.listing? directory path = tree.listing? directory path := by
  have children (any : FileTree) (location : Location) :
      (any.children location).map Prod.fst = (any.entries.map Prod.fst).filterMap (nameIn location) := by
    rw [FileTree.children, List.map_filterMap, List.filterMap_map]
    refine List.filterMap_congr fun other _ => ?_
    simp [Function.comp_def]
  rw [listing?, listing?, touches.locate_eq]
  split
  · rfl
  · rename_i location spared _
    rw [children, children, touches.names, allowsReading, allowsReading, touches.unreadable]
    by_cases own : location = place
    · obtain ⟨_, _, before⟩ := touches.before
      obtain ⟨_, _, after⟩ := touches.after
      rw [own, before, after]
    · rw [touches.elsewhere location own]

/-- What leads somewhere else leads to the same entry. -/
theorem status_eq (touches : Touches tree later place old new)
    (apart : ∀ spared, tree.locate directory path ≠ .ok (place, spared)) :
    later.status directory path = tree.status directory path := by
  rw [status, status, touches.locate_eq]
  cases found : tree.locate directory path with
  | error fault => rfl
  | ok outcome =>
    obtain ⟨location, spared⟩ := outcome
    have other : location ≠ place := by
      rintro rfl
      exact apart spared found
    simp only [bind, Except.bind, touches.elsewhere location other]

/-- The first tree is the other one with the file as it was. -/
theorem symm (touches : Touches tree later place old new) : Touches later tree place new old where
  before := touches.after
  after := touches.before
  elsewhere location apart := (touches.elsewhere location apart).symm
  names := touches.names.symm
  unreadable := touches.unreadable.symm
  untimed := touches.untimed.symm

/-- What leads to the file leads to it as it was. -/
theorem time?_eq (touches : Touches tree later place old new) {spared : Nat}
    (leads : tree.locate directory path = .ok (place, spared)) :
    tree.time? directory path = some old := by
  obtain ⟨content, executable, before⟩ := touches.before
  rw [time?, status, leads]
  simp only [bind, Except.bind, before]
  rfl

/-- Paths go on as they did. -/
theorem goesOn (touches : Touches tree later place old new) {outer : String}
    (on : tree.GoesOn directory outer inner) : later.GoesOn directory outer inner := by
  obtain @⟨name, names, entry, listed, member, leads⟩ := on
  have listedAgain : later.listing? directory outer = some names := by
    rw [touches.listing?_eq, listed]
  by_cases own : ∃ spared, tree.locate directory (pathIn outer name) = .ok (place, spared)
  · obtain ⟨spared, found⟩ := own
    obtain ⟨entry, leadsAgain, _⟩ := status_of_time?
      (touches.symm.time?_eq ((touches.locate_eq directory _).trans found))
    exact .name listedAgain member leadsAgain
  · have apart : ∀ spared, tree.locate directory (pathIn outer name) ≠ .ok (place, spared) :=
      fun spared found => own ⟨spared, found⟩
    exact .name listedAgain member ((touches.status_eq apart).trans leads)

/-- The paths below a path are the same. -/
theorem below (touches : Touches tree later place old new) {outer : String}
    (below : tree.Below directory outer inner) : later.Below directory outer inner :=
  Relation.TransGen.mono (fun _ _ => touches.goesOn) _ _ below

/-- A tree with proper names still has proper names. -/
theorem hasProperNames (touches : Touches tree later place old new) (proper : tree.HasProperNames) :
    later.HasProperNames := by
  intro other member
  have named : other.1 ∈ tree.entries.map Prod.fst := by
    rw [← touches.names]
    exact List.mem_map_of_mem member
  obtain ⟨same, known, equal⟩ := List.mem_map.1 named
  rw [← equal]
  exact proper same known

/-- A path that leads to a directory does not lead to the file. -/
theorem apart_of_isDirectory (touches : Touches tree later place old new)
    (folder : tree.isDirectory directory path = true) (spared : Nat) :
    tree.locate directory path ≠ .ok (place, spared) := by
  intro found
  obtain ⟨content, executable, before⟩ := touches.before
  rw [isDirectory, status, found] at folder
  simp only [bind, Except.bind, before] at folder
  cases folder

end Touches

/-! ## Times beside that of a file -/

/-- The time at a path and the times at all paths below it that do not lead to a place. -/
def otherTimes (tree : FileTree) (directory : Location) (path : String) (place : Location) : Set Time :=
  {time | time = tree.timeAt directory path ∨ ∃ inner, tree.Below directory path inner ∧
    (∀ spared, tree.locate directory inner ≠ .ok (place, spared)) ∧
    tree.time? directory inner = some time}

namespace Touches

/-- The times at a directory and below it are that of the file and the others. -/
theorem mem_timesAt_iff (touches : Touches tree later place old new) {spared : Nat}
    (reached : tree.Below directory path inner)
    (leads : tree.locate directory inner = .ok (place, spared)) :
    time ∈ tree.timesAt directory path ↔ time = old ∨ time ∈ tree.otherTimes directory path place := by
  constructor
  · rintro (own | ⟨other, below, found⟩)
    · exact .inr (.inl own)
    · by_cases same : ∃ spared, tree.locate directory other = .ok (place, spared)
      · obtain ⟨_, same⟩ := same
        cases (touches.time?_eq same).symm.trans found
        exact .inl rfl
      · exact .inr (.inr ⟨other, below, fun spared led => same ⟨spared, led⟩, found⟩)
  · rintro (rfl | own | ⟨other, below, _, found⟩)
    · exact .inr ⟨inner, reached, touches.time?_eq leads⟩
    · exact .inl own
    · exact .inr ⟨other, below, found⟩

/-- The other times at a directory and below it stay among them. -/
theorem otherTimes_subset (touches : Touches tree later place old new)
    (folder : tree.isDirectory directory path = true) :
    tree.otherTimes directory path place ⊆ later.otherTimes directory path place := by
  rintro time (rfl | ⟨other, below, apart, found⟩)
  · left
    have stays := touches.apart_of_isDirectory folder
    rw [timeAt, timeAt, touches.locate_eq, touches.untimed]
    split
    · rfl
    · rename_i location spared led
      have different : location ≠ place := by
        rintro rfl
        exact stays spared led
      rw [touches.elsewhere location different]
  · refine .inr ⟨other, touches.below below, fun spared => ?_, ?_⟩
    · rw [touches.locate_eq]
      exact apart spared
    · rw [time?, touches.status_eq apart]
      exact found

/-- The directory is still a directory. -/
theorem isDirectory_eq (touches : Touches tree later place old new)
    (folder : tree.isDirectory directory path = true) : later.isDirectory directory path = true := by
  rw [isDirectory, touches.status_eq (touches.apart_of_isDirectory folder)]
  exact folder

/-- The other times at a directory and below it are the same. -/
theorem otherTimes_eq (touches : Touches tree later place old new)
    (folder : tree.isDirectory directory path = true) :
    later.otherTimes directory path place = tree.otherTimes directory path place :=
  Set.Subset.antisymm (touches.symm.otherTimes_subset (touches.isDirectory_eq folder))
    (touches.otherTimes_subset folder)

end Touches

end LiveConsole.FileTree
