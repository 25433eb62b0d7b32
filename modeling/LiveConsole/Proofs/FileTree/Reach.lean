import Mathlib.Logic.Relation
import LiveConsole.FileTree.Snapshot
import LiveConsole.Proofs.FileTree.Walk

/-!
# Paths below a directory

A path goes on from the path of a directory that can be listed by a name in that directory. The walk of the
longer path is that of the shorter one and one more name: it either leads one place further down, through no
more links, or through a link. So paths cannot go on for ever, even where a link leads back to a directory
that it stands in: what counts is not the place, but the links that are left and the depth of the tree.
-/
namespace LiveConsole.FileTree

open Text

variable {tree : FileTree} {directory location reached : Location} {path outer inner name : String}
variable {names : List String} {budget spared left : Nat}

/-! ## Walks one after another -/

/-- Walking some names and then others is walking all of them, if it is so behind each link. -/
theorem walkWith_append {follow : Location → List String → Except WalkFault (Location × Nat)}
    (walks : tree.walk budget = walkWith tree budget follow) {rest : List String}
    (follows : ∀ location names, follow location (names ++ rest) =
      follow location names >>= fun outcome => tree.walk outcome.2 outcome.1 rest)
    (location : Location) (names : List String) :
    walkWith tree budget follow location (names ++ rest) =
      walkWith tree budget follow location names >>= fun outcome =>
        tree.walk outcome.2 outcome.1 rest := by
  induction names generalizing location with
  | nil => exact (congrFun (congrFun walks location) rest).symm
  | cons name names ih =>
    rw [List.cons_append, walkWith, walkWith]
    split
    · split
      · exact ih location
      · split
        · exact ih location.dropLast
        · split
          · rfl
          · split
            · rfl
            · split
              · rfl
              · rw [← List.append_assoc]
                exact follows _ _
            · exact ih _
    · rfl

/-- Walking some names and then others is walking all of them. -/
theorem walk_append (tree : FileTree) (budget : Nat) (location : Location) (names rest : List String) :
    tree.walk budget location (names ++ rest) =
      tree.walk budget location names >>= fun outcome => tree.walk outcome.2 outcome.1 rest := by
  induction budget generalizing location names with
  | zero => exact walkWith_append rfl (fun _ _ => rfl) location names
  | succ budget ih => exact walkWith_append rfl ih location names

/-! ## Paths that go on by a name -/

/-- A path that ends in a slash is one with a slash behind it. -/
theorem exists_of_getLast?_slash (slash : outer.toList.getLast? = some '/') :
    ∃ before, outer = before ++ "/" := by
  obtain ⟨before, same⟩ := List.getLast?_eq_some_iff.1 slash
  refine ⟨String.ofList before, ?_⟩
  rw [← String.toList_inj, String.toList_append, same, String.toList_ofList]
  rfl

/-- A path that goes on by a name starts where it starts. -/
theorem startOf_pathIn (present : outer ≠ "") (directory : Location) (name : String) :
    startOf directory (pathIn outer name) = startOf directory outer := by
  have head (rest : String) : (outer ++ rest).toList.head? = outer.toList.head? := by
    cases chars : outer.toList with
    | nil => exact absurd (String.toList_eq_nil_iff.1 chars) present
    | cons c chars => rw [String.toList_append, chars]; rfl
  unfold startOf pathIn
  split
  · rw [head]
  · rw [String.append_assoc, head]

/-- Where the path of a directory leads, a path that goes on from it by a name goes on by that name. -/
theorem walk_pathIn (found : tree.locate directory outer = .ok (location, spared))
    (noSlash : '/' ∉ name.toList) :
    tree.walk maxLinks (startOf directory (pathIn outer name)) (steps (pathIn outer name)) =
      tree.walk spared location [name] := by
  obtain ⟨_, present, walked⟩ := locate_ok found
  rw [startOf_pathIn present]
  by_cases slash : outer.toList.getLast? = some '/'
  · obtain ⟨before, rfl⟩ := exists_of_getLast?_slash slash
    have blank : steps (before ++ "/") = steps before ++ [""] := by
      rw [← String.append_empty (s := before ++ "/"), steps_append_slash]
      rfl
    -- The last name of such a path is an empty one, which is walked by staying.
    rw [blank, walk_append] at walked
    rw [pathIn, if_pos slash, steps_append_slash, steps_of_noSlash noSlash, walk_append]
    cases first : tree.walk maxLinks (startOf directory (before ++ "/")) (steps before) with
    | error fault =>
      rw [first] at walked
      cases walked
    | ok outcome =>
      obtain ⟨middle, more⟩ := outcome
      rw [first] at walked
      have stayed : tree.walk more middle [""] = .ok (location, spared) := walked
      obtain ⟨stands, _⟩ := walk_cons_ok stayed
      rw [walk_skip stands, walk_nil] at stayed
      cases stayed
      rfl
  · rw [pathIn, if_neg slash, steps_append_slash, steps_of_noSlash noSlash, walk_append, walked]
    rfl

/-! ## Snapshots of paths from the root -/

/-- A path from the root still starts there when it goes on by a name. -/
theorem IsRooted.pathIn (rooted : IsRooted path) (name : String) :
    IsRooted (FileTree.pathIn path name) := by
  obtain ⟨rest, chars⟩ := List.head?_eq_some_iff.1 rooted
  unfold FileTree.pathIn IsRooted
  split
  · rw [String.toList_append, chars]
    rfl
  · rw [String.append_assoc, String.toList_append, chars]
    rfl

/-- What is met below a path from the root is the same from anywhere. -/
theorem IsRooted.sightsBelow (rooted : IsRooted path) (first second : Location) (names : Nat) :
    tree.sightsBelow first names path = tree.sightsBelow second names path := by
  induction names generalizing path with
  | zero => rfl
  | succ names ih =>
    have listing : tree.listing? first path = tree.listing? second path := by
      rw [listing?, listing?, rooted.locate first second]
    rw [FileTree.sightsBelow, FileTree.sightsBelow, listing]
    simp only [(rooted.pathIn _).status first second, ih (rooted.pathIn _)]

/-- The snapshot of a path from the root is the same from anywhere. -/
theorem IsRooted.snapshot (rooted : IsRooted path) (first second : Location) :
    tree.snapshot first path = tree.snapshot second path := by
  have own : tree.timeAt first path = tree.timeAt second path := by
    rw [timeAt, timeAt, rooted.locate first second]
  rw [FileTree.snapshot, FileTree.snapshot, sights, sights, isFile, isFile, isDirectory, isDirectory,
    rooted.status first second, rooted.sightsBelow first second, own]

/-! ## The names in a directory -/

/-- Whether all names in a tree are proper ones. -/
def HasProperNames (tree : FileTree) : Prop := ∀ place ∈ tree.entries, place.1.IsProper

/-- Whether all names in a tree are proper can be told. -/
instance (tree : FileTree) : Decidable tree.HasProperNames :=
  inferInstanceAs (Decidable (∀ place ∈ tree.entries, ∀ name ∈ place.1, IsProper name))

/-- A name in a directory is the last one of a location. -/
theorem eq_of_nameIn {location : Location} (inside : nameIn directory location = some name) :
    location = directory ++ [name] := by
  fun_induction nameIn directory location with
  | case1 other => cases inside; rfl
  | case2 directory other location ih => rw [ih inside]; rfl
  | case3 => cases inside
  | case4 => cases inside

/-- A directory that can be listed is found there. -/
theorem listing?_eq_some (listed : tree.listing? directory path = some names) :
    ∃ location spared, tree.locate directory path = .ok (location, spared) ∧
      tree.HasDirectory location ∧ names = (tree.children location).map Prod.fst := by
  unfold listing? at listed
  split at listed
  · cases listed
  · rename_i location spared found
    split at listed
    · rename_i modified stands
      split at listed
      · cases listed
        exact ⟨location, spared, found, ⟨modified, stands⟩, rfl⟩
      · cases listed
    · cases listed

/-- The names in a directory of a tree with proper names are proper. -/
theorem HasProperNames.child (proper : tree.HasProperNames)
    (member : name ∈ (tree.children location).map Prod.fst) : IsProper name := by
  obtain ⟨child, inside, rfl⟩ := List.mem_map.1 member
  obtain ⟨place, known, named⟩ := List.mem_filterMap.1 inside
  obtain ⟨name, found, rfl⟩ := Option.map_eq_some_iff.1 named
  apply proper place known
  rw [eq_of_nameIn found]
  simp

/-- No entry of a tree lies deeper than the tree is. -/
theorem length_le_depth {entry : Entry} (found : tree.get? location = some entry) :
    location.length ≤ tree.depth := by
  have all (places : List (Location × Entry)) (least : Nat) :
      least ≤ places.foldl (fun depth place => max depth place.1.length) least ∧
        ∀ place ∈ places,
          place.1.length ≤ places.foldl (fun depth place => max depth place.1.length) least := by
    induction places generalizing least with
    | nil => exact ⟨Nat.le_refl least, fun _ none => by cases none⟩
    | cons place places ih =>
      obtain ⟨first, rest⟩ := ih (max least place.1.length)
      refine ⟨Nat.le_trans (Nat.le_max_left _ _) first, fun other member => ?_⟩
      rcases List.mem_cons.1 member with rfl | behind
      · exact Nat.le_trans (Nat.le_max_right _ _) first
      · exact rest other behind
  rw [get?, List.lookup_eq_some_iff] at found
  obtain ⟨before, after, same, _⟩ := found
  refine (all tree.entries 0).2 (location, entry) ?_
  rw [same]
  simp

/-! ## Paths that cannot go on for ever -/

/-- Whether a path goes on from the path of a directory that can be listed by a name in that directory, and
leads somewhere. -/
inductive GoesOn (tree : FileTree) (directory : Location) : String → String → Prop
  /-- A path goes on by a name. -/
  | name {outer name : String} {names : List String} {entry : Entry}
      (listed : tree.listing? directory outer = some names) (member : name ∈ names)
      (leads : tree.status directory (pathIn outer name) = .ok entry) :
      GoesOn tree directory outer (pathIn outer name)

/-- Whether a path goes on from another one by any number of names, but at least by one. -/
def Below (tree : FileTree) (directory : Location) : String → String → Prop :=
  Relation.TransGen (tree.GoesOn directory)

/-- No path goes on from what a path leads to by more names than this. -/
def furtherNames (tree : FileTree) (location : Location) (spared : Nat) : Nat :=
  spared * (tree.depth + 1) + (tree.depth - location.length)

/-- No path goes on from a path by more names than this. -/
def namesBelow (tree : FileTree) (directory : Location) (path : String) : Nat :=
  match tree.locate directory path with
  | .ok (location, spared) => tree.furtherNames location spared
  | .error _ => 0

/-- A proper name leads one place down or through a link. -/
theorem walk_proper (proper : IsProper name)
    (walked : tree.walk spared location [name] = .ok (reached, left)) :
    (reached = location ++ [name] ∧ left = spared ∧ ∃ entry, tree.get? reached = some entry) ∨
      left < spared := by
  obtain ⟨_, ways⟩ := walk_cons_ok walked
  rcases ways with ⟨idle, _⟩ | ⟨above, _⟩ | ⟨_, _, entry, on⟩ | ⟨_, target, fewer, _, rfl, on⟩
  · exact absurd idle proper.notIdle
  · exact absurd above proper.notPoints
  · rw [walk_nil] at on
    cases on
    exact .inl ⟨rfl, rfl, entry⟩
  · obtain ⟨links, total, _⟩ := leads_of_walk on
    exact .inr (by omega)

/-- A path that goes on by a name can go on by fewer names. -/
theorem namesBelow_lt (proper : tree.HasProperNames) (on : tree.GoesOn directory outer inner) :
    tree.namesBelow directory inner < tree.namesBelow directory outer := by
  obtain @⟨name, names, entry, listed, member, leads⟩ := on
  obtain ⟨location, spared, found, stands, rfl⟩ := listing?_eq_some listed
  obtain ⟨reached, left, located, _⟩ := locate_of_status leads
  have own : IsProper name := proper.child member
  have walked : tree.walk spared location [name] = .ok (reached, left) := by
    rw [← walk_pathIn found own.noSlash]
    exact (locate_ok located).2.2
  rw [namesBelow, namesBelow, located, found]
  simp only [furtherNames]
  rcases walk_proper own walked with ⟨rfl, rfl, entry, there⟩ | fewer
  · have deep := length_le_depth there
    rw [List.length_append, List.length_singleton] at deep ⊢
    omega
  · have product : left * (tree.depth + 1) + (tree.depth + 1) ≤ spared * (tree.depth + 1) := by
      rw [← Nat.succ_mul]
      exact Nat.mul_le_mul_right _ fewer
    omega

/-- Paths cannot go on for ever. -/
theorem goesOn_wellFounded (proper : tree.HasProperNames) (directory : Location) :
    WellFounded fun inner outer => tree.GoesOn directory outer inner :=
  Subrelation.wf (fun on => namesBelow_lt proper on) (measure (tree.namesBelow directory)).wf

/-- Every path can go on by fewer names than links and depth allow for. -/
theorem namesBelow_lt_mostNames (tree : FileTree) (directory : Location) (path : String) :
    tree.namesBelow directory path < tree.mostNames := by
  rw [mostNames, Nat.succ_mul]
  unfold namesBelow
  split
  · rename_i location spared found
    obtain ⟨links, total, _⟩ := leads_of_walk (locate_ok found).2.2
    have product : spared * (tree.depth + 1) ≤ maxLinks * (tree.depth + 1) :=
      Nat.mul_le_mul_right _ (by omega)
    rw [furtherNames]
    omega
  · omega

end LiveConsole.FileTree
