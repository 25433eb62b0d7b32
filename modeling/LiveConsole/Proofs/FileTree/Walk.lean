import LiveConsole.FileTree.Real
import LiveConsole.Proofs.FileTree.Path

/-!
# What walks do

A walk goes on name by name, and a link on the way is walked before the names behind it. How far a walk
comes does not depend on how many links it may follow beyond those that it does follow; so walks are
told here by the links they follow. From a location that is really there, a walk leads to one.
-/
namespace LiveConsole.FileTree

/-- Whether a directory stands at a location. -/
def HasDirectory (tree : FileTree) (location : Location) : Prop :=
  ∃ modified, tree.get? location = some (.directory modified)

/-- Whether a name leads into a directory: it is not one to be skipped, does not lead out, and is not
too long. -/
def LeadsIn (name : String) : Prop :=
  ¬(name = "" ∨ name = ".") ∧ name ≠ ".." ∧ name.utf8ByteSize ≤ maxNameBytes

/-- Whether names lead from a location to another one through so many links. -/
inductive Leads (tree : FileTree) : Location → List String → Location → Nat → Prop
  /-- No names lead to where they start. -/
  | here {location : Location} : Leads tree location [] location 0
  /-- A name to be skipped leads nowhere else. -/
  | skip {location reached : Location} {name : String} {names : List String} {links : Nat}
      (stands : tree.HasDirectory location) (idle : name = "" ∨ name = ".")
      (rest : Leads tree location names reached links) :
      Leads tree location (name :: names) reached links
  /-- Two points lead to the directory above. -/
  | up {location reached : Location} {names : List String} {links : Nat}
      (stands : tree.HasDirectory location)
      (rest : Leads tree location.dropLast names reached links) :
      Leads tree location (".." :: names) reached links
  /-- The name of a file or directory leads to it. -/
  | down {location reached : Location} {name : String} {names : List String} {links : Nat}
      {entry : Entry} (stands : tree.HasDirectory location) (inward : LeadsIn name)
      (found : tree.get? (location ++ [name]) = some entry)
      (solid : tree.linkAt? (location ++ [name]) = none)
      (rest : Leads tree (location ++ [name]) names reached links) :
      Leads tree location (name :: names) reached links
  /-- The name of a link leads to where its target leads. -/
  | link {location middle reached : Location} {name target : String} {names : List String}
      {inner links : Nat} (stands : tree.HasDirectory location) (inward : LeadsIn name)
      (found : tree.linkAt? (location ++ [name]) = some target)
      (followed : Leads tree (startOf location target) (steps target) middle inner)
      (rest : Leads tree middle names reached links) :
      Leads tree location (name :: names) reached (inner + links + 1)

/-- Whether something that is no link stands at a location, in directories all the way. -/
inductive Stands (tree : FileTree) : Location → Prop
  /-- The root stands there when it is a directory. -/
  | root (top : tree.HasDirectory []) : Stands tree []
  /-- What stands in a directory stands there. -/
  | inside {location : Location} {name : String} {entry : Entry} (outer : Stands tree location)
      (stands : tree.HasDirectory location) (proper : IsProper name)
      (short : name.utf8ByteSize ≤ maxNameBytes)
      (found : tree.get? (location ++ [name]) = some entry)
      (solid : tree.linkAt? (location ++ [name]) = none) : Stands tree (location ++ [name])

variable {tree : FileTree} {location reached : Location} {name : String} {names : List String}
variable {budget spared : Nat}

/-! ## Links -/

/-- Where a link stands the tree has a link as its entry. -/
theorem get?_of_linkAt? {target : String} (found : tree.linkAt? location = some target) :
    tree.get? location = some (.link target) := by
  unfold linkAt? at found
  split at found
  · rename_i same
    cases found
    exact same
  · cases found

/-- Where a directory stands there is no link. -/
theorem HasDirectory.solid (stands : tree.HasDirectory location) : tree.linkAt? location = none := by
  obtain ⟨modified, found⟩ := stands
  rw [linkAt?, found]

/-! ## Single names -/

/-- A walk without names is over. -/
theorem walk_nil : tree.walk budget location [] = .ok (location, budget) := by
  cases budget <;> rfl

/-- The name of a file or directory is walked by going there. -/
theorem walk_down {entry : Entry} (stands : tree.HasDirectory location) (inward : LeadsIn name)
    (found : tree.get? (location ++ [name]) = some entry)
    (solid : tree.linkAt? (location ++ [name]) = none) :
    tree.walk budget location (name :: names) = tree.walk budget (location ++ [name]) names := by
  obtain ⟨modified, folder⟩ := stands
  obtain ⟨busy, deeper, short⟩ := inward
  have fits : ¬maxNameBytes < name.utf8ByteSize := by omega
  cases budget <;> cases entry with
  | link target =>
    rw [linkAt?, found] at solid
    cases solid
  | _ => simp only [walk, walkWith, folder, if_neg busy, if_neg deeper, if_neg fits, found]

/-- The first name of a walk that leads somewhere is skipped, leads up, leads down, or is that of a
link, which is walked first. -/
theorem walk_cons_ok {outcome : Location × Nat}
    (walked : tree.walk budget location (name :: names) = .ok outcome) :
    tree.HasDirectory location ∧
      (((name = "" ∨ name = ".") ∧ tree.walk budget location names = .ok outcome) ∨
        (name = ".." ∧ tree.walk budget location.dropLast names = .ok outcome) ∨
        (LeadsIn name ∧ tree.linkAt? (location ++ [name]) = none ∧
          (∃ entry, tree.get? (location ++ [name]) = some entry) ∧
          tree.walk budget (location ++ [name]) names = .ok outcome) ∨
        (LeadsIn name ∧ ∃ target fewer, tree.linkAt? (location ++ [name]) = some target ∧
          budget = fewer + 1 ∧
          tree.walk fewer (startOf location target) (steps target ++ names) = .ok outcome)) := by
  have unfolded : ∃ follow, tree.walk budget = walkWith tree budget follow ∧
      ∀ start more, follow start more = .ok outcome →
        ∃ fewer, budget = fewer + 1 ∧ tree.walk fewer start more = .ok outcome := by
    cases budget with
    | zero => exact ⟨_, rfl, fun _ _ none => by cases none⟩
    | succ fewer => exact ⟨_, rfl, fun _ _ found => ⟨fewer, rfl, found⟩⟩
  obtain ⟨follow, same, further⟩ := unfolded
  rw [same] at walked ⊢
  unfold walkWith at walked
  split at walked
  · rename_i modified folder
    refine ⟨⟨modified, folder⟩, ?_⟩
    split at walked
    · rename_i idle
      exact .inl ⟨idle, walked⟩
    · rename_i busy
      split at walked
      · rename_i above
        exact .inr (.inl ⟨above, walked⟩)
      · rename_i deeper
        split at walked
        · cases walked
        · rename_i fits
          have inward : LeadsIn name := ⟨busy, deeper, by omega⟩
          split at walked
          · cases walked
          · rename_i target found
            split at walked
            · cases walked
            · obtain ⟨fewer, more, rest⟩ := further _ _ walked
              exact .inr (.inr (.inr ⟨inward, target, fewer, by rw [linkAt?, found], more, rest⟩))
          · rename_i entry noLink found
            refine .inr (.inr (.inl ⟨inward, ?_, ⟨entry, found⟩, walked⟩))
            unfold linkAt?
            split
            · rename_i target linked
              rw [found] at linked
              cases linked
              exact absurd rfl (noLink target)
            · rfl
  · cases walked

/-! ## Walks and the links they follow -/

/-- A walk that leads somewhere comes past every place between its names, by a number of links that it is
charged for. -/
theorem leads_of_walk_append (budget : Nat) (names rest : List String)
    (walked : tree.walk budget location (names ++ rest) = .ok (reached, spared)) :
    ∃ middle links, links ≤ budget ∧ Leads tree location names middle links ∧
      tree.walk (budget - links) middle rest = .ok (reached, spared) := by
  -- Links are charged by the outer induction: the target of a link takes the place of a single name.
  induction budget using Nat.strongRecOn generalizing location names rest with
  | ind budget fewerLinks =>
    induction names generalizing location with
    | nil => exact ⟨location, 0, Nat.zero_le budget, .here, walked⟩
    | cons name names ih =>
      obtain ⟨stands, ways⟩ := walk_cons_ok walked
      rcases ways with ⟨idle, on⟩ | ⟨rfl, on⟩ | ⟨inward, solid, ⟨entry, found⟩, on⟩ |
        ⟨inward, target, fewer, found, rfl, on⟩
      · obtain ⟨middle, links, enough, leads, further⟩ := ih on
        exact ⟨middle, links, enough, .skip stands idle leads, further⟩
      · obtain ⟨middle, links, enough, leads, further⟩ := ih on
        exact ⟨middle, links, enough, .up stands leads, further⟩
      · obtain ⟨middle, links, enough, leads, further⟩ := ih on
        exact ⟨middle, links, enough, .down stands inward found solid leads, further⟩
      · obtain ⟨between, inner, enoughInner, leadsInner, onInner⟩ :=
          fewerLinks fewer (by omega) (steps target) (names ++ rest) on
        obtain ⟨middle, links, enough, leads, further⟩ :=
          fewerLinks (fewer - inner) (by omega) names rest onInner
        refine ⟨middle, inner + links + 1, by omega,
          .link stands inward found leadsInner leads, ?_⟩
        rw [show fewer + 1 - (inner + links + 1) = fewer - inner - links by omega]
        exact further

/-- A walk that leads somewhere follows as many links as it does not spare. -/
theorem leads_of_walk (walked : tree.walk budget location names = .ok (reached, spared)) :
    ∃ links, links + spared = budget ∧ Leads tree location names reached links := by
  rw [← List.append_nil names] at walked
  obtain ⟨middle, links, enough, leads, ended⟩ := leads_of_walk_append budget names [] walked
  rw [walk_nil] at ended
  cases ended
  exact ⟨links, by omega, leads⟩

/-- Names lead to one place only, through one number of links. -/
theorem Leads.unique {other : Location} {links others : Nat}
    (one : Leads tree location names reached links)
    (two : Leads tree location names other others) : reached = other ∧ links = others := by
  induction one generalizing other others with
  | here =>
    cases two
    exact ⟨rfl, rfl⟩
  | skip stands idle rest ih =>
    cases two with
    | skip _ _ more => exact ih more
    | up _ _ => simp at idle
    | down _ inward _ _ _ => exact absurd idle inward.1
    | link _ inward _ _ _ => exact absurd idle inward.1
  | up stands rest ih =>
    cases two with
    | skip _ idle _ => simp at idle
    | up _ more => exact ih more
    | down _ inward _ _ _ => exact absurd rfl inward.2.1
    | link _ inward _ _ _ => exact absurd rfl inward.2.1
  | down stands inward found solid rest ih =>
    cases two with
    | skip _ idle _ => exact absurd idle inward.1
    | up _ _ => exact absurd rfl inward.2.1
    | down _ _ _ _ more => exact ih more
    | link _ _ linked _ _ =>
      rw [solid] at linked
      cases linked
  | link stands inward found followed rest ihFollowed ih =>
    cases two with
    | skip _ idle _ => exact absurd idle inward.1
    | up _ _ => exact absurd rfl inward.2.1
    | down _ _ _ solid _ =>
      rw [found] at solid
      cases solid
    | link _ _ linked further more =>
      rw [found] at linked
      cases linked
      obtain ⟨rfl, rfl⟩ := ihFollowed further
      obtain ⟨rfl, rfl⟩ := ih more
      exact ⟨rfl, rfl⟩

/-! ## Locations that are really there -/

/-- Where something stands, the root is a directory. -/
theorem Stands.top (there : Stands tree location) : tree.HasDirectory [] := by
  induction there with
  | root top => exact top
  | inside _ _ _ _ _ _ ih => exact ih

/-- Where something stands, its directory stands. -/
theorem Stands.dropLast (there : Stands tree location) : Stands tree location.dropLast := by
  cases there with
  | root top => exact .root top
  | inside outer _ _ _ _ _ =>
    rw [List.dropLast_concat]
    exact outer

/-- Where something stands, it has proper names. -/
theorem Stands.isProper (there : Stands tree location) : location.IsProper := by
  induction there with
  | root _ =>
    intro name member
    cases member
  | inside _ _ proper _ _ _ ih =>
    intro name member
    rcases List.mem_append.1 member with outer | last
    · exact ih name outer
    · rw [List.mem_singleton] at last
      rw [last]
      exact proper

/-- Where something stands, the tree has an entry. -/
theorem Stands.found (there : Stands tree location) : ∃ entry, tree.get? location = some entry := by
  cases there with
  | root top =>
    obtain ⟨modified, found⟩ := top
    exact ⟨_, found⟩
  | inside _ _ _ _ found _ => exact ⟨_, found⟩

/-- Where something stands, a walk of names starts at the root or there. -/
theorem Stands.startOf (there : Stands tree location) (path : String) :
    Stands tree (FileTree.startOf location path) := by
  unfold FileTree.startOf
  split
  · exact .root there.top
  · exact there

/-- From where something stands, names without slashes lead to where something stands. -/
theorem Leads.stands {links : Nat} (leads : Leads tree location names reached links)
    (there : Stands tree location) (free : ∀ name ∈ names, '/' ∉ name.toList) :
    Stands tree reached := by
  induction leads with
  | here => exact there
  | skip _ _ _ ih => exact ih there fun name member => free name (List.mem_cons_of_mem _ member)
  | up _ _ ih =>
    exact ih there.dropLast fun name member => free name (List.mem_cons_of_mem _ member)
  | down folder inward found solid _ ih =>
    have proper := IsProper.mk (fun empty => inward.1 (.inl empty)) (fun point => inward.1 (.inr point))
      inward.2.1 (free _ List.mem_cons_self)
    exact ih (there.inside folder proper inward.2.2 found solid)
      fun name member => free name (List.mem_cons_of_mem _ member)
  | link _ _ _ _ _ ihFollowed ih =>
    exact ih (ihFollowed (there.startOf _) fun name member => noSlash_of_mem_steps member)
      fun name member => free name (List.mem_cons_of_mem _ member)

/-- An empty name is walked by staying. -/
theorem walk_skip (stands : tree.HasDirectory location) :
    tree.walk budget location ("" :: names) = tree.walk budget location names := by
  obtain ⟨modified, folder⟩ := stands
  cases budget <;> simp only [walk, walkWith, folder, true_or, if_true]

/-- A walk to where something stands goes straight there. -/
theorem Stands.walk_append (there : Stands tree location) (budget : Nat) (names : List String) :
    tree.walk budget [] (location ++ names) = tree.walk budget location names := by
  induction there generalizing names with
  | root _ => rfl
  | inside _ stands proper short found solid ih =>
    rw [List.append_assoc, ih, List.singleton_append,
      walk_down stands ⟨proper.notIdle, proper.notPoints, short⟩ found solid]

/-- Whether a path text can be looked up at all. -/
def CanBeLookedUp (path : String) : Prop :=
  '\x00' ∉ path.toList ∧ path.utf8ByteSize ≤ maxPathBytes

/-- A path that can be looked up and is not empty is walked from where it starts. -/
theorem locate_eq {path : String} (fits : CanBeLookedUp path) (present : path ≠ "")
    (directory : Location) :
    tree.locate directory path = tree.walk maxLinks (startOf directory path) (steps path) := by
  have short : ¬maxPathBytes < path.utf8ByteSize := by
    have bound := fits.2
    omega
  rw [locate, if_neg (by simpa using fits.1), if_neg present, if_neg short]

/-- A path from the root leads to the same place from anywhere. -/
theorem IsRooted.locate {path : String} (rooted : IsRooted path) (first second : Location) :
    tree.locate first path = tree.locate second path := by
  rw [FileTree.locate, FileTree.locate, rooted.startOf, rooted.startOf]

/-- What a path from the root leads to is the same from anywhere. -/
theorem IsRooted.status {path : String} (rooted : IsRooted path) (first second : Location) :
    tree.status first path = tree.status second path := by
  rw [FileTree.status, FileTree.status, rooted.locate first second]

/-- A path that leads somewhere can be looked up, and a walk leads there. -/
theorem locate_ok {path : String} {directory : Location}
    (found : tree.locate directory path = .ok (reached, spared)) :
    CanBeLookedUp path ∧ path ≠ "" ∧
      tree.walk maxLinks (startOf directory path) (steps path) = .ok (reached, spared) := by
  unfold locate at found
  split at found
  · cases found
  · rename_i noNull
    split at found
    · cases found
    · rename_i present
      split at found
      · cases found
      · rename_i short
        exact ⟨⟨by simpa using noNull, by omega⟩, present, found⟩

/-- A path whose entry is known leads to the place of that entry. -/
theorem locate_of_status {path : String} {directory : Location} {entry : Entry}
    (known : tree.status directory path = .ok entry) :
    ∃ reached spared, tree.locate directory path = .ok (reached, spared) ∧
      tree.get? reached = some entry := by
  unfold FileTree.status at known
  cases found : tree.locate directory path with
  | error fault =>
    rw [found] at known
    cases known
  | ok outcome =>
    obtain ⟨reached, spared⟩ := outcome
    simp only [found, bind, Except.bind] at known
    split at known
    · rename_i same
      cases known
      exact ⟨reached, spared, rfl, same⟩
    · cases known

/-- The text of a location where something stands leads there, seen from anywhere, if it can be looked
up. -/
theorem Stands.locate (there : Stands tree location) (fits : CanBeLookedUp location.text)
    (directory : Location) : tree.locate directory location.text = .ok (location, maxLinks) := by
  rw [locate_eq fits (PurePath.text_ne_empty location), startOf_text,
    steps_text fun name member => (there.isProper name member).noSlash, walk_skip there.top]
  by_cases root : location = []
  · rw [if_pos root, walk_skip there.top, root, walk_nil]
  · have straight := there.walk_append maxLinks []
    rw [List.append_nil, walk_nil] at straight
    rw [if_neg root, straight]

/-- A path that leads somewhere from where something stands leads to where something stands. -/
theorem stands_of_locate {path : String} {directory : Location} (there : Stands tree directory)
    (found : tree.locate directory path = .ok (reached, spared)) : Stands tree reached := by
  obtain ⟨_, _, walked⟩ := locate_ok found
  obtain ⟨links, _, leads⟩ := leads_of_walk walked
  exact leads.stands (there.startOf path) fun name member => noSlash_of_mem_steps member

end LiveConsole.FileTree
