import LiveConsole.Proofs.FileTree.Walk

/-!
# Canonical paths and walks

Where a walk leads somewhere, the resolution of the same names ends there: no link is met while it is
being followed, since it would have to be followed through fewer links than itself, and links never lie
deeper inside each other than there are links. The canonical location is then one that is really there.
Resolving a location without links on the way gives that location again.
-/
namespace LiveConsole.FileTree

variable {tree : FileTree} {location reached : Location} {name : String} {names : List String}
variable {followed : Followed} {levels : Nat}

/-- Whether no link stands at a location or on the way to it. -/
def Unlinked (tree : FileTree) (location : Location) : Prop :=
  ∀ before, before <+: location → tree.linkAt? before = none

/-- Whether the target of a link leads to a location through so many links. -/
def TargetLeads (tree : FileTree) (link reached : Location) (links : Nat) : Prop :=
  ∃ target, tree.linkAt? link = some target ∧
    Leads tree (startOf link.dropLast target) (steps target) reached links

/-- What is known of the links met is right, with some links underway. -/
structure Sound (tree : FileTree) (followed : Followed) (underway : List Location) : Prop where
  /-- A link is known to lead where it leads. -/
  known : ∀ link reached, followed.lookup link = some (some reached) →
    ∃ links, TargetLeads tree link reached links
  /-- A link of which nothing is known yet is underway. -/
  unknown : ∀ link, followed.lookup link = some none → link ∈ underway

/-- The links underway are different links, and following any of them takes at least so many links. -/
structure Underway (tree : FileTree) (underway : List Location) (links : Nat) : Prop where
  /-- No link is underway twice. -/
  nodup : underway.Nodup
  /-- A link underway leads somewhere, through enough links. -/
  leads : ∀ link ∈ underway, ∃ reached inner, links ≤ inner ∧ TargetLeads tree link reached inner

/-! ## Single names -/

/-- Without names the resolution is complete. -/
theorem resolveNames_nil :
    tree.resolveNames levels followed location [] = ⟨location, true, followed⟩ := by
  cases levels <;> rfl

/-- A name to be skipped makes no difference. -/
theorem resolveNames_skip (idle : name = "" ∨ name = ".") :
    tree.resolveNames levels followed location (name :: names) =
      tree.resolveNames levels followed location names := by
  cases levels <;> simp only [resolveNames, resolveWith, if_pos idle]

/-- Two points lead to the directory above. -/
theorem resolveNames_up :
    tree.resolveNames levels followed location (".." :: names) =
      tree.resolveNames levels followed location.dropLast names := by
  cases levels <;> simp [resolveNames, resolveWith]

/-- A name where no link stands is taken as it is. -/
theorem resolveNames_down (busy : ¬(name = "" ∨ name = ".")) (deeper : name ≠ "..")
    (solid : tree.linkAt? (location ++ [name]) = none) :
    tree.resolveNames levels followed location (name :: names) =
      tree.resolveNames levels followed (location ++ [name]) names := by
  cases levels <;> simp only [resolveNames, resolveWith, if_neg busy, if_neg deeper, solid]

/-- A link that was followed before leads where it is known to lead. -/
theorem resolveNames_known {target : String} {known : Location} (busy : ¬(name = "" ∨ name = "."))
    (deeper : name ≠ "..") (linked : tree.linkAt? (location ++ [name]) = some target)
    (found : followed.lookup (location ++ [name]) = some (some known)) :
    tree.resolveNames levels followed location (name :: names) =
      tree.resolveNames levels followed known names := by
  cases levels <;> simp only [resolveNames, resolveWith, if_neg busy, if_neg deeper, linked, found]

/-- A link that is met for the first time is followed to its end, and the resolution goes on from there.
-/
theorem resolveNames_new {target : String} {inner : Location} {after : Followed}
    (busy : ¬(name = "" ∨ name = ".")) (deeper : name ≠ "..")
    (linked : tree.linkAt? (location ++ [name]) = some target)
    (fresh : followed.lookup (location ++ [name]) = none)
    (ends : tree.resolveNames levels ((location ++ [name], none) :: followed)
      (startOf location target) (steps target) = ⟨inner, true, after⟩) :
    tree.resolveNames (levels + 1) followed location (name :: names) =
      tree.resolveNames (levels + 1) ((location ++ [name], some inner) :: after) inner names := by
  simp only [resolveNames, resolveWith, if_neg busy, if_neg deeper, linked, fresh, ends, if_true]

/-! ## Links underway -/

/-- There are at most as many different links as the tree has. -/
theorem length_le_linkCount {links : List Location} (nodup : links.Nodup)
    (linked : ∀ link ∈ links, ∃ target, tree.linkAt? link = some target) :
    links.length ≤ tree.linkCount := by
  rw [linkCount, ← List.length_map (f := Prod.fst)]
  refine nodup.length_le_of_subset fun link member => ?_
  obtain ⟨target, found⟩ := linked link member
  have entry := get?_of_linkAt? found
  rw [get?, List.lookup_eq_some_iff] at entry
  obtain ⟨before, after, same, _⟩ := entry
  have stored : (link, Entry.link target) ∈ tree.entries := by
    rw [same]
    simp
  exact List.mem_map.2 ⟨(link, .link target), List.mem_filter.2 ⟨stored, rfl⟩, rfl⟩

/-- A link whose target leads somewhere through fewer links than any link underway is not underway. -/
theorem Underway.not_mem {underway : List Location} {link reached : Location} {inner links : Nat}
    (fine : Underway tree underway links) (fewer : inner < links)
    (leads : TargetLeads tree link reached inner) : link ∉ underway := by
  intro member
  obtain ⟨other, more, enough, target, linked, far⟩ := fine.leads link member
  obtain ⟨same, alike, near⟩ := leads
  rw [linked] at alike
  cases alike
  obtain ⟨_, equal⟩ := near.unique far
  omega

/-- Links stay underway for fewer links. -/
theorem Underway.mono {underway : List Location} {fewer links : Nat}
    (fine : Underway tree underway links) (less : fewer ≤ links) :
    Underway tree underway fewer := by
  refine ⟨fine.nodup, fun link member => ?_⟩
  obtain ⟨reached, inner, enough, leads⟩ := fine.leads link member
  exact ⟨reached, inner, by omega, leads⟩

/-- A link that is followed now is underway. -/
theorem Underway.cons {underway : List Location} {link reached : Location} {inner links : Nat}
    (fine : Underway tree underway links) (fewer : inner < links)
    (leads : TargetLeads tree link reached inner) : Underway tree (link :: underway) inner := by
  have earlier := fine.mono (Nat.le_of_lt fewer)
  refine ⟨List.nodup_cons.2 ⟨fine.not_mem fewer leads, fine.nodup⟩, fun other member => ?_⟩
  rcases List.mem_cons.1 member with rfl | before
  · exact ⟨reached, inner, Nat.le_refl inner, leads⟩
  · exact earlier.leads other before

/-- What is known stays right when a link is taken up. -/
theorem Sound.begin {underway : List Location} {link : Location}
    (sound : Sound tree followed underway) :
    Sound tree ((link, none) :: followed) (link :: underway) := by
  constructor
  · intro other known found
    rw [List.lookup_cons] at found
    split at found
    · cases found
    · exact sound.known other known found
  · intro other found
    rw [List.lookup_cons] at found
    split at found
    · rename_i same
      rw [eq_of_beq same]
      exact List.mem_cons_self
    · exact List.mem_cons_of_mem link (sound.unknown other found)

/-- What is known stays right when a link was followed to its end. -/
theorem Sound.finish {underway : List Location} {link inner : Location} {links : Nat}
    (sound : Sound tree followed (link :: underway)) (leads : TargetLeads tree link inner links) :
    Sound tree ((link, some inner) :: followed) underway := by
  constructor
  · intro other known found
    rw [List.lookup_cons] at found
    split at found
    · rename_i same
      cases found
      rw [eq_of_beq same]
      exact ⟨links, leads⟩
    · exact sound.known other known found
  · intro other found
    rw [List.lookup_cons] at found
    split at found
    · cases found
    · rename_i different
      rcases List.mem_cons.1 (sound.unknown other found) with same | before
      · rw [same] at different
        simp at different
      · exact before

/-! ## Resolutions -/

/-- Where names lead somewhere, their resolution ends there: with what is known of links being right, and
levels for all links that are not underway. -/
theorem Leads.resolveNames {links : Nat} (leads : Leads tree location names reached links)
    (levels : Nat) (followed : Followed) (underway : List Location)
    (sound : Sound tree followed underway) (fine : Underway tree underway links)
    (enough : levels + underway.length = tree.linkCount + 1) :
    ∃ after, tree.resolveNames levels followed location names = ⟨reached, true, after⟩ ∧
      Sound tree after underway := by
  induction leads generalizing levels followed underway with
  | here => exact ⟨followed, resolveNames_nil, sound⟩
  | skip _ idle _ ih =>
    rw [resolveNames_skip idle]
    exact ih levels followed underway sound fine enough
  | up _ _ ih =>
    rw [resolveNames_up]
    exact ih levels followed underway sound fine enough
  | down _ inward _ solid _ ih =>
    rw [resolveNames_down inward.1 inward.2.1 solid]
    exact ih levels followed underway sound fine enough
  | @link location middle reached name target names inner links stands inward found further rest
      ihFurther ih =>
    have targetLeads : TargetLeads tree (location ++ [name]) middle inner :=
      ⟨target, found, by rw [List.dropLast_concat]; exact further⟩
    have later := fine.mono (by omega : links ≤ inner + links + 1)
    cases met : followed.lookup (location ++ [name]) with
    | some state =>
      cases state with
      | some known =>
        obtain ⟨others, same, alike, near⟩ := sound.known _ known met
        rw [found] at alike
        cases alike
        rw [List.dropLast_concat] at near
        obtain ⟨rfl, _⟩ := further.unique near
        rw [resolveNames_known inward.1 inward.2.1 found met]
        exact ih levels followed underway sound later enough
      | none =>
        -- A link met while it is being followed would lead on through fewer links than itself.
        have met := sound.unknown _ met
        exact absurd met (fine.not_mem (by omega) targetLeads)
    | none =>
      have deeper := fine.cons (by omega : inner < inner + links + 1) targetLeads
      have bound := length_le_linkCount deeper.nodup fun link member => by
        obtain ⟨_, _, _, target, linked, _⟩ := deeper.leads link member
        exact ⟨target, linked⟩
      rw [List.length_cons] at bound
      obtain ⟨fewer, rfl⟩ : ∃ fewer, levels = fewer + 1 := ⟨levels - 1, by omega⟩
      obtain ⟨after, ends, soundAfter⟩ := ihFurther fewer ((location ++ [name], none) :: followed)
        ((location ++ [name]) :: underway) sound.begin deeper (by rw [List.length_cons]; omega)
      rw [resolveNames_new inward.1 inward.2.1 found met ends]
      exact ih (fewer + 1) _ underway (soundAfter.finish targetLeads) later enough

/-- Names are resolved to themselves, but for those to be skipped, if the others are proper and no links stand
on the way. -/
theorem resolveNames_unlinked
    (proper : Location.IsProper (names.filter fun name => name ≠ "" ∧ name ≠ "."))
    (unlinked : Unlinked tree (location ++ names.filter fun name => name ≠ "" ∧ name ≠ ".")) :
    tree.resolveNames levels followed location names =
      ⟨location ++ names.filter fun name => name ≠ "" ∧ name ≠ ".", true, followed⟩ := by
  induction names generalizing location with
  | nil => rw [resolveNames_nil, List.filter_nil, List.append_nil]
  | cons name names ih =>
    by_cases idle : name = "" ∨ name = "."
    · have skipped : (name :: names).filter (fun name => name ≠ "" ∧ name ≠ ".") =
          names.filter fun name => name ≠ "" ∧ name ≠ "." :=
        List.filter_cons_of_neg (by rcases idle with rfl | rfl <;> simp)
      rw [skipped] at proper unlinked ⊢
      rw [resolveNames_skip idle]
      exact ih proper unlinked
    · have kept : (name :: names).filter (fun name => name ≠ "" ∧ name ≠ ".") =
          name :: names.filter fun name => name ≠ "" ∧ name ≠ "." :=
        List.filter_cons_of_pos (by simpa using not_or.1 idle)
      rw [kept] at proper unlinked ⊢
      rw [List.append_cons] at unlinked ⊢
      have own := proper name List.mem_cons_self
      have solid : tree.linkAt? (location ++ [name]) = none := unlinked _ (List.prefix_append _ _)
      rw [resolveNames_down own.notIdle own.notPoints solid]
      exact ih (fun other member => proper other (List.mem_cons_of_mem name member)) unlinked

/-- Proper names without links on the way are resolved to themselves. -/
theorem resolveNames_straight (proper : Location.IsProper names)
    (unlinked : Unlinked tree (location ++ names)) :
    tree.resolveNames levels followed location names = ⟨location ++ names, true, followed⟩ := by
  have kept : names.filter (fun name => name ≠ "" ∧ name ≠ ".") = names := by
    rw [List.filter_eq_self]
    intro name member
    simpa using not_or.1 (proper name member).notIdle
  have resolved : tree.resolveNames levels followed location names = _ :=
    resolveNames_unlinked (kept.symm ▸ proper) (kept.symm ▸ unlinked)
  rwa [kept] at resolved

/-! ## Canonical locations -/

/-- Proper names are in normal form. -/
theorem normalizeNames_of_isProper {location : Location} (proper : location.IsProper) :
    normalizeNames location = location := by
  have step (done : Location) (names : List String) (proper : Location.IsProper names) :
      names.foldl (fun done name =>
        if name = "" ∨ name = "." then done
        else if name = ".." then done.dropLast
        else done ++ [name]) done = done ++ names := by
    induction names generalizing done with
    | nil => simp
    | cons name names ih =>
      have own := proper name List.mem_cons_self
      rw [List.foldl_cons, if_neg own.notIdle, if_neg own.notPoints,
        ih _ fun other member => proper other (List.mem_cons_of_mem name member)]
      simp
  exact step [] location proper

/-- A name that is not one of a link puts no link on the way. -/
theorem Unlinked.concat (outer : Unlinked tree location)
    (solid : tree.linkAt? (location ++ [name]) = none) : Unlinked tree (location ++ [name]) := by
  intro before first
  rcases List.prefix_concat_iff.1 first with rfl | inside
  · exact solid
  · exact outer before inside

/-- Where something stands there are no links on the way. -/
theorem Stands.unlinked (there : Stands tree location) : Unlinked tree location := by
  induction there with
  | root top =>
    intro before first
    rw [List.prefix_nil.1 first]
    exact top.solid
  | inside _ _ _ _ _ solid ih => exact ih.concat solid

/-- The canonical location of the text of a location without links on the way is that location, seen from
anywhere. -/
theorem realLocation_text (proper : location.IsProper) (unlinked : Unlinked tree location)
    (directory : Location) : tree.realLocation directory location.text = location := by
  have resolved : (tree.resolveNames (tree.linkCount + 1) [] [] (steps location.text)).names =
      location := by
    rw [steps_text fun name member => (proper name member).noSlash, resolveNames_skip (.inl rfl)]
    by_cases root : location = []
    · rw [if_pos root, resolveNames_skip (.inl rfl), resolveNames_nil, root]
    · rw [if_neg root, resolveNames_straight proper unlinked, List.nil_append]
  rw [realLocation, startOf_text, resolved, normalizeNames_of_isProper proper]

/-- The canonical location of a relative path without links on the way stands below the directory that it is
seen from. -/
theorem realLocation_relative {directory : Location} {path : String} (relative : ¬IsRooted path) (outer : directory.IsProper)
    (proper : Location.IsProper (PurePath.ofText path).parts)
    (unlinked : Unlinked tree (directory ++ (PurePath.ofText path).parts)) :
    tree.realLocation directory path = directory ++ (PurePath.ofText path).parts := by
  have start : startOf directory path = directory := by
    rw [startOf, if_neg fun rooted => relative (eq_of_beq rooted)]
  have whole : Location.IsProper (directory ++ (PurePath.ofText path).parts) := by
    intro name member
    rcases List.mem_append.1 member with before | behind
    · exact outer name before
    · exact proper name behind
  rw [realLocation, start, resolveNames_unlinked proper unlinked]
  exact normalizeNames_of_isProper whole

/-- The canonical location of a path from the root is the same from anywhere. -/
theorem IsRooted.realLocation {path : String} (rooted : IsRooted path) (first second : Location) :
    tree.realLocation first path = tree.realLocation second path := by
  rw [FileTree.realLocation, FileTree.realLocation, rooted.startOf, rooted.startOf]

/-- Where a path leads somewhere from where something stands, its canonical location is where it leads. -/
theorem realLocation_of_locate {path : String} {directory : Location} {spared : Nat}
    (there : Stands tree directory) (found : tree.locate directory path = .ok (reached, spared)) :
    tree.realLocation directory path = reached := by
  obtain ⟨_, _, walked⟩ := locate_ok found
  obtain ⟨links, _, leads⟩ := leads_of_walk walked
  have nothing : Sound tree [] [] := by
    constructor <;> simp
  have none : Underway tree [] links := ⟨List.nodup_nil, fun _ member => by cases member⟩
  obtain ⟨after, resolved, _⟩ :=
    leads.resolveNames (tree.linkCount + 1) [] [] nothing none (by simp)
  rw [realLocation, resolved]
  exact normalizeNames_of_isProper (stands_of_locate there found).isProper

/-- The canonical form of a path, if it has one, is that of its canonical location. -/
theorem resolve_ok {directory : Location} {path canonical : PurePath}
    (resolved : tree.resolve directory path = .ok canonical) :
    canonical = .ofLocation (tree.realLocation directory path.text) := by
  unfold FileTree.resolve at resolved
  split at resolved
  · cases resolved
  · dsimp only at resolved
    split at resolved
    · cases resolved
    · cases resolved
      rfl

/-- A path that leads somewhere from where something stands has a canonical form, where it leads to. -/
theorem resolve_of_locate {path : PurePath} {directory : Location} {spared : Nat}
    (there : Stands tree directory)
    (found : tree.locate directory path.text = .ok (reached, spared)) {canonical : PurePath}
    (resolved : tree.resolve directory path = .ok canonical) :
    canonical = .ofLocation reached := by
  rw [resolve_ok resolved, realLocation_of_locate there found]

/-- A location without links on the way is its own canonical form, seen from anywhere, if looking it up
does not meet too many links. -/
theorem resolve_ofLocation (proper : location.IsProper) (unlinked : Unlinked tree location)
    (noNull : '\x00' ∉ location.text.toList) (directory : Location)
    (ends : tree.status directory location.text ≠ .error .tooManyLinks) :
    tree.resolve directory (.ofLocation location) = .ok (.ofLocation location) := by
  rw [FileTree.resolve, PurePath.text_ofLocation, if_neg (by simpa using noNull),
    realLocation_text proper unlinked]
  simp only [PurePath.text_ofLocation]

/-- What the text of a location leads to is the same wherever it is looked up from. -/
theorem status_text (first second : Location) :
    tree.status first location.text = tree.status second location.text :=
  (isRooted_text location).status first second

/-- The canonical form of a location is the same wherever it is seen from. -/
theorem resolve_elsewhere (first second : Location) :
    tree.resolve first (.ofLocation location) = tree.resolve second (.ofLocation location) := by
  rw [FileTree.resolve, FileTree.resolve, PurePath.text_ofLocation,
    (isRooted_text location).realLocation first second]
  simp only [PurePath.text_ofLocation, status_text first second]

/-- What stands somewhere is found by the text of its location, seen from anywhere. -/
theorem Stands.status (there : Stands tree location) (fits : CanBeLookedUp location.text)
    (directory : Location) :
    ∃ entry, tree.get? location = some entry ∧
      tree.status directory location.text = .ok entry := by
  obtain ⟨entry, found⟩ := there.found
  refine ⟨entry, found, ?_⟩
  rw [FileTree.status, there.locate fits]
  simp only [bind, Except.bind, found]

/-- A location where something stands is its own canonical form, seen from anywhere, if it can be looked
up. -/
theorem Stands.resolve (there : Stands tree location) (fits : CanBeLookedUp location.text)
    (directory : Location) :
    tree.resolve directory (.ofLocation location) = .ok (.ofLocation location) := by
  obtain ⟨entry, _, status⟩ := there.status fits directory
  refine resolve_ofLocation there.isProper there.unlinked fits.1 directory ?_
  rw [status]
  intro same
  cases same

/-! ## Resolutions of canonical locations -/

/-- Whether no name has a slash in it. -/
def Free (names : List String) : Prop := ∀ name ∈ names, '/' ∉ name.toList

/-- Whether a location has proper names and no links on the way. -/
structure Canonical (tree : FileTree) (location : Location) : Prop where
  /-- The names are proper. -/
  proper : location.IsProper
  /-- There are no links on the way. -/
  unlinked : Unlinked tree location

/-- Whether links are known to lead to canonical locations only. -/
def CanonicalFollowed (tree : FileTree) (followed : Followed) : Prop :=
  ∀ met ∈ followed, ∀ reached, met.2 = some reached → Canonical tree reached

/-- Whether a resolution gives names without slashes, and a canonical location if it is complete. -/
structure Resolved.Fine (tree : FileTree) (resolved : Resolved) : Prop where
  /-- The names have no slashes in them. -/
  free : Free resolved.names
  /-- A complete resolution ends at a canonical location. -/
  canonical : resolved.complete = true → Canonical tree resolved.names
  /-- The links met lead to canonical locations. -/
  followed : CanonicalFollowed tree resolved.followed

/-- Names without slashes stay so behind each other. -/
theorem Free.append {names others : List String} (first : Free names) (second : Free others) :
    Free (names ++ others) := by
  intro name member
  rcases List.mem_append.1 member with before | behind
  · exact first name before
  · exact second name behind

/-- The names of a canonical location have no slashes in them. -/
theorem Canonical.free (canonical : Canonical tree location) : Free location :=
  fun name member => (canonical.proper name member).noSlash

/-- Where something stands its location is canonical. -/
theorem Stands.canonical (there : Stands tree location) : Canonical tree location :=
  ⟨there.isProper, there.unlinked⟩

/-- The directory of a canonical location is canonical. -/
theorem Canonical.dropLast (canonical : Canonical tree location) :
    Canonical tree location.dropLast :=
  ⟨fun name member => canonical.proper name (List.dropLast_subset location member),
    fun before first => canonical.unlinked before (first.trans (List.dropLast_prefix location))⟩

/-- A proper name that is not one of a link keeps a location canonical. -/
theorem Canonical.concat (canonical : Canonical tree location) (proper : IsProper name)
    (solid : tree.linkAt? (location ++ [name]) = none) : Canonical tree (location ++ [name]) := by
  refine ⟨fun other member => ?_, canonical.unlinked.concat solid⟩
  rcases List.mem_append.1 member with before | last
  · exact canonical.proper other before
  · rw [List.mem_singleton.1 last]
    exact proper

/-- A resolution begins at a canonical location if its link stands in one. -/
theorem Canonical.startOf (canonical : Canonical tree location) (path : String) :
    Canonical tree (FileTree.startOf location path) := by
  unfold FileTree.startOf
  split
  · refine ⟨fun name member => (by cases member), fun before first => ?_⟩
    exact canonical.unlinked before (first.trans List.nil_prefix)
  · exact canonical

/-- A resolution from a canonical location is fine if those of link targets are. -/
theorem resolveWith_fine {follow : Followed → Location → List String → Resolved}
    (inner : ∀ followed location names, CanonicalFollowed tree followed → Canonical tree location →
      Free names → (follow followed location names).Fine tree)
    (followed : Followed) (location : Location) (names : List String)
    (known : CanonicalFollowed tree followed) (outer : Canonical tree location) (free : Free names) :
    (resolveWith tree follow followed location names).Fine tree := by
  induction names generalizing followed location with
  | nil => exact ⟨outer.free, fun _ => outer, known⟩
  | cons name names ih =>
    have own : '/' ∉ name.toList := free name List.mem_cons_self
    have rest : Free names := fun other member => free other (List.mem_cons_of_mem name member)
    unfold resolveWith
    split
    · exact ih followed location known outer rest
    · rename_i busy
      split
      · exact ih followed location.dropLast known outer.dropLast rest
      · rename_i deeper
        have proper : IsProper name :=
          ⟨fun empty => busy (.inl empty), fun point => busy (.inr point), deeper, own⟩
        have next : Free (location ++ [name]) := outer.free.append (by simpa [Free] using own)
        dsimp only
        split
        · rename_i solid
          exact ih followed _ known (outer.concat proper solid) rest
        · rename_i target linked
          split
          · rename_i reached found
            obtain ⟨before, after, same, _⟩ := List.lookup_eq_some_iff.1 found
            have met : (location ++ [name], some reached) ∈ followed := by
              rw [same]
              simp
            exact ih followed reached known (known _ met reached rfl) rest
          · exact ⟨next.append rest, fun whole => (by cases whole), known⟩
          · have begun : CanonicalFollowed tree ((location ++ [name], none) :: followed) := by
              intro met member reached same
              rcases List.mem_cons.1 member with rfl | before
              · cases same
              · exact known met before reached same
            have fine := inner _ (startOf location target) (steps target) begun
              (outer.startOf target) fun other member => noSlash_of_mem_steps member
            split
            · rename_i complete
              refine ih _ _ ?_ (fine.canonical complete) rest
              intro met member found same
              rcases List.mem_cons.1 member with rfl | before
              · cases same
                exact fine.canonical complete
              · exact fine.followed met before found same
            · exact ⟨fine.free.append rest, fun whole => (by cases whole), fine.followed⟩

/-- Resolutions from a canonical location are fine, links inside links included. -/
theorem resolveNames_fine (levels : Nat) (followed : Followed) (location : Location)
    (names : List String) (known : CanonicalFollowed tree followed) (outer : Canonical tree location)
    (free : Free names) : (tree.resolveNames levels followed location names).Fine tree := by
  induction levels generalizing followed location names with
  | zero =>
    exact resolveWith_fine (fun followed location names known outer free =>
      ⟨outer.free.append free, fun whole => (by cases whole), known⟩)
      followed location names known outer free
  | succ levels ih => exact resolveWith_fine ih followed location names known outer free

/-- Names in normal form are proper if they have no slashes. -/
theorem normalizeNames_isProper {names : List String} (free : Free names) :
    (normalizeNames names).IsProper := by
  have step (done : Location) (proper : done.IsProper) :
      Location.IsProper (names.foldl (fun done name =>
        if name = "" ∨ name = "." then done
        else if name = ".." then done.dropLast
        else done ++ [name]) done) := by
    induction names generalizing done with
    | nil => exact proper
    | cons name names ih =>
      rw [List.foldl_cons]
      apply ih fun other member => free other (List.mem_cons_of_mem name member)
      split
      · exact proper
      · rename_i busy
        split
        · exact fun other member => proper other (List.dropLast_subset done member)
        · rename_i deeper
          intro other member
          rcases List.mem_append.1 member with before | last
          · exact proper other before
          · rw [List.mem_singleton] at last
            rw [last]
            exact ⟨fun empty => busy (.inl empty), fun point => busy (.inr point), deeper,
              free name List.mem_cons_self⟩
  exact step [] fun other member => by cases member

/-- The resolution of a path, seen from a directory. -/
def resolution (tree : FileTree) (directory : Location) (path : String) : Resolved :=
  tree.resolveNames (tree.linkCount + 1) [] (startOf directory path) (steps path)

/-- The resolution of a path is fine, seen from where something stands. -/
theorem resolution_fine {directory : Location} (there : Stands tree directory) (path : String) :
    (tree.resolution directory path).Fine tree :=
  resolveNames_fine _ _ _ _ (fun _ member => by cases member) (there.canonical.startOf path)
    fun _ member => noSlash_of_mem_steps member

/-- The canonical location of a path has proper names, seen from where something stands. -/
theorem realLocation_isProper {directory : Location} (there : Stands tree directory)
    (path : String) : (tree.realLocation directory path).IsProper :=
  normalizeNames_isProper (resolution_fine there path).free

/-- The canonical location of a path that is resolved completely is its own canonical location. -/
theorem realLocation_again {directory : Location} (there : Stands tree directory) {path : String}
    (complete : (tree.resolution directory path).complete = true) (elsewhere : Location) :
    tree.realLocation elsewhere (tree.realLocation directory path).text =
      tree.realLocation directory path := by
  have canonical := (resolution_fine there path).canonical complete
  have same : tree.realLocation directory path = (tree.resolution directory path).names :=
    normalizeNames_of_isProper canonical.proper
  rw [same]
  exact realLocation_text canonical.proper canonical.unlinked elsewhere

end LiveConsole.FileTree
