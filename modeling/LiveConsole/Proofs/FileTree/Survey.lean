import Mathlib.Logic.Hydra
import LiveConsole.Proofs.FileTree.Reach
import LiveConsole.Proofs.FileTree.Time

/-!
# Snapshots and surveys

A survey goes through a directory and what is below it with the latest time so far and the paths that are
still to be looked at. Each round takes the path on top, meets what the names in that directory lead to, in
any order, and puts the directories among them on top. Nothing is remembered of the paths that are done with,
but each of them gives way to paths that can go on by fewer names, so every survey comes to its end. It then
has the latest of all times at the path and below it, which is what a snapshot gives.
-/
namespace LiveConsole.FileTree

variable {tree : FileTree} {directory : Location} {path outer inner name : String}
variable {names : List String} {time : Time}

/-! ## The times below a path -/

/-- The time of what a path leads to, links followed. -/
def time? (tree : FileTree) (directory : Location) (path : String) : Option Time :=
  match tree.status directory path with
  | .ok entry => entry.modified?
  | .error _ => none

/-- The times at all paths below a path. -/
def timesBelow (tree : FileTree) (directory : Location) (path : String) : Set Time :=
  {time | ∃ inner, tree.Below directory path inner ∧ tree.time? directory inner = some time}

/-- The time at a path and the times at all paths below it. -/
def timesAt (tree : FileTree) (directory : Location) (path : String) : Set Time :=
  {time | time = tree.timeAt directory path ∨ time ∈ tree.timesBelow directory path}

/-- A path that has a time leads somewhere. -/
theorem status_of_time? (found : tree.time? directory path = some time) :
    ∃ entry, tree.status directory path = .ok entry ∧ entry.modified? = some time := by
  unfold time? at found
  split at found
  · rename_i entry leads
    exact ⟨entry, leads, found⟩
  · cases found

/-- A path whose directory can be listed leads to a directory. -/
theorem status_of_listing? (listed : tree.listing? directory path = some names) :
    ∃ modified, tree.status directory path = .ok (.directory modified) := by
  obtain ⟨location, spared, found, ⟨modified, stands⟩, _⟩ := listing?_eq_some listed
  refine ⟨modified, ?_⟩
  rw [status, found]
  simp only [bind, Except.bind, stands]

/-- A directory with times below it can be listed. -/
theorem listing?_of_mem_timesBelow (member : time ∈ tree.timesBelow directory path) :
    ∃ names, tree.listing? directory path = some names := by
  obtain ⟨inner, below, _⟩ := member
  obtain ⟨middle, ⟨listed, _, _⟩, _⟩ := Relation.TransGen.head'_iff.1 below
  exact ⟨_, listed⟩

/-- There are no times below what is no directory. -/
theorem not_mem_timesBelow (other : ∀ modified, tree.status directory path ≠ .ok (.directory modified)) :
    time ∉ tree.timesBelow directory path := by
  intro member
  obtain ⟨names, listed⟩ := listing?_of_mem_timesBelow member
  obtain ⟨modified, leads⟩ := status_of_listing? listed
  exact other modified leads

/-- The times below a path are those of its names and those below them. -/
theorem mem_timesBelow_iff :
    time ∈ tree.timesBelow directory path ↔
      ∃ names, tree.listing? directory path = some names ∧ ∃ name ∈ names,
        tree.time? directory (pathIn path name) = some time ∨
          time ∈ tree.timesBelow directory (pathIn path name) := by
  constructor
  · rintro ⟨inner, below, found⟩
    obtain ⟨_, @⟨name, names, entry, listed, member, leads⟩, further⟩ :=
      Relation.TransGen.head'_iff.1 below
    refine ⟨names, listed, name, member, ?_⟩
    rcases Relation.reflTransGen_iff_eq_or_transGen.1 further with rfl | deeper
    · exact .inl found
    · exact .inr ⟨inner, deeper, found⟩
  · rintro ⟨names, listed, name, member, found | ⟨inner, below, found⟩⟩
    · obtain ⟨entry, leads, _⟩ := status_of_time? found
      exact ⟨_, .single (.name listed member leads), found⟩
    · obtain ⟨more, deeper⟩ := listing?_of_mem_timesBelow ⟨inner, below, found⟩
      obtain ⟨modified, leads⟩ := status_of_listing? deeper
      exact ⟨inner, .head (.name listed member leads) below, found⟩

/-! ## Snapshots -/

/-- Going on by as many names as there can be meets all times below a path and no others. -/
theorem time_mem_sightsBelow_iff (proper : tree.HasProperNames) {fuel : Nat}
    (enough : tree.namesBelow directory path < fuel) :
    Sight.time time ∈ tree.sightsBelow directory fuel path ↔
      time ∈ tree.timesBelow directory path := by
  induction fuel generalizing path with
  | zero => exact absurd enough (Nat.not_lt_zero _)
  | succ fuel ih =>
    rw [sightsBelow, mem_timesBelow_iff]
    cases listed : tree.listing? directory path with
    | none => simp
    | some names =>
      simp only [List.mem_flatMap, List.mem_reverse, Option.some_inj, exists_eq_left']
      refine exists_congr fun name => and_congr_right fun member => ?_
      unfold time?
      cases leads : tree.status directory (pathIn path name) with
      | error fault => simp [not_mem_timesBelow, leads]
      | ok entry =>
        cases entry with
        | file modified _ _ => simp [not_mem_timesBelow, leads, Entry.modified?, eq_comm]
        | link target => simp [not_mem_timesBelow, leads, Entry.modified?]
        | directory modified =>
          have fewer := namesBelow_lt proper (.name listed member leads)
          have deeper : Sight.time time ∈ tree.sightsBelow directory fuel (pathIn path name) ↔
              time ∈ tree.timesBelow directory (pathIn path name) := ih (by omega)
          simp [← deeper, Entry.modified?, eq_comm]

/-- The snapshot of a file is its time. -/
theorem snapshot_file (file : tree.isFile directory path = true) :
    tree.snapshot directory path = tree.timeAt directory path := by
  rw [snapshot, sights, if_pos file]
  rfl

/-- The snapshot of a path that leads nowhere is zero. -/
theorem snapshot_nowhere (noFile : tree.isFile directory path = false)
    (noDirectory : tree.isDirectory directory path = false) : tree.snapshot directory path = 0 := by
  rw [snapshot, sights, noFile, noDirectory]
  rfl

/-- What leads to a directory does not lead to a file. -/
theorem isFile_of_isDirectory (folder : tree.isDirectory directory path = true) :
    tree.isFile directory path = false := by
  unfold isDirectory at folder
  unfold isFile
  cases leads : tree.status directory path with
  | error fault => rfl
  | ok entry =>
    cases entry with
    | directory _ => rfl
    | file _ _ _ | link _ =>
      rw [leads] at folder
      cases folder

/-- The snapshot of a directory is the latest of the times at its path and below it. -/
theorem snapshot_directory (proper : tree.HasProperNames)
    (folder : tree.isDirectory directory path = true) :
    Time.IsLatest (tree.timesAt directory path) (tree.snapshot directory path) := by
  have sighted (time : Time) :
      time ∈ (tree.sightsBelow directory tree.mostNames path).filterMap Sight.time? ↔
        time ∈ tree.timesBelow directory path := by
    rw [← time_mem_sightsBelow_iff proper (namesBelow_lt_mostNames tree directory path),
      List.mem_filterMap]
    constructor
    · rintro ⟨sight, met, own⟩
      cases sight with
      | time modified => cases own; exact met
      | closed _ => cases own
    · exact fun met => ⟨_, met, rfl⟩
  have same : tree.timesAt directory path = {time | time ∈ tree.timeAt directory path ::
      (tree.sightsBelow directory tree.mostNames path).filterMap Sight.time?} := by
    ext time
    simp only [timesAt, Set.mem_ofPred_eq, List.mem_cons, sighted]
  rw [same, snapshot, sights, isFile_of_isDirectory folder, folder]
  exact Time.isLatest_foldl_later _ _

/-! ## Surveys -/

/-- A survey under way. -/
structure Survey where
  /-- The latest time so far. -/
  latest : Time
  /-- The paths of directories that are still to be looked at, the next one first. -/
  pending : List String

/-- Meet what a path leads to: take its time into account, and look at it later if it is a directory. -/
def meet (tree : FileTree) (directory : Location) (survey : Survey) (path : String) : Survey :=
  match tree.status directory path with
  | .ok (.file modified ..) => { survey with latest := survey.latest.later modified }
  | .ok (.directory modified) => ⟨survey.latest.later modified, path :: survey.pending⟩
  | _ => survey

/-- What one round of a survey makes of it. -/
inductive Round (tree : FileTree) (directory : Location) : Survey → Survey → Prop
  /-- A directory that cannot be listed is passed over. -/
  | closed {latest : Time} {path : String} {pending : List String}
      (closed : tree.listing? directory path = none) :
      Round tree directory ⟨latest, path :: pending⟩ ⟨latest, pending⟩
  /-- What the names in a directory lead to is met in any order. -/
  | listed {latest : Time} {path : String} {pending names order : List String}
      (listed : tree.listing? directory path = some names) (any : order.Perm names) :
      Round tree directory ⟨latest, path :: pending⟩
        ((order.map (pathIn path)).foldl (tree.meet directory) ⟨latest, pending⟩)

/-- Meeting what several paths lead to takes their times into account and puts the directories on top. -/
theorem foldl_meet (paths : List String) (survey : Survey) :
    paths.foldl (tree.meet directory) survey =
      ⟨(paths.filterMap (tree.time? directory)).foldl Time.later survey.latest,
        (paths.filter (tree.isDirectory directory)).reverse ++ survey.pending⟩ := by
  induction paths generalizing survey with
  | nil => rfl
  | cons path paths ih =>
    rw [List.foldl_cons, ih, List.filterMap_cons, List.filter_cons]
    unfold meet time? isDirectory
    cases tree.status directory path with
    | error fault => rfl
    | ok entry => cases entry <;> simp [Entry.modified?, Entry.isDirectory]

/-- The directories that the names in a directory lead to are paths that go on from it. -/
theorem goesOn_of_mem_filter {names order : List String}
    (listed : tree.listing? directory path = some names) (any : order.Perm names)
    (member : inner ∈ (order.map (pathIn path)).filter (tree.isDirectory directory)) :
    tree.GoesOn directory path inner := by
  obtain ⟨met, folder⟩ := List.mem_filter.1 member
  obtain ⟨name, named, rfl⟩ := List.mem_map.1 met
  unfold isDirectory at folder
  split at folder
  · rename_i entry leads
    exact .name listed (any.mem_iff.1 named) leads
  · cases folder

/-- The times below a path are those that are met in its directory and those below the directories that are
met there. -/
theorem mem_timesBelow_iff_met {order : List String} (listed : tree.listing? directory path = some names)
    (any : order.Perm names) :
    time ∈ tree.timesBelow directory path ↔
      time ∈ (order.map (pathIn path)).filterMap (tree.time? directory) ∨
        ∃ inner ∈ (order.map (pathIn path)).filter (tree.isDirectory directory),
          time ∈ tree.timesBelow directory inner := by
  constructor
  · intro member
    obtain ⟨_, same, name, named, ways⟩ := mem_timesBelow_iff.1 member
    cases listed.symm.trans same
    have known : pathIn path name ∈ order.map (pathIn path) := List.mem_map_of_mem (any.mem_iff.2 named)
    rcases ways with found | deeper
    · exact .inl (List.mem_filterMap.2 ⟨_, known, found⟩)
    · obtain ⟨more, inside⟩ := listing?_of_mem_timesBelow deeper
      obtain ⟨modified, leads⟩ := status_of_listing? inside
      have folder : tree.isDirectory directory (pathIn path name) = true := by
        rw [isDirectory, leads]
        rfl
      exact .inr ⟨_, List.mem_filter.2 ⟨known, folder⟩, deeper⟩
  · rintro (met | ⟨inner, met, deeper⟩)
    · obtain ⟨inner, known, found⟩ := List.mem_filterMap.1 met
      obtain ⟨name, named, rfl⟩ := List.mem_map.1 known
      exact mem_timesBelow_iff.2 ⟨names, listed, name, any.mem_iff.1 named, .inl found⟩
    · obtain ⟨last, below, found⟩ := deeper
      exact ⟨last, .head (goesOn_of_mem_filter listed any met) below, found⟩

/-- Every survey comes to its end. -/
theorem round_wellFounded (proper : tree.HasProperNames) (directory : Location) :
    WellFounded fun after before => tree.Round directory before after := by
  -- A path gives way to finitely many paths that go on from it.
  refine Subrelation.wf ?_ (InvImage.wf (fun survey => (survey.pending : Multiset String))
    (goesOn_wellFounded proper directory).cutExpand)
  rintro after before round
  cases round with
  | @closed latest path pending _ =>
    exact (Relation.cutExpand_add_right (pending : Multiset String)).2 (Relation.cutExpand_zero (x := path))
  | @listed latest path pending names order listed any =>
    have fewer : ∀ inner ∈ ((((order.map (pathIn path)).filter
        (tree.isDirectory directory)).reverse : List String) : Multiset String),
        tree.GoesOn directory path inner := fun inner member =>
      goesOn_of_mem_filter listed any (List.mem_reverse.1 (Multiset.mem_coe.1 member))
    have expanded := (Relation.cutExpand_add_right (pending : Multiset String)).2
      (Relation.cutExpand_singleton (r := fun inner outer => tree.GoesOn directory outer inner) fewer)
    rw [InvImage, foldl_meet, ← Multiset.coe_add]
    exact expanded

/-- A survey with paths to look at goes on. -/
theorem exists_round (tree : FileTree) (directory : Location) {survey : Survey}
    (pending : survey.pending ≠ []) : ∃ after, tree.Round directory survey after := by
  obtain ⟨latest, waiting⟩ := survey
  cases waiting with
  | nil => exact absurd rfl pending
  | cons path waiting =>
    cases listed : tree.listing? directory path with
    | none => exact ⟨_, .closed listed⟩
    | some names => exact ⟨_, .listed listed (.refl names)⟩

/-- Whether a survey still finds the latest of some times. -/
structure Covers (tree : FileTree) (directory : Location) (times : Set Time) (survey : Survey) :
    Prop where
  /-- The latest time so far is one of them. -/
  member : survey.latest ∈ times
  /-- All times below the paths to look at are among them. -/
  inside : ∀ path ∈ survey.pending, tree.timesBelow directory path ⊆ times
  /-- No other time of them has a greater number than the latest one so far. -/
  covered : ∀ time ∈ times, time.number ≤ survey.latest.number ∨
    ∃ path ∈ survey.pending, time ∈ tree.timesBelow directory path

/-- A survey begins with the time at a path, and what is below it to look at. -/
def start (tree : FileTree) (directory : Location) (path : String) : Survey :=
  ⟨tree.timeAt directory path, [path]⟩

/-- At its beginning a survey finds the latest of the times at a path and below it. -/
theorem covers_start : Covers tree directory (tree.timesAt directory path)
    (tree.start directory path) where
  member := .inl rfl
  inside other member := by
    rw [List.mem_singleton.1 member]
    exact fun _ below => .inr below
  covered time member := by
    rcases member with rfl | below
    · exact .inl le_rfl
    · exact .inr ⟨path, List.mem_singleton_self path, below⟩

/-- What a round makes of a survey still finds the latest time. -/
theorem Covers.round {times : Set Time} {before after : Survey}
    (covers : Covers tree directory times before) (round : tree.Round directory before after) :
    Covers tree directory times after := by
  cases round with
  | @closed latest path pending closed =>
    refine ⟨covers.member, fun other member => covers.inside other (List.mem_cons_of_mem path member),
      fun time member => ?_⟩
    rcases covers.covered time member with less | ⟨other, waiting, below⟩
    · exact .inl less
    · rcases List.mem_cons.1 waiting with rfl | behind
      · obtain ⟨names, listed⟩ := listing?_of_mem_timesBelow below
        rw [closed] at listed
        cases listed
      · exact .inr ⟨other, behind, below⟩
  | @listed latest path pending names order listed any =>
    rw [foldl_meet]
    have own {time : Time} : time ∈ tree.timesBelow directory path ↔ _ :=
      mem_timesBelow_iff_met listed any
    have inside := covers.inside path List.mem_cons_self
    refine ⟨?_, fun inner member => ?_, fun time member => ?_⟩
    · rcases List.mem_cons.1 (Time.foldl_later_mem latest _) with same | new
      · rw [same]
        exact covers.member
      · exact inside (own.2 (.inl new))
    · rcases List.mem_append.1 member with pushed | waiting
      · exact fun _ below => inside (own.2 (.inr ⟨inner, List.mem_reverse.1 pushed, below⟩))
      · exact covers.inside inner (List.mem_cons_of_mem path waiting)
    · rcases covers.covered time member with less | ⟨other, waiting, below⟩
      · exact .inl (less.trans (Time.number_le_foldl_later List.mem_cons_self))
      · rcases List.mem_cons.1 waiting with rfl | behind
        · rcases own.1 below with met | ⟨inner, met, deeper⟩
          · exact .inl (Time.number_le_foldl_later (List.mem_cons_of_mem latest met))
          · exact .inr ⟨inner, List.mem_append_left _ (List.mem_reverse.2 met), deeper⟩
        · exact .inr ⟨other, List.mem_append_right _ behind, below⟩

/-- A survey that has come to its end has found the latest time. -/
theorem Covers.isLatest {times : Set Time} {survey : Survey}
    (covers : Covers tree directory times survey) (ended : survey.pending = []) :
    Time.IsLatest times survey.latest := by
  refine ⟨covers.member, fun time member => ?_⟩
  rcases covers.covered time member with less | ⟨path, waiting, _⟩
  · exact less
  · rw [ended] at waiting
    cases waiting

/-- However many rounds a survey has gone, it finds the latest of the times at its path and below it. -/
theorem covers_of_rounds {survey : Survey}
    (rounds : Relation.ReflTransGen (tree.Round directory) (tree.start directory path) survey) :
    Covers tree directory (tree.timesAt directory path) survey := by
  induction rounds with
  | refl => exact covers_start
  | tail _ round ih => exact ih.round round

/-! ## The law of snapshots -/

/-- What a snapshot is the latest of. -/
structure SnapshotLaw (tree : FileTree) (directory : Location) (path : String) : Prop where
  /-- The time at a path is that of what stands where it leads, or zero where that time cannot be read. -/
  own : ∀ location spared entry modified,
    tree.locate directory path = .ok (location, spared) → tree.get? location = some entry →
      entry.modified? = some modified →
        tree.timeAt directory path = if location ∈ tree.untimed then 0 else modified
  /-- The snapshot of a file is the time at its path. -/
  file : tree.isFile directory path = true → tree.snapshot directory path = tree.timeAt directory path
  /-- The snapshot of a directory is the latest of the time at its path and the times of what the paths below
  it lead to. -/
  folder : tree.isDirectory directory path = true →
    Time.IsLatest (tree.timesAt directory path) (tree.snapshot directory path)
  /-- The snapshot of a path that leads to neither of them is zero. -/
  nowhere : tree.isFile directory path = false → tree.isDirectory directory path = false →
    tree.snapshot directory path = 0
  /-- There are no surveys without an end. -/
  halts : WellFounded fun after before => tree.Round directory before after
  /-- A survey ends only where there is nothing left to be looked at. -/
  goesOn : ∀ survey : Survey, survey.pending ≠ [] → ∃ after, tree.Round directory survey after
  /-- A survey of a directory that has ended found the time of the snapshot, in whatever order the names of
  each directory were met. -/
  ends : tree.isDirectory directory path = true → ∀ survey : Survey,
    Relation.ReflTransGen (tree.Round directory) (tree.start directory path) survey →
      survey.pending = [] → survey.latest.number = (tree.snapshot directory path).number

/-- Snapshots obey their law: in every tree, with links that lead nowhere, that several paths share or that
lead back to a directory that they stand in, and with directories that cannot be listed. The names in the
tree are proper ones, and looking up a path fails once it follows more than a fixed number of links. -/
theorem snapshot_is_latest (tree : FileTree) (proper : tree.HasProperNames) (directory : Location)
    (path : String) : SnapshotLaw tree directory path where
  own location spared entry modified found stands known := by
    rw [timeAt, found]
    simp only [stands, Option.bind_some, known, Option.getD_some, List.contains_eq_mem, decide_eq_true_eq]
  file := snapshot_file
  folder := snapshot_directory proper
  nowhere := snapshot_nowhere
  halts := round_wellFounded proper directory
  goesOn _ := exists_round tree directory
  ends isFolder survey rounds ended :=
    ((covers_of_rounds rounds).isLatest ended).number_eq (snapshot_directory proper isFolder)

/-- A directory with a file, a directory that cannot be listed, a link that leads nowhere and a link that leads
back to the directory that it stands in. -/
def loopTree : FileTree where
  entries := [([], .directory 0), (["w"], .directory 1000000000),
    (["w", "f"], .file 3000000000 [] false), (["w", "s"], .directory 2000000000),
    (["w", "n"], .link "/x"), (["w", "l"], .link "/w")]
  unreadable := [["w", "s"]]

/-- The directory has a snapshot that is not less than the time of its file, which is also met behind the link,
and surveys of it come to an end. -/
theorem loopTree_snapshot_is_latest :
    loopTree.HasProperNames ∧ loopTree.isDirectory [] "/w" = true ∧
      loopTree.Below [] "/w" "/w/l/f" ∧ loopTree.time? [] "/w/l/f" = some 3000000000 ∧
      Time.number 3000000000 ≤ (loopTree.snapshot [] "/w").number ∧
      WellFounded fun after before => loopTree.Round [] before after := by
  have proper : loopTree.HasProperNames := by decide +kernel
  have folder : loopTree.isDirectory [] "/w" = true := by decide +kernel
  have listed : loopTree.listing? [] "/w" = some ["f", "s", "n", "l"] := by decide +kernel
  have listedAgain : loopTree.listing? [] "/w/l" = some ["f", "s", "n", "l"] := by decide +kernel
  have back : loopTree.status [] (pathIn "/w" "l") = .ok (.directory 1000000000) := by decide +kernel
  have again : loopTree.status [] (pathIn "/w/l" "f") = .ok (.file 3000000000 [] false) := by
    decide +kernel
  have below : loopTree.Below [] "/w" "/w/l/f" :=
    .head (.name listed (by decide) back) (.single (.name listedAgain (by decide) again))
  have found : loopTree.time? [] "/w/l/f" = some 3000000000 := by decide +kernel
  have law := snapshot_is_latest loopTree proper [] "/w"
  exact ⟨proper, folder, below, found, (law.folder folder).greatest _ (.inr ⟨_, below, found⟩), law.halts⟩

end LiveConsole.FileTree
