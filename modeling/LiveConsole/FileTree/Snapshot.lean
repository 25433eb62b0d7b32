import LiveConsole.FileTree.Walk

/-!
# Snapshots of modification times

The snapshot of a file is its time. The snapshot of a directory is the newest of its own time and the
times at all paths below it that lead somewhere, links followed, through directories that can be
listed. Each of these paths is looked up as a whole. Since a walk follows a bounded number of links, a
directory that contains itself through a link has only finitely many such paths. The directories that
cannot be listed are met on the way, those that stand later in their directory first.
-/
namespace LiveConsole.FileTree

/-- What is met at a path below a directory. -/
inductive Sight where
  /-- Something that was modified at a time. -/
  | time (modified : Time)
  /-- A directory that cannot be listed, by the path that it was reached on. -/
  | closed (path : String)
  deriving DecidableEq, Repr

/-- The path of a name in a directory. -/
def pathIn (directory name : String) : String :=
  if directory.toList.getLast? = some '/' then directory ++ name else directory ++ "/" ++ name

/-- The names in the directory that a path leads to, if it can be listed. -/
def listing? (tree : FileTree) (directory : Location) (path : String) : Option (List String) :=
  match tree.locate directory path with
  | .error _ => none
  | .ok (location, _) =>
    match tree.get? location with
    | some (.directory _) =>
      if tree.allowsReading location then some ((tree.children location).map Prod.fst) else none
    | _ => none

/-- What is met at the paths below a directory that go on by so many names at most. -/
def sightsBelow (tree : FileTree) (directory : Location) : Nat → String → List Sight
  | 0, _ => []
  | names + 1, path =>
    match tree.listing? directory path with
    | none => [.closed path]
    | some found =>
      found.reverse.flatMap fun name =>
        let inner := pathIn path name
        match tree.status directory inner with
        | .ok (.file modified ..) => [.time modified]
        | .ok (.directory modified) => .time modified :: sightsBelow tree directory names inner
        | _ => []

/-- No path goes on by more names: each of them leads further down or follows a link. -/
def mostNames (tree : FileTree) : Nat := (maxLinks + 1) * (tree.depth + 1)

/-- The time of what a path leads to; zero when it cannot be read. -/
def timeAt (tree : FileTree) (directory : Location) (path : String) : Time :=
  match tree.locate directory path with
  | .error _ => 0
  | .ok (location, _) =>
    if tree.untimed.contains location then 0
    else ((tree.get? location).bind Entry.modified?).getD 0

/-- What is met at a path and below it; nothing when the path leads nowhere. -/
def sights (tree : FileTree) (directory : Location) (path : String) : List Sight :=
  if tree.isFile directory path then [.time (tree.timeAt directory path)]
  else if tree.isDirectory directory path then
    .time (tree.timeAt directory path) :: tree.sightsBelow directory tree.mostNames path
  else []

/-- The time of what is met, if it has one. -/
def Sight.time? : Sight → Option Time
  | time modified => some modified
  | closed _ => none

/-- The path of a directory that cannot be listed. -/
def Sight.closed? : Sight → Option String
  | time _ => none
  | closed path => some path

/-- The newest time at a path and below it; zero when the path leads nowhere. -/
def snapshot (tree : FileTree) (directory : Location) (path : String) : Time :=
  match (tree.sights directory path).filterMap Sight.time? with
  | [] => 0
  | own :: below => below.foldl Time.later own

/-- The directories at a path and below it that cannot be listed, in the order in which they are met. -/
def closedPaths (tree : FileTree) (directory : Location) (path : String) : List String :=
  (tree.sights directory path).filterMap Sight.closed?

end LiveConsole.FileTree
