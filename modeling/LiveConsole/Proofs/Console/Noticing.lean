import LiveConsole.Proofs.Console.Watching
import LiveConsole.Proofs.FileTree.Touch

/-!
# Changes that a watch notices

A watch knows a directory by one number only, the latest time at it and below it. So where a single file
takes on another time, the watch notices it just if one of the two times of the file is later than everything
else there. A file that is and stays older than another one may change as it likes.
-/
namespace LiveConsole.Watch

variable {environment : Environment} {tree later : FileTree} {directory place : Location}
variable {text inner : String} {watch : Watch} {old new : Time} {spared : Nat}

/-- A watch on a directory notices that a file at it or below it has taken on another time just if one of the
two times of the file is later than the time of the directory and those of everything else below it. -/
theorem notices_touched_file_iff (armed : Watch.arm environment tree directory text = .ok watch)
    (proper : tree.HasProperNames) (folder : tree.isDirectory directory watch.path.text = true)
    (touches : FileTree.Touches tree later place old new)
    (reached : tree.Below directory watch.path.text inner)
    (leads : tree.locate directory inner = .ok (place, spared)) (differ : old.number ≠ new.number)
    (elsewhere : Location) :
    watch.hasChanged later elsewhere = true ↔
      ∀ other ∈ tree.otherTimes directory watch.path.text place,
        other.number < max old.number new.number := by
  obtain ⟨rooted, stamp⟩ := stamp_of_arm armed
  have before := FileTree.snapshot_directory proper folder
  have after := FileTree.snapshot_directory (touches.hasProperNames proper) (touches.isDirectory_eq folder)
  have own : tree.timesAt directory watch.path.text =
      {time | time = old ∨ time ∈ tree.otherTimes directory watch.path.text place} :=
    Set.ext fun time => touches.mem_timesAt_iff reached leads
  have ownLater : later.timesAt directory watch.path.text =
      {time | time = new ∨ time ∈ tree.otherTimes directory watch.path.text place} := by
    rw [← touches.otherTimes_eq folder]
    exact Set.ext fun time => touches.symm.mem_timesAt_iff (touches.below reached)
      ((touches.locate_eq directory inner).trans leads)
  rw [own] at before
  rw [ownLater] at after
  rw [hasChanged_iff, rooted.snapshot elsewhere directory, stamp, ne_comm]
  exact Time.latest_ne_iff before after differ

/-! ## A directory with two files -/

/-- A directory with an older and a newer file. -/
def agedTree : FileTree where
  entries := [([], .directory 0), (["d"], .directory 1000000000000),
    (["d", "new.py"], .file 5000000000000 [] false), (["d", "old.py"], .file 1000000000000 [] false)]

/-- The watch on the directory. -/
def agedWatch : Watch := ⟨.ofLocation ["d"], 5000000000000⟩

/-- The watch on the directory can be set up. -/
theorem agedWatch_armed : arm ⟨[], none, []⟩ agedTree [] "d" = .ok agedWatch := by decide +kernel

/-- Both files stand in the directory. -/
theorem agedTree_listing : agedTree.listing? [] "/d" = some ["new.py", "old.py"] := by decide +kernel

/-- That the newer file takes on the time of the older one is noticed, though no time has risen. -/
theorem newer_change_noticed :
    arm ⟨[], none, []⟩ agedTree [] "d" = .ok agedWatch ∧ agedTree.HasProperNames ∧
      Time.number 5000000000000 ≠ Time.number 1000000000000 ∧
      let later := agedTree.put ["d", "new.py"] (.file 1000000000000 [] false)
      agedWatch.hasChanged later [] = true ∧
        ∀ other ∈ agedTree.otherTimes [] "/d" ["d", "new.py"],
          other.number < max (Time.number 5000000000000) (Time.number 1000000000000) := by
  have proper : agedTree.HasProperNames := by decide +kernel
  have differ : Time.number 5000000000000 ≠ Time.number 1000000000000 := fun same =>
    absurd ((Time.isSame_iff 5000000000000 1000000000000).2 same) (by decide +kernel)
  have found : agedTree.status [] (FileTree.pathIn "/d" "new.py") = .ok (.file 5000000000000 [] false) := by
    decide +kernel
  have leads : agedTree.locate [] "/d/new.py" = .ok (["d", "new.py"], 40) := by decide +kernel
  have noticed : agedWatch.hasChanged (agedTree.put ["d", "new.py"] (.file 1000000000000 [] false)) [] =
      true := by decide +kernel
  exact ⟨agedWatch_armed, proper, differ, noticed,
    (notices_touched_file_iff agedWatch_armed proper (by decide +kernel) (FileTree.touches_put rfl)
      (.single (.name agedTree_listing (by decide) found)) leads differ []).1 noticed⟩

/-- It is not so that every change of the time of a file below a directory under watch is noticed: the older
file may take on another time that is not later than that of the newer one. -/
theorem older_change_unnoticed :
    ¬∀ (environment : Environment) (tree later : FileTree) (directory place : Location)
      (text inner : String) (watch : Watch) (old new : Time) (spared : Nat),
      arm environment tree directory text = .ok watch → tree.HasProperNames →
        tree.isDirectory directory watch.path.text = true → FileTree.Touches tree later place old new →
          tree.Below directory watch.path.text inner →
            tree.locate directory inner = .ok (place, spared) → old.number ≠ new.number →
              watch.hasChanged later directory = true := by
  intro always
  have differ : Time.number 1000000000000 ≠ Time.number 2000000000000 := fun same =>
    absurd ((Time.isSame_iff 1000000000000 2000000000000).2 same) (by decide +kernel)
  have found : agedTree.status [] (FileTree.pathIn "/d" "old.py") = .ok (.file 1000000000000 [] false) := by
    decide +kernel
  have noticed := always ⟨[], none, []⟩ agedTree
    (agedTree.put ["d", "old.py"] (.file 2000000000000 [] false)) [] ["d", "old.py"] "d" "/d/old.py"
    agedWatch 1000000000000 2000000000000 40 agedWatch_armed (by decide +kernel) (by decide +kernel)
    (FileTree.touches_put rfl) (.single (.name agedTree_listing (by decide) found)) (by decide +kernel)
    differ
  have unnoticed : agedWatch.hasChanged
      (agedTree.put ["d", "old.py"] (.file 2000000000000 [] false)) [] = false := by decide +kernel
  rw [unnoticed] at noticed
  cases noticed

end LiveConsole.Watch
