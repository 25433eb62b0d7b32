import LiveConsole.Proofs.Dump.Outline

/-!
# Dumps at a depth

A dump at a depth goes behind any lines written before and starts from any containers taken as opened. The
main statement is that neither the depth nor those lines change what it does: it writes the lines of the
dump at depth zero, each further in by two blanks for every level, and leaves the same containers opened.
These are the ones given and those with entries that it has opened itself.
-/
namespace LiveConsole.Dump

/-! ## Lines further in -/

/-- A line further in has as many blanks more in front of its text. -/
theorem Line.render_shift (showIdent : Ident → String) (blanks : Nat) (line : Line) :
    (line.shift blanks).render showIdent =
      String.ofList (List.replicate blanks ' ') ++ line.render showIdent := by
  rw [render, render, shift, Nat.add_comm, ← List.replicate_append_replicate, String.ofList_append,
    String.append_assoc]

mutual

/-- A visit at a greater depth has the same lines, further in. -/
theorem Outline.lines_further (heap : Heap) (further depth : Nat) : ∀ visit : Outline,
    visit.lines heap (further + depth) = (visit.lines heap depth).map (Line.shift (2 * further))
  | plain value => by simp [lines, Line.shift, Nat.mul_add, Nat.add_comm]
  | again identity => by simp [lines, Line.shift, Nat.mul_add, Nat.add_comm]
  | opened identity cell inside => by
    have within := linesOfAll_further heap further (depth + 1) inside
    rw [← Nat.add_assoc] at within
    simp [lines, Line.shift, Nat.mul_add, Nat.add_comm, within]

/-- Labelled visits at a greater depth have the same lines, further in. -/
theorem Outline.linesOfAll_further (heap : Heap) (further depth : Nat) :
    ∀ inside : List (String × Outline), linesOfAll heap (further + depth) inside =
      (linesOfAll heap depth inside).map (Line.shift (2 * further))
  | [] => rfl
  | (label, visit) :: rest => by
    have first := lines_further heap further depth visit
    have later := linesOfAll_further heap further depth rest
    simp [linesOfAll, Line.shift, Nat.mul_add, Nat.add_comm, first, later]

end

/-! ## Containers that are opened -/

/-- Behind some visits the containers opened are those from before and those with entries that the visits
open. -/
theorem mem_afterAll {identity : Ident} {opened : List Ident} {visits : List Outline} :
    identity ∈ afterAll opened visits ↔ identity ∈ opened ∨
      ∃ cell inside, Outline.opened identity cell inside ∈ visits ∧ cell.size ≠ 0 := by
  induction visits generalizing opened with
  | nil => simp [afterAll]
  | cons visit rest ih =>
    rw [afterAll, List.foldl_cons]
    refine ih.trans ?_
    cases visit with
    | plain value => simp [Outline.after]
    | again other => simp [Outline.after]
    | opened other cell inside =>
      rw [Outline.after, mem_marked]
      simp only [List.mem_cons, Outline.opened.injEq]
      constructor
      · rintro ((⟨rfl, some⟩ | known) | ⟨cell, inside, later, some⟩)
        · exact .inr ⟨cell, inside, .inl ⟨rfl, rfl, rfl⟩, some⟩
        · exact .inl known
        · exact .inr ⟨cell, inside, .inr later, some⟩
      · rintro (known | ⟨cell, inside, ⟨rfl, rfl, rfl⟩ | later, some⟩)
        · exact .inl (.inr known)
        · exact .inl (.inl ⟨rfl, some⟩)
        · exact .inr ⟨cell, inside, later, some⟩

/-! ## Dumps at any depth -/

/--
A dump at a depth, behind any lines and any containers taken as opened, is the dump at depth zero behind no
lines, further in by two blanks for every level. It leaves the same containers opened, at any depth and
behind any lines: the ones given, and those with entries that it opens, as its lines tell. This is so with
any room for more containers than are left unopened.
-/
theorem append_further_in (heap : Heap) (value : Value) (opened : List Ident) :
    ∃ visit : Outline, visit.value = value ∧ InOrder opened visit.visits ∧
      (∀ inner ∈ visit.visits, inner.Suits heap) ∧
      ∀ room, unopened heap opened < room →
        let alone := append heap room 0 value ⟨#[], opened⟩
        (∀ depth written, append heap room depth value ⟨written, opened⟩ =
          ⟨written ++ alone.lines.map (Line.shift (2 * depth)), alone.opened⟩) ∧
        (∀ showIdent depth, ∀ line ∈ alone.lines, (line.shift (2 * depth)).render showIdent =
          String.ofList (List.replicate (2 * depth) ' ') ++ line.render showIdent) ∧
        alone.lines.toList = visit.lines heap 0 ∧
        opened ⊆ alone.opened ∧
        ∀ identity, identity ∈ alone.opened ↔ identity ∈ opened ∨
          ∃ cell inside, Outline.opened identity cell inside ∈ visit.visits ∧ cell.size ≠ 0 := by
  obtain ⟨visit, final, made, suit⟩ := exists_visit heap value opened
  obtain ⟨order, opens⟩ := made.inOrder
  rw [Outline.visitsOfAll_single] at order opens
  refine ⟨visit, by simpa using made.map_value, order, suit, fun room enough => ?_⟩
  have written : ∀ depth lines, append heap room depth value ⟨lines, opened⟩ =
      ⟨lines ++ ((visit.lines heap 0).map (Line.shift (2 * depth))).toArray, final⟩ := by
    intro depth lines
    have behind := made.append_eq suit enough depth lines.toList
    rw [Array.toArray_toList, ← List.append_toArray, Array.toArray_toList] at behind
    rw [behind, ← visit.lines_further heap depth 0, Nat.add_zero]
  have alone : append heap room 0 value ⟨#[], opened⟩ = ⟨(visit.lines heap 0).toArray, final⟩ := by
    simpa using made.append_eq suit enough 0 []
  rw [alone]
  refine ⟨fun depth lines => ?_, fun showIdent depth line _ => line.render_shift showIdent _, rfl,
    made.subset, fun identity => ?_⟩
  · rw [written, List.map_toArray]
  · rw [← opens]
    exact mem_afterAll

end LiveConsole.Dump
