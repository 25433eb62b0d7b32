import LiveConsole.Actions.Runs

/-!
# Merging runs keeps all items

Whatever a comparison says of two items, sorting by merging runs only moves items. Each step takes some of
them from the front of one list and puts them into another, so no item is lost and none comes twice.
-/
namespace LiveConsole.Runs

open List (Perm)
open scoped List

variable {Item : Type} (precedes : Item → Item → Bool)

/-! ## Runs -/

/-- Items are divided, none of them moved. -/
theorem rising_append (previous : Item) (items : List Item) :
    (rising precedes previous items).1 ++ (rising precedes previous items).2 = items := by
  induction items generalizing previous with
  | nil => rfl
  | cons next rest ih =>
    unfold rising
    split
    · rfl
    · simp only [List.cons_append, ih next]

/-- Items are divided, none of them moved. -/
theorem falling_append (previous : Item) (items : List Item) :
    (falling precedes previous items).1 ++ (falling precedes previous items).2 = items := by
  induction items generalizing previous with
  | nil => rfl
  | cons next rest ih =>
    unfold falling
    split
    · simp only [List.cons_append, ih next]
    · rfl

/-- The run at the head and the items behind it are all items. -/
theorem ordered_perm (items : List Item) :
    Perm ((ordered precedes items).1 ++ (ordered precedes items).2) items := by
  unfold ordered
  split
  · rename_i earlier later rest
    split
    · have divided := falling_append precedes later rest
      have turned := List.reverse_perm (earlier :: later :: (falling precedes later rest).1)
      simp only
      refine (turned.append_right _).trans (Perm.of_eq ?_)
      rw [List.cons_append, List.cons_append, divided]
    · simp only [List.cons_append, rising_append]
      exact Perm.refl _
  · simp

/-- The run at the head of some items has an item. -/
theorem length_ordered_pos {items : List Item} (filled : items ≠ []) :
    0 < (ordered precedes items).1.length := by
  unfold ordered
  split
  · split
    · simp
    · simp
  · exact List.length_pos_iff.2 filled

/-- An item is put into a run. -/
theorem insert_perm (run : List Item) (item : Item) : Perm (insert precedes run item) (item :: run) := by
  unfold insert
  refine List.perm_middle.trans (Perm.of_eq ?_)
  rw [List.take_append_drop]

/-- Items are put into a run one by one. -/
theorem foldl_insert_perm (run items : List Item) :
    Perm (items.foldl (insert precedes) run) (run ++ items) := by
  induction items generalizing run with
  | nil => simp
  | cons item items ih =>
    rw [List.foldl_cons]
    refine (ih _).trans (((insert_perm precedes run item).append_right items).trans ?_)
    exact List.perm_middle.symm

/-! ## Merging two runs -/

namespace Merge

/-- The items of a merge: those that are merged, and what is left of both runs. -/
def items (merge : Merge Item) : List Item := merge.merged ++ (merge.left ++ merge.right)

variable (merge : Merge Item)

/-- Moving items keeps them all. -/
theorem items_take (fromLeft : Bool) (count : Nat) : Perm (merge.take fromLeft count).items merge.items := by
  unfold take items
  cases fromLeft with
  | true =>
    have whole : merge.left.take count ++ merge.left.drop count = merge.left := List.take_append_drop _ _
    calc (merge.left.take count).reverse ++ merge.merged ++ (merge.left.drop count ++ merge.right)
      _ ~ merge.merged ++ merge.left.take count ++ (merge.left.drop count ++ merge.right) :=
        ((List.reverse_perm _).append_right _ |>.trans List.perm_append_comm).append_right _
      _ = merge.merged ++ (merge.left ++ merge.right) := by
        rw [List.append_assoc, ← List.append_assoc (List.take _ _), whole]
  | false =>
    have whole : merge.right.take count ++ merge.right.drop count = merge.right :=
      List.take_append_drop _ _
    calc (merge.right.take count).reverse ++ merge.merged ++ (merge.left ++ merge.right.drop count)
      _ ~ merge.merged ++ merge.right.take count ++ (merge.left ++ merge.right.drop count) :=
        ((List.reverse_perm _).append_right _ |>.trans List.perm_append_comm).append_right _
      _ ~ merge.merged ++ (merge.left ++ (merge.right.take count ++ merge.right.drop count)) := by
        rw [List.append_assoc]
        refine Perm.append_left _ ?_
        rw [← List.append_assoc, ← List.append_assoc]
        exact List.perm_append_comm.append_right _
      _ = merge.merged ++ (merge.left ++ merge.right) := by rw [whole]

/-- Taking strides keeps all items. -/
theorem items_takeStrides : Perm (takeStrides precedes merge).2.items merge.items := by
  unfold takeStrides
  dsimp only
  have first := items_take merge true (winningLeft precedes merge)
  split
  · exact first
  · have second := (items_take _ false 1).trans first
    split
    · exact second
    · have third := fun count => (items_take _ false count).trans second
      split
      · exact third _
      · exact (items_take _ true 1).trans (third _)

/-- Merging keeps all items. -/
theorem items_go (steps : Nat) (won : Option (Nat × Nat)) : Perm (go precedes steps won merge).items merge.items := by
  induction steps generalizing won merge with
  | zero => exact Perm.refl _
  | succ steps ih =>
    rcases won with _ | ⟨wonLeft, wonRight⟩
    · have strides := items_takeStrides precedes { merge with patience := max 1 (merge.patience - 1) }
      simp only [go]
      split
      · exact strides
      · split
        · exact (ih _ _).trans strides
        · exact (ih _ _).trans strides
    · simp only [go]
      split
      · split
        · exact Perm.refl _
        · rename_i left _ right _ _ _ _
          have taken := items_take merge (precedes right left == merge.backward) 1
          generalize merge.take (precedes right left == merge.backward) 1 = next at taken ⊢
          generalize (if (precedes right left == merge.backward) = true then (wonLeft + 1, 0)
            else (0, wonRight + 1)) = won
          split
          · exact taken
          · split
            · exact (ih { next with patience := next.patience + 1 } _).trans taken
            · exact (ih next _).trans taken
      · exact Perm.refl _

/-- The merged run has all items. -/
theorem result_perm : Perm merge.result merge.items := by
  unfold result items
  split
  · calc merge.right.reverse ++ merge.left.reverse ++ merge.merged
      _ ~ merge.right ++ merge.left ++ merge.merged :=
        ((List.reverse_perm _).append (List.reverse_perm _)).append_right _
      _ ~ merge.left ++ merge.right ++ merge.merged := List.perm_append_comm.append_right _
      _ ~ merge.merged ++ (merge.left ++ merge.right) := List.perm_append_comm
  · calc merge.merged.reverse ++ merge.right ++ merge.left
      _ ~ merge.merged ++ merge.right ++ merge.left :=
        ((List.reverse_perm _).append_right _).append_right _
      _ = merge.merged ++ (merge.right ++ merge.left) := List.append_assoc _ _ _
      _ ~ merge.merged ++ (merge.left ++ merge.right) := List.perm_append_comm.append_left _

end Merge

/-- Runs that reach into each other are merged into one with the items of both. -/
theorem mergeInner_perm (patience : Nat) (left right : List Item) :
    Perm (mergeInner precedes patience left right).1 (left ++ right) := by
  unfold mergeInner
  dsimp only
  have begun : Perm
      (if left.length ≤ right.length then (Merge.mk false left right [] patience).take false 1
        else (Merge.mk true left.reverse right.reverse [] patience).take true 1).items (left ++ right) := by
    split
    · exact Merge.items_take _ _ _
    · refine (Merge.items_take _ _ _).trans ?_
      exact (List.reverse_perm _).append (List.reverse_perm _)
  generalize (if left.length ≤ right.length then (Merge.mk false left right [] patience).take false 1
    else (Merge.mk true left.reverse right.reverse [] patience).take true 1) = merge at begun ⊢
  refine (Merge.result_perm _).trans ?_
  split
  · exact begun
  · exact (Merge.items_go precedes _ _ _).trans begun

/-- Neighbouring runs are merged into one with the items of both. -/
theorem mergeRuns_perm (patience : Nat) (left right : List Item) :
    Perm (mergeRuns precedes patience left right).1 (left ++ right) := by
  unfold mergeRuns
  split
  · simp
  · rename_i first rest
    dsimp only
    generalize countFrom (fun item => !precedes first item) left.toArray 0 = stays
    have parted : left.take stays ++ left.drop stays = left := List.take_append_drop _ _
    split
    · rename_i none
      rw [List.getLast?_eq_none_iff] at none
      rw [none, List.append_nil] at parted
      rw [parted]
    · rename_i last _
      generalize countFrom (fun item => precedes item last) (first :: rest).toArray _ = count
      split
      · rw [parted]
      · have merged := mergeInner_perm precedes patience (left.drop stays) ((first :: rest).take count)
        generalize mergeInner precedes patience (left.drop stays) ((first :: rest).take count) = found
          at merged ⊢
        calc left.take stays ++ found.1 ++ (first :: rest).drop count
          _ ~ left.take stays ++ (left.drop stays ++ (first :: rest).take count) ++
              (first :: rest).drop count := (merged.append_left _).append_right _
          _ = left ++ (first :: rest) := by
            rw [← List.append_assoc, parted, List.append_assoc, List.take_append_drop]

/-! ## Merging all runs -/

namespace Stack

/-- The items of the runs that wait, those of the last run first. -/
def items (stack : Stack Item) : List Item := (stack.runs.map Waiting.items).flatten

variable (stack : Stack Item)

/-- Merging the last two runs keeps all items, and some run waits afterwards if one did before. -/
theorem items_mergeLast :
    Perm (mergeLast precedes stack).items stack.items ∧
      (stack.runs ≠ [] → (mergeLast precedes stack).runs ≠ []) := by
  unfold mergeLast
  split
  · rename_i right left rest waiting
    have merged := mergeRuns_perm precedes stack.patience left.items right.items
    generalize mergeRuns precedes stack.patience left.items right.items = found at merged ⊢
    refine ⟨?_, fun _ => by simp⟩
    simp only [items, waiting, List.map_cons, List.flatten_cons]
    rw [← List.append_assoc]
    exact (merged.trans List.perm_append_comm).append_right _
  · exact ⟨Perm.refl _, id⟩

/-- Merging the two runs in front of the last one keeps all items. -/
theorem items_mergeInFront : Perm (mergeInFront precedes stack).items stack.items := by
  unfold mergeInFront
  split
  · rename_i last rest waiting
    have inner := (items_mergeLast precedes ⟨rest, stack.patience⟩).1
    simp only [items, waiting, List.map_cons, List.flatten_cons] at inner ⊢
    exact inner.append_left _
  · exact Perm.refl _

/-- Merging the runs with deep boundaries keeps all items, and some run waits afterwards if one did
before. -/
theorem items_settle (depth count : Nat) :
    Perm (settle precedes depth count stack).items stack.items ∧
      (stack.runs ≠ [] → (settle precedes depth count stack).runs ≠ []) := by
  induction count generalizing stack with
  | zero => exact ⟨Perm.refl _, id⟩
  | succ count ih =>
    unfold settle
    split
    · split
      · obtain ⟨merged, waits⟩ := items_mergeLast precedes stack
        obtain ⟨settled, stillWaits⟩ := ih (mergeLast precedes stack)
        exact ⟨settled.trans merged, fun waiting => stillWaits (waits waiting)⟩
      · exact ⟨Perm.refl _, id⟩
    · exact ⟨Perm.refl _, id⟩

/-- Putting a run behind those that wait adds its items. -/
theorem items_push (total start : Nat) (run : List Item) :
    Perm (push precedes total start run stack).items (run ++ stack.items) := by
  unfold push
  split
  · rename_i empty
    simp [items, empty]
  · rename_i last rest waiting
    dsimp only
    generalize boundaryDepth total (2 * total) (2 * last.start + last.items.length) _ = depth
    obtain ⟨settled, waits⟩ := items_settle precedes stack depth stack.runs.length
    split
    · rename_i last others found
      have same : (settle precedes depth stack.runs.length stack).items =
          last.items ++ (others.map Waiting.items).flatten := by
        rw [items, found, List.map_cons, List.flatten_cons]
      rw [same] at settled
      simp only [items, List.map_cons, List.flatten_cons] at settled ⊢
      exact settled.append_left _
    · rename_i none
      exact absurd none (waits (by rw [waiting]; simp))

/-- Merging all runs that wait keeps all items. -/
theorem items_collapse (count : Nat) : Perm (collapse precedes count stack).items stack.items := by
  induction count generalizing stack with
  | zero => exact Perm.refl _
  | succ count ih =>
    unfold collapse
    split
    · split
      · exact (ih _).trans (items_mergeInFront precedes stack)
      · exact (ih _).trans (items_mergeLast precedes stack).1
    · exact (ih _).trans (items_mergeLast precedes stack).1

end Stack

/-- Cutting items into runs keeps all items. Each run takes at least one of them, so that as many runs as
there are items are enough. -/
theorem items_cut (total least : Nat) {runs : Nat} (start : Nat) {items : List Item} (stack : Stack Item)
    (enough : items.length ≤ runs) :
    Perm (cut precedes total least runs start items stack).items (items ++ stack.items) := by
  induction runs generalizing start items stack with
  | zero =>
    obtain rfl : items = [] := List.length_eq_zero_iff.1 (Nat.le_zero.1 enough)
    exact Perm.refl _
  | succ runs ih =>
    cases items with
    | nil => exact Perm.refl _
    | cons first rest =>
      have divided := ordered_perm precedes (first :: rest)
      have taken := length_ordered_pos precedes (List.cons_ne_nil first rest)
      simp only [cut]
      generalize ordered precedes (first :: rest) = parts at divided taken ⊢
      obtain ⟨run, behind⟩ := parts
      simp only at divided taken ⊢
      generalize least - run.length = missing
      have filled := foldl_insert_perm precedes run (behind.take missing)
      generalize (behind.take missing).foldl (insert precedes) run = full at filled ⊢
      have length := divided.length_eq
      have fewer : (behind.drop missing).length ≤ runs := by
        simp only [List.length_append, List.length_cons, List.length_drop] at length enough ⊢
        omega
      refine (ih _ _ fewer).trans ?_
      calc behind.drop missing ++ (stack.push precedes total start full).items
        _ ~ behind.drop missing ++ (full ++ stack.items) := (Stack.items_push precedes _ _ _ _).append_left _
        _ ~ full ++ behind.drop missing ++ stack.items := by
          rw [← List.append_assoc]
          exact List.perm_append_comm.append_right _
        _ ~ run ++ behind.take missing ++ behind.drop missing ++ stack.items :=
          (filled.append_right _).append_right _
        _ = run ++ behind ++ stack.items := by rw [List.append_assoc run, List.take_append_drop]
        _ ~ first :: rest ++ stack.items := divided.append_right _

/-- Sorting only moves items, whatever the comparison says. -/
theorem sort_perm (items : List Item) : Perm (sort precedes items) items := by
  unfold sort
  have collapsed := Stack.items_collapse precedes
    (cut precedes items.length (leastRun items.length items.length 0) items.length 0 items
      ⟨[], Merge.worthwhile⟩)
    (cut precedes items.length (leastRun items.length items.length 0) items.length 0 items
      ⟨[], Merge.worthwhile⟩).runs.length
  have cutUp := items_cut precedes items.length (leastRun items.length items.length 0) 0
    ⟨[], Merge.worthwhile⟩ (Nat.le_refl items.length)
  refine collapsed.trans (cutUp.trans (Perm.of_eq ?_))
  rw [Stack.items, List.map_nil, List.flatten_nil, List.append_nil]

end LiveConsole.Runs
