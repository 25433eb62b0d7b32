import LiveConsole.Dump

/-!
# Dumps as trees

A dump visits values in the order in which it prints them. What it does at each visit is told here by a
tree: a value is printed on one line, or noted as opened before, or opened with its entries. Writing the
tree down line by line gives the dump, at any depth and behind any lines written before. The containers
opened so far are known from the visits made so far, and each visit is the one that they call for. As long
as there is room for one more container than are left unopened, the room plays no part.
-/
namespace LiveConsole.Dump

/-- Whether what a reference leads to is printed with a header, its entries and a closing bracket. -/
def isContainer : Cell → Bool
  | .buffer .. => false
  | _ => true

/-- The containers that are opened once another one is, the last one first; empty ones never count. -/
def marked (identity : Ident) (cell : Cell) (opened : List Ident) : List Ident :=
  if cell.size = 0 then opened else identity :: opened

/-- What a dump does with a value, and inside of it. -/
inductive Outline where
  /-- The value is printed on one line. -/
  | plain (value : Value)
  /-- A container that was opened before is noted. -/
  | again (identity : Ident)
  /-- A container is opened: its entries follow with their labels. -/
  | opened (identity : Ident) (cell : Cell) (inside : List (String × Outline))

/-- The line of a value that is printed on one. -/
def plainContent (heap : Heap) : Value → Content
  | .ref identity =>
    match heap.get? identity with
    | some (.buffer data type) =>
      .text (s!"{type.plain}({data.length}) " ++ (Value.ref identity).written heap)
    | _ => .text "None"
  | value => .text (scalarText value)

/-- What stands for a container that was opened before. -/
def recursionMark : Content := .text "*RECURSION*"

/-- The header of a container with a number of entries. -/
def headerFor (identity : Ident) (cell : Cell) (count : Nat) : Content :=
  match cell with
  | .list _ type => .text s!"{type.plain}({count}) ["
  | .tuple _ type => .text s!"{type.plain}({count}) ["
  | .dict _ type => .text (s!"{type.plain}({count}) " ++ openBrace)
  | .set _ _ _ type => .text (s!"{type.plain}({count}) " ++ openBrace)
  | .buffer _ type => .text s!"{type.plain}({count}) "
  | .object _ type => .object type identity count
  | .error _ type => .object type identity count

/-- The line in front of an entry. -/
def labelContent (label : String) : Content := .text s!"[{label}]=>"

namespace Outline

/-- The value that is visited. -/
def value : Outline → Value
  | plain value => value
  | again identity => .ref identity
  | opened identity _ _ => .ref identity

mutual

/-- The lines of a visit at a depth; a header counts the entries that follow it. -/
def lines (heap : Heap) (depth : Nat) : Outline → List Line
  | plain value => [⟨2 * depth, plainContent heap value⟩]
  | again _ => [⟨2 * depth, recursionMark⟩]
  | opened identity cell inside =>
    ⟨2 * depth, headerFor identity cell inside.length⟩ :: linesOfAll heap (depth + 1) inside ++
      [⟨2 * depth, .text (closing cell)⟩]

/-- The lines of labelled visits at a depth. -/
def linesOfAll (heap : Heap) (depth : Nat) : List (String × Outline) → List Line
  | [] => []
  | (label, visit) :: rest =>
    ⟨2 * depth, labelContent label⟩ :: visit.lines heap depth ++ linesOfAll heap depth rest

end

mutual

/-- A visit and those inside of it, in the order in which they are printed. -/
def visits : Outline → List Outline
  | plain value => [plain value]
  | again identity => [again identity]
  | opened identity cell inside => opened identity cell inside :: visitsOfAll inside

/-- Labelled visits and those inside of them, in the order in which they are printed. -/
def visitsOfAll : List (String × Outline) → List Outline
  | [] => []
  | (_, visit) :: rest => visit.visits ++ visitsOfAll rest

end

/-- The visits inside of a single labelled visit are its own. -/
theorem visitsOfAll_single (label : String) (visit : Outline) :
    visitsOfAll [(label, visit)] = visit.visits := by
  rw [visitsOfAll, visitsOfAll, List.append_nil]

/-- The containers that are opened behind a visit. -/
def after (opened : List Ident) : Outline → List Ident
  | .opened identity cell _ => marked identity cell opened
  | _ => opened

/-- Whether a visit is the one that the containers opened before call for. -/
def FitsBehind (opened : List Ident) : Outline → Prop
  | .plain _ => True
  | .again identity => identity ∈ opened
  | .opened identity _ _ => identity ∉ opened

/-- Whether a visit is the one that the heap calls for: one line for what is no container, a note only for
a container with entries, and all entries, with their labels and in their order, of one that is opened. -/
def FitsHeap (heap : Heap) : Outline → Prop
  | plain value =>
    ∀ identity cell, value = .ref identity → heap.get? identity = some cell → isContainer cell = false
  | again identity =>
    ∃ cell, heap.get? identity = some cell ∧ isContainer cell = true ∧ cell.size ≠ 0
  | opened identity cell inside =>
    heap.get? identity = some cell ∧ isContainer cell = true ∧ inside.length = cell.size ∧
      inside.map (fun entry => (entry.1, entry.2.value)) = entries heap cell

/-- Whether a visit is one that the heap may call for: as it calls for it, or a note of a container without
entries, which is right where such a container is given as opened. -/
def Suits (heap : Heap) : Outline → Prop
  | again identity => ∃ cell, heap.get? identity = some cell ∧ isContainer cell = true
  | visit => visit.FitsHeap heap

/-- A visit that the heap calls for is one that it may call for. -/
theorem FitsHeap.suits {heap : Heap} {visit : Outline} (fits : visit.FitsHeap heap) :
    visit.Suits heap := by
  cases visit with
  | again identity =>
    obtain ⟨cell, found, container, -⟩ := fits
    exact ⟨cell, found, container⟩
  | _ => exact fits

end Outline

/-- Whether opened containers are ones with entries, as the heap has them. -/
def Filled (heap : Heap) (opened : List Ident) : Prop :=
  ∀ identity ∈ opened, (Outline.again identity).FitsHeap heap

/-- The containers that are opened behind some visits. -/
def afterAll (opened : List Ident) (visits : List Outline) : List Ident := visits.foldl Outline.after opened

/-- Whether each of some visits is the one that the containers opened before call for. -/
def InOrder : List Ident → List Outline → Prop
  | _, [] => True
  | opened, visit :: rest => visit.FitsBehind opened ∧ InOrder (visit.after opened) rest

/--
What a dump does with labelled values one after another: behind some opened containers it makes visits,
which leave more containers opened. Nothing bounds the number of containers inside one another.
-/
inductive Visits (heap : Heap) :
    List (String × Value) → List Ident → List (String × Outline) → List Ident → Prop where
  /-- Nothing is left to visit. -/
  | nil (opened : List Ident) : Visits heap [] opened [] opened
  /-- What is no container is printed on one line. -/
  | plain {label value rest opened others final}
    (single : (Outline.plain value).FitsHeap heap)
    (later : Visits heap rest opened others final) :
    Visits heap ((label, value) :: rest) opened ((label, .plain value) :: others) final
  /-- A container that was opened before is noted. -/
  | again {label identity rest opened others final}
    (known : identity ∈ opened)
    (later : Visits heap rest opened others final) :
    Visits heap ((label, .ref identity) :: rest) opened ((label, .again identity) :: others) final
  /-- Another container is opened; from then on it is known, unless it is empty. -/
  | opened {label identity cell rest opened inside between others final}
    (unknown : identity ∉ opened)
    (found : heap.get? identity = some cell)
    (container : isContainer cell = true)
    (within : Visits heap (entries heap cell) (marked identity cell opened) inside between)
    (later : Visits heap rest between others final) :
    Visits heap ((label, .ref identity) :: rest) opened
      ((label, .opened identity cell inside) :: others) final

/-! ## Entries and headers -/

/-- There are as many numbers as values. -/
theorem length_numbered (values : List Value) : (numbered values).length = values.length := by
  rw [numbered, List.length_map, List.length_zipIdx]

/-- Numbering values keeps them in their order. -/
theorem values_numbered (values : List Value) : (numbered values).map (·.2) = values := by
  rw [numbered, List.map_map]
  simp [Function.comp_def]

/-- Sorting members keeps each of them. -/
theorem sortMembers_perm (heap : Heap) (members : List Value) :
    (sortMembers heap members).Perm members := by
  have sorted := (List.mergeSort_perm (members.map fun member => (member.written heap, member))
    fun left right => !(right.1 < left.1)).map (·.2)
  rw [List.map_map] at sorted
  simpa [sortMembers, Function.comp_def] using sorted

/-- The entries of a container are the values inside of it. -/
theorem entries_perm (heap : Heap) (cell : Cell) :
    ((entries heap cell).map (·.2)).Perm cell.values := by
  cases cell with
  | list items type => rw [entries, values_numbered]; exact .refl _
  | tuple items type => rw [entries, values_numbered]; exact .refl _
  | dict items type => simp [entries, Cell.values, Function.comp_def]
  | set frozen members table type =>
    rw [entries, values_numbered]
    exact sortMembers_perm heap members
  | buffer data type => exact .refl _
  | object attributes type => simp [entries, Cell.values, Function.comp_def]
  | error arguments type => exact .refl _

/-- The size of a container is the number of its entries. -/
theorem length_entries (heap : Heap) {cell : Cell} (container : isContainer cell = true) :
    (entries heap cell).length = cell.size := by
  cases cell with
  | list items type => exact length_numbered items
  | tuple items type => exact length_numbered items
  | dict items type => exact List.length_map _
  | set frozen members table type =>
    rw [entries, length_numbered]
    exact (sortMembers_perm heap members).length_eq
  | buffer data type => cases container
  | object attributes type => exact List.length_map _
  | error arguments type => rfl

/-- The header of a container counts its size. -/
theorem header_eq (identity : Ident) (cell : Cell) :
    header identity cell = headerFor identity cell cell.size := by
  cases cell <;> rfl

/-- An empty container has no entries. -/
theorem entries_eq_nil (heap : Heap) {cell : Cell} (container : isContainer cell = true)
    (empty : cell.size = 0) : entries heap cell = [] := by
  rw [← List.length_eq_zero_iff, length_entries heap container, empty]

/-! ## Opened containers -/

/-- What was opened stays opened. -/
theorem subset_marked (identity : Ident) (cell : Cell) (opened : List Ident) :
    opened ⊆ marked identity cell opened := by
  unfold marked
  split
  · exact List.Subset.refl _
  · exact List.subset_cons_self _ _

/-- What is opened once a container is: that one, if it has entries, and what was opened before. -/
theorem mem_marked {identity other : Ident} {cell : Cell} {opened : List Ident} :
    other ∈ marked identity cell opened ↔ other = identity ∧ cell.size ≠ 0 ∨ other ∈ opened := by
  unfold marked
  split
  · rename_i empty
    simp [empty]
  · rename_i some
    simp [some]

/-- A container that is opened now is one with entries, like those opened before. -/
theorem Filled.marked {heap : Heap} {opened : List Ident} (filled : Filled heap opened) {identity : Ident}
    {cell : Cell} (found : heap.get? identity = some cell) (container : isContainer cell = true) :
    Filled heap (marked identity cell opened) := by
  intro known member
  by_cases empty : cell.size = 0
  · rw [Dump.marked, if_pos empty] at member
    exact filled known member
  · rw [Dump.marked, if_neg empty] at member
    rcases List.mem_cons.1 member with rfl | member
    · exact ⟨cell, found, container, empty⟩
    · exact filled known member

/-! ## Visits one after another -/

variable {heap : Heap} {labelled : List (String × Value)} {inside : List (String × Outline)}
  {opened final : List Ident}

/-- Values are visited with their labels and in their order. -/
theorem Visits.map_value (made : Visits heap labelled opened inside final) :
    inside.map (fun entry => (entry.1, entry.2.value)) = labelled := by
  induction made with
  | nil opened => rfl
  | plain single later ih => rw [List.map_cons, ih]; rfl
  | again known later ih => rw [List.map_cons, ih]; rfl
  | opened unknown found container within later _ ih => rw [List.map_cons, ih]; rfl

/-- All entries of a container are visited. -/
theorem Visits.length_entries {cell : Cell}
    (within : Visits heap (entries heap cell) opened inside final) (container : isContainer cell = true) :
    inside.length = cell.size := by
  rw [← Dump.length_entries heap container, ← within.map_value, List.length_map]

/-- Containers that were opened stay opened. -/
theorem Visits.subset (made : Visits heap labelled opened inside final) : opened ⊆ final := by
  induction made with
  | nil opened => exact List.Subset.refl _
  | plain single later ih => exact ih
  | again known later ih => exact ih
  | opened unknown found container within later before behind =>
    exact fun identity member => behind (before (subset_marked _ _ _ member))

/-- Visits in two rows are in order when the second ones are behind the first ones. -/
theorem inOrder_append {opened : List Ident} {first second : List Outline} :
    InOrder opened (first ++ second) ↔ InOrder opened first ∧ InOrder (afterAll opened first) second := by
  induction first generalizing opened with
  | nil => simp [InOrder, afterAll]
  | cons visit first ih => simp only [List.cons_append, InOrder, ih, afterAll, List.foldl_cons, and_assoc]

/-- Each visit is the one that the containers opened before call for, and the visits tell which containers
are opened in the end. -/
theorem Visits.inOrder (made : Visits heap labelled opened inside final) :
    InOrder opened (Outline.visitsOfAll inside) ∧
      afterAll opened (Outline.visitsOfAll inside) = final := by
  induction made with
  | nil opened => exact ⟨trivial, rfl⟩
  | plain single later ih => exact ⟨⟨trivial, ih.1⟩, ih.2⟩
  | again known later ih => exact ⟨⟨known, ih.1⟩, ih.2⟩
  | opened unknown found container within later before behind =>
    rw [Outline.visitsOfAll, Outline.visits, List.cons_append]
    refine ⟨⟨unknown, inOrder_append.2 ⟨before.1, ?_⟩⟩, ?_⟩
    · rw [Outline.after, before.2]
      exact behind.1
    · rw [afterAll, List.foldl_cons, List.foldl_append]
      exact (congrArg (List.foldl Outline.after · _) before.2).trans behind.2

/-- Each visit is the one that the heap calls for, where the containers opened before have entries. -/
theorem Visits.fitsHeap (made : Visits heap labelled opened inside final)
    (filled : Filled heap opened) :
    (∀ visit ∈ Outline.visitsOfAll inside, visit.FitsHeap heap) ∧ Filled heap final := by
  induction made with
  | nil opened => exact ⟨fun visit none => absurd none (by simp [Outline.visitsOfAll]), filled⟩
  | plain single later ih =>
    obtain ⟨others, kept⟩ := ih filled
    refine ⟨fun visit member => ?_, kept⟩
    rcases List.mem_cons.1 member with rfl | later
    · exact single
    · exact others visit later
  | again known later ih =>
    obtain ⟨others, kept⟩ := ih filled
    refine ⟨fun visit member => ?_, kept⟩
    rcases List.mem_cons.1 member with rfl | later
    · exact filled _ known
    · exact others visit later
  | @opened label identity cell rest opened inside between others final unknown found container within
      later before behind =>
    obtain ⟨first, between⟩ := before (filled.marked found container)
    obtain ⟨second, kept⟩ := behind between
    refine ⟨fun visit member => ?_, kept⟩
    rw [Outline.visitsOfAll, Outline.visits, List.cons_append] at member
    rcases List.mem_cons.1 member with rfl | member
    · exact ⟨found, container, within.length_entries container, within.map_value⟩
    · rcases List.mem_append.1 member with member | member
      · exact first visit member
      · exact second visit member

/-! ## Room for visits -/

/-- The number of entries of a heap whose containers are not opened yet. -/
def unopened (heap : Heap) (opened : List Ident) : Nat :=
  heap.cells.countP fun entry => !opened.contains entry.1

/-- Opening more containers leaves no more of them unopened. -/
theorem unopened_le {opened more : List Ident} (wider : opened ⊆ more) :
    unopened heap more ≤ unopened heap opened := by
  refine List.countP_mono_left fun entry _ left => ?_
  simp only [Bool.not_eq_true', List.contains_eq_mem, decide_eq_false_iff_not] at left ⊢
  exact fun member => left (wider member)

/-- Opening a container leaves fewer of them unopened. -/
theorem unopened_cons_lt {identity : Ident} {cell : Cell} (found : heap.get? identity = some cell)
    (unknown : identity ∉ opened) : unopened heap (identity :: opened) < unopened heap opened := by
  have fewer : ∀ cells : List (Ident × Cell),
      cells.countP (fun entry => !(identity :: opened).contains entry.1) ≤
        cells.countP fun entry => !opened.contains entry.1 := by
    intro cells
    refine List.countP_mono_left fun entry _ left => ?_
    simp only [Bool.not_eq_true', List.contains_eq_mem, decide_eq_false_iff_not] at left ⊢
    exact fun member => left (List.mem_cons_of_mem identity member)
  obtain ⟨before, behind, parted, -⟩ := List.lookup_eq_some_iff.1 found
  unfold unopened
  rw [parted, List.countP_append, List.countP_append, List.countP_cons_of_neg (by simp),
    List.countP_cons_of_pos (by simpa using unknown)]
  have first := fewer before
  have second := fewer behind
  omega

/-- A value is printed on one line, or it leads to a container. -/
theorem cases_of_value (heap : Heap) (value : Value) :
    (Outline.plain value).FitsHeap heap ∨
      ∃ identity cell, value = .ref identity ∧ heap.get? identity = some cell ∧ isContainer cell = true := by
  by_cases container : ∃ identity cell, value = .ref identity ∧ heap.get? identity = some cell ∧
      isContainer cell = true
  · exact .inr container
  · refine .inl fun identity cell same found => ?_
    rw [← Bool.not_eq_true]
    exact fun opens => container ⟨identity, cell, same, found, opens⟩

/-- Visits that the heap may call for come to an end where no more than a number of containers are
unopened. -/
theorem exists_visits_of_unopened_le (bound : Nat) (labelled : List (String × Value))
    (opened : List Ident) (few : unopened heap opened ≤ bound) :
    ∃ inside final, Visits heap labelled opened inside final ∧
      ∀ visit ∈ Outline.visitsOfAll inside, visit.Suits heap := by
  -- Inside a container that is opened fewer are unopened; behind it, fewer entries are left.
  induction bound using Nat.strongRecOn generalizing labelled opened with
  | _ bound fewer =>
    induction labelled generalizing opened with
    | nil => exact ⟨[], opened, .nil opened, fun visit none => absurd none List.not_mem_nil⟩
    | cons entry rest ih =>
      obtain ⟨label, value⟩ := entry
      rcases cases_of_value heap value with single | ⟨identity, cell, rfl, found, container⟩
      · obtain ⟨others, final, later, suit⟩ := ih opened few
        exact ⟨_, _, .plain single later, List.forall_mem_cons.2 ⟨single, suit⟩⟩
      · by_cases known : identity ∈ opened
        · obtain ⟨others, final, later, suit⟩ := ih opened few
          exact ⟨_, _, .again known later, List.forall_mem_cons.2 ⟨⟨cell, found, container⟩, suit⟩⟩
        · have within : ∃ inside between,
              Visits heap (entries heap cell) (marked identity cell opened) inside between ∧
                ∀ visit ∈ Outline.visitsOfAll inside, visit.Suits heap := by
            by_cases empty : cell.size = 0
            · rw [entries_eq_nil heap container empty]
              exact ⟨[], _, .nil _, fun visit none => absurd none List.not_mem_nil⟩
            · rw [marked, if_neg empty]
              have less := unopened_cons_lt found known
              exact fewer _ (Nat.lt_of_lt_of_le less few) _ _ (Nat.le_refl _)
          obtain ⟨inside, between, within, suitInside⟩ := within
          have wider : opened ⊆ between := fun identity member =>
            within.subset (subset_marked _ _ _ member)
          obtain ⟨others, final, later, suit⟩ := ih between (Nat.le_trans (unopened_le wider) few)
          refine ⟨_, _, .opened known found container within later, ?_⟩
          rw [Outline.visitsOfAll, Outline.visits, List.cons_append]
          exact List.forall_mem_cons.2
            ⟨⟨found, container, within.length_entries container, within.map_value⟩,
              List.forall_mem_append.2 ⟨suitInside, suit⟩⟩

/-- A value is visited behind any opened containers, as the heap may call for. -/
theorem exists_visit (heap : Heap) (value : Value) (opened : List Ident) :
    ∃ visit final, Visits heap [("", value)] opened [("", visit)] final ∧
      ∀ inner ∈ visit.visits, inner.Suits heap := by
  obtain ⟨inside, final, made, suit⟩ := exists_visits_of_unopened_le (unopened heap opened)
    [("", value)] opened (Nat.le_refl _)
  obtain ⟨⟨label, visit⟩, rfl⟩ : ∃ entry, inside = [entry] := by
    have single := congrArg List.length made.map_value
    rw [List.length_map] at single
    exact List.length_eq_one_iff.1 single
  obtain rfl : label = "" := congrArg Prod.fst (List.cons.inj made.map_value).1
  rw [Outline.visitsOfAll_single] at suit
  exact ⟨visit, final, made, suit⟩

/-! ## The dump writes the visits down -/

/-- The lines written and the containers opened by a dump of labelled values one after another. -/
def appendAll (heap : Heap) (room depth : Nat) (labelled : List (String × Value)) (progress : Progress) :
    Progress :=
  labelled.foldl
    (fun progress entry =>
      append heap room depth entry.2 (progress.push (2 * depth) (labelContent entry.1)))
    progress

/-- Labelled values are dumped one after another, each behind its label. -/
theorem appendAll_cons (heap : Heap) (room depth : Nat) (label : String) (value : Value)
    (rest : List (String × Value)) (progress : Progress) :
    appendAll heap room depth ((label, value) :: rest) progress =
      appendAll heap room depth rest
        (append heap room depth value (progress.push (2 * depth) (labelContent label))) := rfl

/-- A line goes behind those written before. -/
theorem push_mk (lines : List Line) (opened : List Ident) (indent : Nat) (content : Content) :
    (⟨lines.toArray, opened⟩ : Progress).push indent content =
      ⟨(lines ++ [(⟨indent, content⟩ : Line)]).toArray, opened⟩ := by
  simp [Progress.push]

/-- A value that is no container takes one line. -/
theorem append_single {value : Value} (single : (Outline.plain value).FitsHeap heap) (room depth : Nat)
    (progress : Progress) :
    append heap (room + 1) depth value progress =
      progress.push (2 * depth) (plainContent heap value) := by
  cases value with
  | ref identity =>
    rw [append]
    cases found : heap.get? identity with
    | none => simp only [plainContent, found]
    | some cell =>
      have noContainer := single identity cell rfl found
      cases cell with
      | buffer data type => simp only [plainContent, found]
      | _ => cases noContainer
  | _ => rfl

/-- A container that was opened before takes one line that says so; another one takes a header, its entries
one level deeper, and a closing bracket. -/
theorem append_container {identity : Ident} {cell : Cell} (found : heap.get? identity = some cell)
    (container : isContainer cell = true) (room depth : Nat) (progress : Progress) :
    append heap (room + 1) depth (.ref identity) progress =
      if identity ∈ progress.opened then progress.push (2 * depth) recursionMark
      else
        (appendAll heap room (depth + 1) (entries heap cell)
          { progress.push (2 * depth) (header identity cell) with
            opened := marked identity cell progress.opened }).push (2 * depth) (.text (closing cell)) := by
  rw [append, found]
  cases cell with
  | buffer data type => cases container
  | _ =>
    simp only [List.contains_eq_mem, decide_eq_true_eq, recursionMark, appendAll, labelContent, marked,
      Progress.push, Progress.markOpened, Nat.mul_add, Nat.mul_one]
    split
    · rfl
    · split <;> rfl

/-- The line of a value that is no container is that of the visit to it. -/
theorem append_plain {value : Value} (single : (Outline.plain value).FitsHeap heap) (room depth : Nat)
    (lines : List Line) :
    append heap (room + 1) depth value ⟨lines.toArray, opened⟩ =
      ⟨(lines ++ (Outline.plain value).lines heap depth).toArray, opened⟩ := by
  rw [append_single single, push_mk, Outline.lines]

/-- The line of a container that was opened before is that of the note of it. -/
theorem append_again {identity : Ident} (known : identity ∈ opened)
    (noted : (Outline.again identity).Suits heap) (room depth : Nat) (lines : List Line) :
    append heap (room + 1) depth (.ref identity) ⟨lines.toArray, opened⟩ =
      ⟨(lines ++ (Outline.again identity).lines heap depth).toArray, opened⟩ := by
  obtain ⟨cell, found, container⟩ := noted
  rw [append_container found container, if_pos known, push_mk, Outline.lines]

/-- Whether a dump with some room writes visits to labelled values down, at any depth and behind any lines
written before, and opens what they open. -/
def WritesDown (heap : Heap) (room : Nat) (labelled : List (String × Value)) (opened : List Ident)
    (inside : List (String × Outline)) (final : List Ident) : Prop :=
  ∀ depth lines, appendAll heap room depth labelled ⟨lines.toArray, opened⟩ =
    ⟨(lines ++ Outline.linesOfAll heap depth inside).toArray, final⟩

/-- The lines of a container that is not opened yet are those of the visit to it, where its entries are
written down. -/
theorem append_opened {identity : Ident} {cell : Cell} {between : List Ident}
    (unknown : identity ∉ opened) (found : heap.get? identity = some cell)
    (container : isContainer cell = true) (counted : inside.length = cell.size) {room : Nat}
    (entered : WritesDown heap room (entries heap cell) (marked identity cell opened) inside between)
    (depth : Nat) (lines : List Line) :
    append heap (room + 1) depth (.ref identity) ⟨lines.toArray, opened⟩ =
      ⟨(lines ++ (Outline.opened identity cell inside).lines heap depth).toArray, between⟩ := by
  rw [append_container found container, if_neg unknown, push_mk, entered, push_mk, header_eq, ← counted]
  simp [Outline.lines]

/-- The entries of a container that is opened are written down with the room that is left, if they are
wherever there is more room than containers are unopened. -/
theorem writesDown_entries {identity : Ident} {cell : Cell} {between : List Ident}
    (unknown : identity ∉ opened) (found : heap.get? identity = some cell)
    (container : isContainer cell = true)
    (within : Visits heap (entries heap cell) (marked identity cell opened) inside between) {room : Nat}
    (enough : unopened heap opened < room + 1)
    (entered : unopened heap (marked identity cell opened) < room →
      WritesDown heap room (entries heap cell) (marked identity cell opened) inside between) :
    WritesDown heap room (entries heap cell) (marked identity cell opened) inside between := by
  by_cases empty : cell.size = 0
  · rw [entries_eq_nil heap container empty] at within ⊢
    cases within
    intro depth lines
    simp [appendAll, Outline.linesOfAll]
  · have less := unopened_cons_lt found unknown
    refine entered ?_
    rw [marked, if_neg empty]
    omega

/-- With room for one more container than are unopened, a dump of labelled values writes down the visits to
them. -/
theorem Visits.writesDown (made : Visits heap labelled opened inside final)
    (suit : ∀ visit ∈ Outline.visitsOfAll inside, visit.Suits heap) {room : Nat}
    (enough : unopened heap opened < room) : WritesDown heap room labelled opened inside final := by
  induction made generalizing room with
  | nil opened =>
    intro depth lines
    simp [appendAll, Outline.linesOfAll]
  | plain single later ih =>
    obtain ⟨-, suitBehind⟩ := List.forall_mem_cons.1 suit
    obtain ⟨room, rfl⟩ := Nat.exists_eq_succ_of_ne_zero (Nat.ne_zero_of_lt enough)
    intro depth lines
    rw [appendAll_cons, push_mk, append_plain single, ih suitBehind enough]
    simp [Outline.linesOfAll]
  | again known later ih =>
    obtain ⟨noted, suitBehind⟩ := List.forall_mem_cons.1 suit
    obtain ⟨room, rfl⟩ := Nat.exists_eq_succ_of_ne_zero (Nat.ne_zero_of_lt enough)
    intro depth lines
    rw [appendAll_cons, push_mk, append_again known noted, ih suitBehind enough]
    simp [Outline.linesOfAll]
  | @opened label identity cell rest opened inside between others final unknown found container within
      later before behind =>
    rw [Outline.visitsOfAll, Outline.visits, List.cons_append] at suit
    obtain ⟨suitInside, suitBehind⟩ := List.forall_mem_append.1 (List.forall_mem_cons.1 suit).2
    obtain ⟨room, rfl⟩ := Nat.exists_eq_succ_of_ne_zero (Nat.ne_zero_of_lt enough)
    have entered := writesDown_entries unknown found container within enough (before suitInside)
    have wider : opened ⊆ between := fun identity member =>
      within.subset (subset_marked _ _ _ member)
    have fewer : unopened heap between < room + 1 := Nat.lt_of_le_of_lt (unopened_le wider) enough
    intro depth lines
    rw [appendAll_cons, push_mk,
      append_opened unknown found container (within.length_entries container) entered,
      behind suitBehind fewer]
    simp [Outline.linesOfAll]

/-- With room for one more container than are unopened, a dump of a value writes down the visit to it. -/
theorem Visits.append_eq {label : String} {value : Value} {visit : Outline}
    (made : Visits heap [(label, value)] opened [(label, visit)] final)
    (suit : ∀ inner ∈ visit.visits, inner.Suits heap) {room : Nat}
    (enough : unopened heap opened < room) (depth : Nat) (lines : List Line) :
    append heap room depth value ⟨lines.toArray, opened⟩ =
      ⟨(lines ++ visit.lines heap depth).toArray, final⟩ := by
  obtain ⟨room, rfl⟩ := Nat.exists_eq_succ_of_ne_zero (Nat.ne_zero_of_lt enough)
  cases made with
  | plain single later =>
    cases later
    exact append_plain single room depth lines
  | again known later =>
    cases later
    exact append_again known (suit _ List.mem_cons_self) room depth lines
  | opened unknown found container within later =>
    cases later
    have suitInside := (List.forall_mem_cons.1 suit).2
    exact append_opened unknown found container (within.length_entries container)
      (writesDown_entries unknown found container within enough (within.writesDown suitInside)) depth lines

end LiveConsole.Dump
