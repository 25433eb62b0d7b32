import LiveConsole.Proofs.Dump.Outline

/-!
# Shared values in dumps

Values may be shared between containers, and containers may lie inside themselves. The main statement is
that a dump comes to an end on all of them and opens every container with entries that can be reached
exactly once, where it is met first. Wherever else it is met one line says that it was opened before, and
nothing else is said so of.
-/
namespace LiveConsole.Dump

/-- The values that can be reached from a value through the containers of a heap. -/
inductive Reachable (heap : Heap) (root : Value) : Value → Prop where
  /-- The value itself. -/
  | root : Reachable heap root root
  /-- What is inside a container that can be reached, keys aside. -/
  | inside {identity : Ident} {cell : Cell} {value : Value}
    (outer : Reachable heap root (.ref identity)) (found : heap.get? identity = some cell)
    (member : value ∈ cell.values) : Reachable heap root value

/-- Whether a visit only notes that a container was opened before. -/
def Outline.isAgain : Outline → Bool
  | again _ => true
  | _ => false

/-- Whether a line says that a container was opened before. -/
def Line.isRecursionMark (line : Line) : Bool := line.content == recursionMark

/-! ## Visits inside visits -/

/-- A visit is one of its own. -/
theorem Outline.mem_visits (visit : Outline) : visit ∈ visit.visits := by
  cases visit <;> exact List.mem_cons_self

/-- Visits to entries are among the visits to all of them. -/
theorem mem_visitsOfAll {inside : List (String × Outline)} {entry : String × Outline}
    (member : entry ∈ inside) : entry.2 ∈ Outline.visitsOfAll inside := by
  induction inside with
  | nil => cases member
  | cons first rest ih =>
    obtain ⟨label, visit⟩ := first
    rw [Outline.visitsOfAll, List.mem_append]
    rcases List.mem_cons.1 member with rfl | later
    · exact .inl visit.mem_visits
    · exact .inr (ih later)

variable {heap : Heap} {labelled : List (String × Value)} {inside : List (String × Outline)}
  {opened final : List Ident}

/-- The entries of a container that is opened at a visit are visited. -/
theorem Visits.mem_of_opened (made : Visits heap labelled opened inside final) {identity : Ident}
    {cell : Cell} {within : List (String × Outline)}
    (member : Outline.opened identity cell within ∈ Outline.visitsOfAll inside)
    {entry : String × Outline} (listed : entry ∈ within) : entry.2 ∈ Outline.visitsOfAll inside := by
  induction made with
  | nil opened => cases member
  | plain single later ih =>
    rcases List.mem_cons.1 member with same | later
    · cases same
    · exact List.mem_cons_of_mem _ (ih later)
  | again known later ih =>
    rcases List.mem_cons.1 member with same | later
    · cases same
    · exact List.mem_cons_of_mem _ (ih later)
  | opened unknown found container entered later before behind =>
    rw [Outline.visitsOfAll, Outline.visits, List.cons_append] at member ⊢
    refine List.mem_cons_of_mem _ (List.mem_append.2 ?_)
    rcases List.mem_cons.1 member with same | member
    · cases same
      exact .inl (mem_visitsOfAll listed)
    · rcases List.mem_append.1 member with member | member
      · exact .inl (before member)
      · exact .inr (behind member)

/-! ## Visits and values that can be reached -/

/-- Only values that can be reached are visited. -/
theorem Visits.reachable {root : Value} (made : Visits heap labelled opened inside final)
    (given : ∀ entry ∈ labelled, Reachable heap root entry.2) :
    ∀ visit ∈ Outline.visitsOfAll inside, Reachable heap root visit.value := by
  induction made with
  | nil opened => intro visit none; cases none
  | plain single later ih =>
    intro visit member
    rcases List.mem_cons.1 member with rfl | later
    · exact given _ List.mem_cons_self
    · exact ih (fun entry member => given entry (List.mem_cons_of_mem _ member)) visit later
  | again known later ih =>
    intro visit member
    rcases List.mem_cons.1 member with rfl | later
    · exact given _ List.mem_cons_self
    · exact ih (fun entry member => given entry (List.mem_cons_of_mem _ member)) visit later
  | @opened label identity cell rest opened inside between others final unknown found container within
      later before behind =>
    have outer : Reachable heap root (.ref identity) := given _ List.mem_cons_self
    have deeper : ∀ entry ∈ entries heap cell, Reachable heap root entry.2 := fun entry member =>
      .inside outer found ((entries_perm heap cell).mem_iff.1 (List.mem_map_of_mem member))
    intro visit member
    rw [Outline.visitsOfAll, Outline.visits, List.cons_append] at member
    rcases List.mem_cons.1 member with rfl | member
    · exact outer
    · rcases List.mem_append.1 member with member | member
      · exact before deeper visit member
      · exact behind (fun entry member => given entry (List.mem_cons_of_mem _ member)) visit member

/-- What is noted as opened before was opened before, or is opened at a visit. -/
theorem InOrder.opened_of_again {visits : List Outline} (order : InOrder opened visits)
    {identity : Ident} (noted : Outline.again identity ∈ visits) :
    identity ∈ opened ∨ ∃ cell within, Outline.opened identity cell within ∈ visits := by
  induction visits generalizing opened with
  | nil => cases noted
  | cons visit rest ih =>
    rcases List.mem_cons.1 noted with rfl | later
    · exact .inl order.1
    · rcases ih order.2 later with known | ⟨cell, within, member⟩
      · cases visit with
        | plain value => exact .inl known
        | again other => exact .inl known
        | opened other cell within =>
          by_cases same : identity = other
          · exact .inr ⟨cell, within, same ▸ List.mem_cons_self⟩
          · rw [Outline.after, marked] at known
            split at known
            · exact .inl known
            · rcases List.mem_cons.1 known with first | known
              · exact absurd first same
              · exact .inl known
      · exact .inr ⟨cell, within, List.mem_cons_of_mem _ member⟩

/-- All values that can be reached from a value are visited by a dump of it. -/
theorem Visits.exists_of_reachable {label : String} {root : Value}
    (made : Visits heap [(label, root)] [] inside final) {value : Value}
    (reached : Reachable heap root value) :
    ∃ visit ∈ Outline.visitsOfAll inside, visit.value = value := by
  have fits := (made.fitsHeap (fun identity none => absurd none List.not_mem_nil)).1
  induction reached with
  | root =>
    have same := made.map_value
    cases inside with
    | nil => cases same
    | cons entry others =>
      refine ⟨entry.2, mem_visitsOfAll List.mem_cons_self, ?_⟩
      exact congrArg Prod.snd (List.cons.inj same).1
  | @inside identity cell value outer found member ih =>
    obtain ⟨visit, visited, same⟩ := ih
    have opens : ∃ cell within, Outline.opened identity cell within ∈ Outline.visitsOfAll inside := by
      cases visit with
      | plain scalar =>
        have noContainer := fits _ visited identity cell same found
        cases cell with
        | buffer data type => cases member
        | _ => cases noContainer
      | again other =>
        cases same
        rcases made.inOrder.1.opened_of_again visited with none | opens
        · cases none
        · exact opens
      | opened other cell within =>
        cases same
        exact ⟨cell, within, visited⟩
    obtain ⟨listed, within, opens⟩ := opens
    obtain ⟨known, -, -, values⟩ := fits _ opens
    cases known.symm.trans found
    have entry : value ∈ (entries heap cell).map (·.2) := (entries_perm heap cell).mem_iff.2 member
    rw [← values, List.map_map] at entry
    obtain ⟨entry, listed, same⟩ := List.mem_map.1 entry
    exact ⟨entry.2, made.mem_of_opened opens listed, same⟩

/-! ## The first visit to a container -/

/-- A container that was opened before is only noted. -/
theorem InOrder.again_of_known {visits : List Outline} (order : InOrder opened visits)
    (fits : ∀ visit ∈ visits, visit.FitsHeap heap) {identity : Ident}
    (filled : (Outline.again identity).FitsHeap heap) (known : identity ∈ opened) :
    ∀ visit ∈ visits, visit.value = .ref identity → visit = .again identity := by
  induction visits generalizing opened with
  | nil => intro visit none; cases none
  | cons first rest ih =>
    intro visit member same
    rcases List.mem_cons.1 member with rfl | later
    · cases visit with
      | plain value =>
        obtain ⟨cell, found, container, -⟩ := filled
        rw [fits _ List.mem_cons_self identity cell same found] at container
        cases container
      | again other => cases same; rfl
      | opened other cell within =>
        cases same
        exact absurd known order.1
    · have still : identity ∈ first.after opened := by
        cases first with
        | opened other cell within => exact subset_marked _ _ _ known
        | _ => exact known
      exact ih order.2 (fun visit member => fits visit (List.mem_cons_of_mem _ member)) still visit later
        same

/-- A container with entries that is visited is opened at the first visit to it, and only noted at all
others. -/
theorem InOrder.split {visits : List Outline} (order : InOrder opened visits)
    (fits : ∀ visit ∈ visits, visit.FitsHeap heap) {identity : Ident}
    (filled : (Outline.again identity).FitsHeap heap) (unknown : identity ∉ opened)
    (visited : ∃ visit ∈ visits, visit.value = .ref identity) :
    ∃ before cell within later, visits = before ++ Outline.opened identity cell within :: later ∧
      (∀ visit ∈ before, visit.value ≠ .ref identity) ∧
      ∀ visit ∈ later, visit.value = .ref identity → visit = .again identity := by
  induction visits generalizing opened with
  | nil =>
    obtain ⟨visit, none, -⟩ := visited
    cases none
  | cons first rest ih =>
    have fitsRest : ∀ visit ∈ rest, visit.FitsHeap heap := fun visit member =>
      fits visit (List.mem_cons_of_mem _ member)
    by_cases met : first.value = .ref identity
    · cases first with
      | plain value =>
        obtain ⟨cell, found, container, -⟩ := filled
        rw [fits _ List.mem_cons_self identity cell met found] at container
        cases container
      | again other =>
        cases met
        exact absurd order.1 unknown
      | opened other cell within =>
        cases met
        obtain ⟨known, -, -, -⟩ := fits _ List.mem_cons_self
        obtain ⟨same, found, container, some⟩ := filled
        cases found.symm.trans known
        have marks : identity ∈ (Outline.opened identity cell within).after opened := by
          rw [Outline.after, marked, if_neg some]
          exact List.mem_cons_self
        exact ⟨[], cell, within, rest, rfl, fun visit none => absurd none List.not_mem_nil,
          order.2.again_of_known fitsRest ⟨cell, known, container, some⟩ marks⟩
    · have still : identity ∉ first.after opened := by
        cases first with
        | opened other cell within =>
          rw [Outline.after, marked]
          split
          · exact unknown
          · intro member
            rcases List.mem_cons.1 member with same | member
            · exact met (congrArg Value.ref same.symm)
            · exact unknown member
        | _ => exact unknown
      have later : ∃ visit ∈ rest, visit.value = .ref identity := by
        obtain ⟨visit, member, same⟩ := visited
        rcases List.mem_cons.1 member with rfl | member
        · exact absurd same met
        · exact ⟨visit, member, same⟩
      obtain ⟨before, cell, within, behind, parted, apart, noted⟩ := ih order.2 fitsRest still later
      refine ⟨first :: before, cell, within, behind, by rw [parted, List.cons_append], ?_, noted⟩
      intro visit member
      rcases List.mem_cons.1 member with rfl | member
      · exact met
      · exact apart visit member

/-! ## Visits that show all there is -/

/-- What is no container is visited by printing it. -/
theorem Outline.eq_plain {visit : Outline} (fits : visit.FitsHeap heap)
    (single : (Outline.plain visit.value).FitsHeap heap) : visit = .plain visit.value := by
  cases visit with
  | plain value => rfl
  | again identity =>
    obtain ⟨cell, found, container, -⟩ := fits
    rw [single identity cell rfl found] at container
    cases container
  | opened identity cell inside =>
    obtain ⟨found, container, -, -⟩ := fits
    rw [single identity cell rfl found] at container
    cases container

/-- An empty container is visited by opening it, wherever it is met. -/
theorem Outline.eq_opened_of_empty {visit : Outline} (fits : visit.FitsHeap heap) {identity : Ident}
    {cell : Cell} (same : visit.value = .ref identity) (found : heap.get? identity = some cell)
    (container : isContainer cell = true) (empty : cell.size = 0) : visit = .opened identity cell [] := by
  cases visit with
  | plain value =>
    rw [fits identity cell same found] at container
    cases container
  | again other =>
    cases same
    obtain ⟨cell, known, -, some⟩ := fits
    cases known.symm.trans found
    exact absurd empty some
  | opened other cell inside =>
    cases same
    obtain ⟨known, -, counted, -⟩ := fits
    cases known.symm.trans found
    rw [List.eq_nil_of_length_eq_zero (counted.trans empty)]

/-! ## Lines that note a container -/

/-- A text is not the note of an opened container where that lacks one of its characters. -/
theorem text_ne_recursionMark {text : String} (c : Char) (lacks : c ∉ "*RECURSION*".toList)
    (member : c ∈ text.toList) : Content.text text ≠ recursionMark := by
  intro same
  cases same
  exact lacks member

/-- No value that is printed on one line looks like the note of an opened container. -/
theorem plainContent_ne_recursionMark (heap : Heap) (value : Value) :
    plainContent heap value ≠ recursionMark := by
  cases value with
  | nothing => simp [plainContent, scalarText, recursionMark]
  | module name => exact text_ne_recursionMark '(' (by decide) (by simp [scalarText, toString])
  | path text identity => exact text_ne_recursionMark ':' (by decide) (by simp [scalarText])
  | range items identity => exact text_ne_recursionMark ':' (by decide) (by simp [scalarText])
  | builtin function => exact text_ne_recursionMark ':' (by decide) (by simp [scalarText])
  | errorClass name => exact text_ne_recursionMark ':' (by decide) (by simp [scalarText])
  | host => exact text_ne_recursionMark ':' (by decide) (by simp [scalarText])
  | hostFault => exact text_ne_recursionMark ':' (by decide) (by simp [scalarText])
  | foreign type written identity => exact text_ne_recursionMark ':' (by decide) (by simp [scalarText])
  | ref identity =>
    rw [plainContent]
    split
    · exact text_ne_recursionMark '(' (by decide) (by simp [toString])
    · simp [recursionMark]
  | _ => exact text_ne_recursionMark '(' (by decide) (by simp [scalarText, toString])

/-- No header looks like the note of an opened container. -/
theorem headerFor_ne_recursionMark (identity : Ident) (cell : Cell) (count : Nat) :
    headerFor identity cell count ≠ recursionMark := by
  cases cell with
  | object attributes type => simp [headerFor, recursionMark]
  | error arguments type => simp [headerFor, recursionMark]
  | _ => exact text_ne_recursionMark '(' (by decide) (by simp [toString])

/-- No label looks like the note of an opened container. -/
theorem labelContent_ne_recursionMark (label : String) : labelContent label ≠ recursionMark :=
  text_ne_recursionMark '[' (by decide) (by simp [toString])

/-- No closing bracket looks like the note of an opened container. -/
theorem closing_ne_recursionMark (cell : Cell) : Content.text (closing cell) ≠ recursionMark := by
  cases cell <;> simp [closing, closeBrace, recursionMark]

mutual

/-- As many lines of a visit say that a container was opened before as there are notes in it. -/
theorem Outline.countP_lines (heap : Heap) (depth : Nat) : ∀ visit : Outline,
    (visit.lines heap depth).countP Line.isRecursionMark = visit.visits.countP Outline.isAgain
  | plain value => by
    have other := plainContent_ne_recursionMark heap value
    simp [lines, visits, Line.isRecursionMark, isAgain, other]
  | again identity => by simp [lines, visits, Line.isRecursionMark, isAgain]
  | opened identity cell inside => by
    have header := headerFor_ne_recursionMark identity cell inside.length
    have bracket := closing_ne_recursionMark cell
    have within := countP_linesOfAll heap (depth + 1) inside
    simp [lines, visits, Line.isRecursionMark, isAgain, header, bracket, within]

/-- As many lines of labelled visits say that a container was opened before as there are notes in them. -/
theorem Outline.countP_linesOfAll (heap : Heap) (depth : Nat) : ∀ inside : List (String × Outline),
    (linesOfAll heap depth inside).countP Line.isRecursionMark =
      (visitsOfAll inside).countP Outline.isAgain
  | [] => rfl
  | (label, visit) :: rest => by
    have other := labelContent_ne_recursionMark label
    have first := countP_lines heap depth visit
    have later := countP_linesOfAll heap depth rest
    simp [linesOfAll, visitsOfAll, Line.isRecursionMark, other, first, later]

end

/-! ## Dumps of values -/

/-- Whether a dump of a value, with no bound on the containers inside one another, is told by a visit. -/
def Outline.Tells (visit : Outline) (graph : Graph) : Prop :=
  ∃ final, Visits graph.heap [("", graph.root)] [] [("", visit)] final

/-- A dump of a value comes to an end, whatever is shared or inside itself. -/
theorem exists_tells (graph : Graph) : ∃ visit : Outline, visit.Tells graph := by
  obtain ⟨visit, final, made, -⟩ := exists_visit graph.heap graph.root []
  exact ⟨visit, final, made⟩

/-- The lines of a dump are those of the visit that tells it, with room for one more container than the
heap has, or with more. -/
theorem Outline.Tells.append_eq {graph : Graph} {visit : Outline} (told : visit.Tells graph) {room : Nat}
    (enough : graph.heap.size < room) :
    (append graph.heap room 0 graph.root ⟨#[], []⟩).lines.toList = visit.lines graph.heap 0 := by
  obtain ⟨final, made⟩ := told
  have few : unopened graph.heap [] < room := Nat.lt_of_le_of_lt List.countP_le_length enough
  have fits := (made.fitsHeap fun identity none => absurd none List.not_mem_nil).1
  rw [Outline.visitsOfAll_single] at fits
  have written := made.append_eq (fun inner member => (fits inner member).suits) few 0 []
  rw [written, List.nil_append]

/-- More room than a heap has containers makes no difference to a dump. -/
theorem append_eq_lines (graph : Graph) {room : Nat} (enough : graph.heap.size < room) :
    (append graph.heap room 0 graph.root ⟨#[], []⟩).lines.toList = lines graph := by
  obtain ⟨visit, told⟩ := exists_tells graph
  exact (told.append_eq enough).trans (told.append_eq (Nat.lt_succ_self _)).symm

/--
A dump comes to an end on every value, and its recursion needs no more room than there is. It visits what can
be reached and nothing else. What is no container is printed, an empty container is opened with no
entries, and any other one is opened once: where it is met first, with all its entries behind a header that
counts them. Wherever else it is met one line notes it, and no other line looks like that one.
-/
theorem lines_open_each_container_once (graph : Graph) :
    ∃ visit : Outline, visit.Tells graph ∧ visit.value = graph.root ∧
      lines graph = visit.lines graph.heap 0 ∧
      (∀ room, graph.heap.size < room →
        (append graph.heap room 0 graph.root ⟨#[], []⟩).lines.toList = lines graph) ∧
      (∀ value, Reachable graph.heap graph.root value ↔ ∃ inner ∈ visit.visits, inner.value = value) ∧
      (∀ inner ∈ visit.visits, inner.FitsHeap graph.heap) ∧
      (∀ inner ∈ visit.visits, (Outline.plain inner.value).FitsHeap graph.heap →
        inner = .plain inner.value) ∧
      (∀ identity cell, graph.heap.get? identity = some cell → isContainer cell = true →
        if cell.size = 0 then
          ∀ inner ∈ visit.visits, inner.value = .ref identity → inner = .opened identity cell []
        else Reachable graph.heap graph.root (.ref identity) →
          ∃ before inside later, visit.visits = before ++ Outline.opened identity cell inside :: later ∧
            (∀ inner ∈ before, inner.value ≠ .ref identity) ∧
            ∀ inner ∈ later, inner.value = .ref identity → inner = .again identity) ∧
      (lines graph).countP Line.isRecursionMark = visit.visits.countP Outline.isAgain := by
  obtain ⟨visit, told⟩ := exists_tells graph
  have written : lines graph = visit.lines graph.heap 0 := told.append_eq (Nat.lt_succ_self _)
  obtain ⟨final, made⟩ := told
  have all : Outline.visitsOfAll [("", visit)] = visit.visits := Outline.visitsOfAll_single "" visit
  have fits := (made.fitsHeap fun identity none => absurd none List.not_mem_nil).1
  have reached : ∀ inner ∈ Outline.visitsOfAll [("", visit)],
      Reachable graph.heap graph.root inner.value := made.reachable (by simpa using Reachable.root)
  have order := made.inOrder.1
  have complete : ∀ value, Reachable graph.heap graph.root value →
      ∃ inner ∈ Outline.visitsOfAll [("", visit)], inner.value = value :=
    fun value reachable => made.exists_of_reachable reachable
  rw [all] at fits reached order complete
  refine ⟨visit, ⟨final, made⟩, ?_, written, ?_, ?_, fits, ?_, ?_, ?_⟩
  · simpa using made.map_value
  · intro room enough
    rw [written]
    exact Outline.Tells.append_eq ⟨final, made⟩ enough
  · intro value
    constructor
    · exact complete value
    · rintro ⟨inner, member, rfl⟩
      exact reached inner member
  · exact fun inner member single => Outline.eq_plain (fits inner member) single
  · intro identity cell found container
    split
    · rename_i empty
      exact fun inner member same => Outline.eq_opened_of_empty (fits inner member) same found container empty
    · rename_i some
      intro reachable
      obtain ⟨before, other, inside, later, parted, apart, noted⟩ :=
        order.split fits ⟨cell, found, container, some⟩ List.not_mem_nil (complete _ reachable)
      have opens : Outline.opened identity other inside ∈ visit.visits := by
        rw [parted]
        exact List.mem_append_right before List.mem_cons_self
      cases (fits _ opens).1.symm.trans found
      exact ⟨before, inside, later, parted, apart, noted⟩
  · rw [written]
    exact visit.countP_lines graph.heap 0

end LiveConsole.Dump
