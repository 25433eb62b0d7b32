import LiveConsole.Proofs.Dump.Sharing
import Mathlib.Data.List.Forall2

/-!
# Dumps of plain data

Plain data are made of scalars, lists, tuples and dictionaries, with no regard to where a heap keeps them. A
dump of plain data can be read again: its first character tells the kind, the length written in front of a
text tells where the text ends, whatever is in it, and the size written in a header tells how many entries
follow. So no dump of plain data is the start of another one, and values with the same dump hold the same
data, as long as no container with entries is met twice.
-/
namespace LiveConsole.Dump

/-- A key of plain data: an integer, or a text without line feeds. -/
inductive Key where
  /-- An integer. -/
  | int (value : Int)
  /-- A text on one line. -/
  | text (value : String) (oneLine : '\n' ∉ value.toList)

/-- Plain data. -/
inductive Datum where
  /-- What stands for no value. -/
  | nothing
  /-- A truth value. -/
  | bool (value : Bool)
  /-- An integer. -/
  | int (value : Int)
  /-- A text. -/
  | text (value : String)
  /-- Items in order that can be changed. -/
  | list (items : List Datum)
  /-- Items in order that stay. -/
  | tuple (items : List Datum)
  /-- Values under keys, in the order in which the keys came. -/
  | dict (entries : List (Key × Datum))

/-- Whether a value is the one that a key stands for. -/
def Key.IsAt : Key → Value → Prop
  | int number, value => ∃ identity, value = .int number ⟨"int"⟩ identity
  | text chars _, value => ∃ identity, value = .text chars ⟨"str"⟩ identity

/-- Whether a value is a scalar that holds a datum. -/
inductive IsScalar : Value → Datum → Prop where
  /-- No value. -/
  | nothing : IsScalar .nothing .nothing
  /-- A truth value. -/
  | bool (value : Bool) : IsScalar (.bool value) (.bool value)
  /-- A plain integer. -/
  | int (value : Int) (identity : Ident) : IsScalar (.int value ⟨"int"⟩ identity) (.int value)
  /-- A plain text. -/
  | text (value : String) (identity : Ident) : IsScalar (.text value ⟨"str"⟩ identity) (.text value)

/--
Values of a heap hold data one after another; the containers with entries that are met on the way are noted,
as often as they are met.
-/
inductive Holds (heap : Heap) : List Value → List Datum → List Ident → Prop where
  /-- There are no values left. -/
  | nil : Holds heap [] [] []
  /-- A scalar holds what it is. -/
  | scalar {value datum rest others met} (single : IsScalar value datum)
    (later : Holds heap rest others met) : Holds heap (value :: rest) (datum :: others) met
  /-- A list holds what its items hold. -/
  | list {identity items data inside rest others met}
    (found : heap.get? identity = some (.list items ⟨"list"⟩)) (within : Holds heap items data inside)
    (later : Holds heap rest others met) :
    Holds heap (.ref identity :: rest) (.list data :: others)
      (marked identity (.list items ⟨"list"⟩) inside ++ met)
  /-- A tuple holds what its items hold. -/
  | tuple {identity items data inside rest others met}
    (found : heap.get? identity = some (.tuple items ⟨"tuple"⟩)) (within : Holds heap items data inside)
    (later : Holds heap rest others met) :
    Holds heap (.ref identity :: rest) (.tuple data :: others)
      (marked identity (.tuple items ⟨"tuple"⟩) inside ++ met)
  /-- A dictionary holds, under its keys, what its values hold. -/
  | dict {identity items entries inside rest others met}
    (found : heap.get? identity = some (.dict items ⟨"dict"⟩))
    (keys : List.Forall₂ Key.IsAt (entries.map Prod.fst) (items.map Prod.fst))
    (within : Holds heap (items.map Prod.snd) (entries.map Prod.snd) inside)
    (later : Holds heap rest others met) :
    Holds heap (.ref identity :: rest) (.dict entries :: others)
      (marked identity (.dict items ⟨"dict"⟩) inside ++ met)

/-- Whether a value holds a datum, and no container with entries is met twice in it. -/
def HoldsOnce (graph : Graph) (datum : Datum) : Prop :=
  ∃ met, Holds graph.heap [graph.root] [datum] met ∧ met.Nodup

/-! ## The lines of data -/

/-- The label of a key. -/
def Key.label : Key → String
  | int value => toString value
  | text value _ => "\"" ++ value ++ "\""

/-- What stands in front of a text or of entries: a word, how many of them follow, and an opening. -/
def sizedHeader (word : String) (count : Nat) (opening : String) : String :=
  word ++ toString count ++ opening

mutual

/-- The lines of a datum at a depth. -/
def Datum.lines (depth : Nat) : Datum → List Line
  | .nothing => [⟨2 * depth, .text "None"⟩]
  | .bool value => [⟨2 * depth, .text ("bool(" ++ (if value then "True" else "False") ++ ")")⟩]
  | .int value => [⟨2 * depth, .text ("int(" ++ toString value ++ ")")⟩]
  | .text value => [⟨2 * depth, .text (sizedHeader "str(" value.length ") \"" ++ value ++ "\"")⟩]
  | .list items =>
    ⟨2 * depth, .text (sizedHeader "list(" items.length ") [")⟩ :: linesOfItems (depth + 1) 0 items ++
      [⟨2 * depth, .text "]"⟩]
  | .tuple items =>
    ⟨2 * depth, .text (sizedHeader "tuple(" items.length ") [")⟩ :: linesOfItems (depth + 1) 0 items ++
      [⟨2 * depth, .text "]"⟩]
  | .dict entries =>
    ⟨2 * depth, .text (sizedHeader "dict(" entries.length (") " ++ openBrace))⟩ ::
      linesOfEntries (depth + 1) entries ++ [⟨2 * depth, .text closeBrace⟩]

/-- The lines of items at a depth, numbered from a number on. -/
def linesOfItems (depth number : Nat) : List Datum → List Line
  | [] => []
  | datum :: rest =>
    ⟨2 * depth, labelContent (toString number)⟩ :: datum.lines depth ++
      linesOfItems depth (number + 1) rest

/-- The lines of entries at a depth. -/
def linesOfEntries (depth : Nat) : List (Key × Datum) → List Line
  | [] => []
  | (key, datum) :: rest =>
    ⟨2 * depth, labelContent key.label⟩ :: datum.lines depth ++ linesOfEntries depth rest

end

/-- The lines of labelled data at a depth. -/
def linesOfLabelled (depth : Nat) (labelled : List (String × Datum)) : List Line :=
  labelled.flatMap fun entry => ⟨2 * depth, labelContent entry.1⟩ :: entry.2.lines depth

/-- Data numbered from a number on. -/
def numberedFrom (number : Nat) (data : List Datum) : List (String × Datum) :=
  (data.zipIdx number).map fun entry => (toString entry.2, entry.1)

/-- Data with the labels of their keys. -/
def keyed (entries : List (Key × Datum)) : List (String × Datum) :=
  entries.map fun entry => (entry.1.label, entry.2)

/-- Items are labelled by their numbers. -/
theorem linesOfItems_eq (depth number : Nat) (items : List Datum) :
    linesOfItems depth number items = linesOfLabelled depth (numberedFrom number items) := by
  induction items generalizing number with
  | nil => simp [linesOfItems, linesOfLabelled, numberedFrom]
  | cons datum rest ih =>
    rw [linesOfItems, ih]
    simp [linesOfLabelled, numberedFrom]

/-- Entries are labelled by their keys. -/
theorem linesOfEntries_eq (depth : Nat) (entries : List (Key × Datum)) :
    linesOfEntries depth entries = linesOfLabelled depth (keyed entries) := by
  induction entries with
  | nil => simp [linesOfEntries, linesOfLabelled, keyed]
  | cons entry rest ih =>
    rw [linesOfEntries, ih]
    simp [linesOfLabelled, keyed]

/-! ## Dumps hold the lines of data -/

variable {heap : Heap}

/-- The label that a dump writes for a key is the one of the key. -/
theorem keyLabel_eq {key : Key} {value : Value} (same : key.IsAt value) :
    keyLabel heap value = key.label := by
  cases key with
  | int number =>
    obtain ⟨identity, rfl⟩ := same
    rw [keyLabel, Value.written, Key.label]
    · cases (heap.size + 1) * (heap.size + 1) <;> rfl
    · intro chars type identity
      simp
  | text chars oneLine =>
    obtain ⟨identity, rfl⟩ := same
    rfl

/-- A scalar is printed on the line of the datum that it holds. -/
theorem plain_lines {value : Value} {datum : Datum} (single : IsScalar value datum) (depth : Nat) :
    (Outline.plain value).lines heap depth = datum.lines depth := by
  cases single with
  | nothing => rfl
  | bool value => cases value <;> rfl
  | int value identity => rfl
  | text value identity => rfl

/-- A scalar is no container. -/
theorem plain_fitsHeap {value : Value} {datum : Datum} (single : IsScalar value datum) :
    (Outline.plain value).FitsHeap heap := by
  cases single <;> exact fun identity cell same => nomatch same

/-- As many values are there as they hold data. -/
theorem Holds.length_eq {values : List Value} {data : List Datum} {met : List Ident}
    (holds : Holds heap values data met) : values.length = data.length := by
  induction holds with
  | nil => rfl
  | scalar single later ih => rw [List.length_cons, List.length_cons, ih]
  | list found within later _ ih => rw [List.length_cons, List.length_cons, ih]
  | tuple found within later _ ih => rw [List.length_cons, List.length_cons, ih]
  | dict found keys within later _ ih => rw [List.length_cons, List.length_cons, ih]

/-- Whether values and data have the same labels. -/
structure Labels (labelled : List (String × Value)) (told : List (String × Datum))
    (values : List Value) (data : List Datum) : Prop where
  /-- The labels are the same. -/
  same : labelled.map Prod.fst = told.map Prod.fst
  /-- The values are labelled. -/
  values : labelled.map Prod.snd = values
  /-- The data are labelled. -/
  data : told.map Prod.snd = data

/-- The first value and the first datum have the same label. -/
theorem Labels.uncons {labelled : List (String × Value)} {told : List (String × Datum)}
    {value : Value} {datum : Datum} {rest : List Value} {others : List Datum}
    (labels : Labels labelled told (value :: rest) (datum :: others)) :
    ∃ label laterLabelled laterTold, labelled = (label, value) :: laterLabelled ∧
      told = (label, datum) :: laterTold ∧ Labels laterLabelled laterTold rest others := by
  obtain ⟨same, values, data⟩ := labels
  cases labelled with
  | nil => cases values
  | cons first laterLabelled =>
    cases told with
    | nil => cases data
    | cons second laterTold =>
      obtain ⟨label, own⟩ := first
      obtain ⟨other, shown⟩ := second
      cases values
      cases data
      rw [List.map_cons, List.map_cons, List.cons.injEq] at same
      obtain ⟨rfl, same⟩ := same
      exact ⟨label, laterLabelled, laterTold, rfl, rfl, same, rfl, rfl⟩

/-- Values and as many data are labelled by the same numbers. -/
theorem Labels.numbered {values : List Value} {data : List Datum} (same : values.length = data.length) :
    Labels (Dump.numbered values) (numberedFrom 0 data) values data := by
  have numbers {α : Type} (items : List α) :
      ((items.zipIdx 0).map fun entry => (toString entry.2, entry.1)).map Prod.fst =
        (List.range' 0 items.length).map toString := by
    rw [List.map_map, ← List.zipIdx_map_snd 0 items, List.map_map]
    rfl
  refine ⟨?_, values_numbered values, by simp [numberedFrom, Function.comp_def]⟩
  rw [Dump.numbered, numberedFrom, numbers, numbers, same]

/-- Values under keys are labelled as the data under the same keys are. -/
theorem Labels.keyed (heap : Heap) {items : List (Value × Value)} {entries : List (Key × Datum)}
    (keys : List.Forall₂ Key.IsAt (entries.map Prod.fst) (items.map Prod.fst)) :
    Labels (items.map fun item => (keyLabel heap item.1, item.2)) (Dump.keyed entries)
      (items.map Prod.snd) (entries.map Prod.snd) := by
  refine ⟨?_, by simp [Function.comp_def], by simp [Dump.keyed, Function.comp_def]⟩
  have labels (keys : List Key) (values : List Value) (spelled : List.Forall₂ Key.IsAt keys values) :
      values.map (keyLabel heap) = keys.map Key.label := by
    induction spelled with
    | nil => rfl
    | cons same later ih => rw [List.map_cons, List.map_cons, keyLabel_eq same, ih]
  simpa [Dump.keyed, Function.comp_def] using labels _ _ keys

/-- The lines of labelled data follow one another. -/
theorem linesOfLabelled_cons (depth : Nat) (label : String) (datum : Datum)
    (rest : List (String × Datum)) :
    linesOfLabelled depth ((label, datum) :: rest) =
      ⟨2 * depth, labelContent label⟩ :: datum.lines depth ++ linesOfLabelled depth rest := by
  simp [linesOfLabelled]

/-- Whether a dump of labelled values, behind some opened containers, opens only some containers more and
writes the lines of labelled data. -/
def Shows (heap : Heap) (labelled : List (String × Value)) (opened met : List Ident)
    (told : List (String × Datum)) : Prop :=
  ∃ inside final, Visits heap labelled opened inside final ∧
    (∀ identity ∈ final, identity ∈ opened ∨ identity ∈ met) ∧
    ∀ depth, Outline.linesOfAll heap depth inside = linesOfLabelled depth told

/-- What is opened once a container is has nothing twice if the container, when it has entries, is new. -/
theorem nodup_marked {identity : Ident} {cell : Cell} {opened : List Ident} :
    (marked identity cell opened).Nodup ↔ (cell.size ≠ 0 → identity ∉ opened) ∧ opened.Nodup := by
  unfold marked
  split
  · rename_i empty
    simp [empty]
  · rename_i some
    simp [some]

/-- Containers that are met once inside of a container are new once that container is opened. -/
theorem unmet_marked {identity : Ident} {cell : Cell} {opened inner : List Ident}
    (once : (marked identity cell inner).Nodup)
    (unmet : ∀ other ∈ marked identity cell inner, other ∉ opened) :
    ∀ other ∈ inner, other ∉ marked identity cell opened := by
  intro other member known
  rcases mem_marked.1 known with ⟨rfl, some⟩ | known
  · exact (nodup_marked.1 once).1 some member
  · exact unmet other (subset_marked identity cell inner member) known

/-- A container is new if what is met from it on is new. -/
theorem Filled.not_mem {identity : Ident} {cell : Cell} {opened inner : List Ident}
    (filled : Filled heap opened) (found : heap.get? identity = some cell)
    (unmet : ∀ other ∈ Dump.marked identity cell inner, other ∉ opened) : identity ∉ opened := by
  intro known
  obtain ⟨other, same, -, some⟩ := filled identity known
  cases same.symm.trans found
  exact unmet identity (mem_marked.2 (.inl ⟨rfl, some⟩)) known

variable {labelled : List (String × Value)} {told : List (String × Datum)} {opened met : List Ident}

/-- A container that is not opened yet is shown with the lines of the data inside of it. -/
theorem Shows.container {label : String} {identity : Ident} {cell : Cell} {datum : Datum}
    {within : List (String × Datum)} {inner : List Ident} (filled : Filled heap opened)
    (found : heap.get? identity = some cell) (container : isContainer cell = true)
    (once : (marked identity cell inner ++ met).Nodup)
    (unmet : ∀ other ∈ marked identity cell inner ++ met, other ∉ opened)
    (written : ∀ depth, datum.lines depth =
      ⟨2 * depth, headerFor identity cell within.length⟩ :: linesOfLabelled (depth + 1) within ++
        [⟨2 * depth, .text (closing cell)⟩])
    (counted : within.length = cell.size)
    (entered : inner.Nodup → Filled heap (marked identity cell opened) →
      (∀ other ∈ inner, other ∉ marked identity cell opened) →
      Shows heap (entries heap cell) (marked identity cell opened) inner within)
    (later : ∀ between, met.Nodup → Filled heap between → (∀ other ∈ met, other ∉ between) →
      Shows heap labelled between met told) :
    Shows heap ((label, .ref identity) :: labelled) opened (marked identity cell inner ++ met)
      ((label, datum) :: told) := by
  obtain ⟨onceInside, onceBehind, apart⟩ := List.nodup_append.1 once
  have unmetHere : ∀ other ∈ marked identity cell inner, other ∉ opened :=
    fun other member => unmet other (List.mem_append_left _ member)
  have unknown := filled.not_mem found unmetHere
  have filledInside := filled.marked found container
  obtain ⟨inside, between, made, knownInside, linesInside⟩ :=
    entered (nodup_marked.1 onceInside).2 filledInside (unmet_marked onceInside unmetHere)
  have knownBetween : ∀ other ∈ between, other ∈ opened ∨ other ∈ marked identity cell inner := by
    intro other member
    rcases knownInside other member with known | known
    · rcases mem_marked.1 known with ⟨rfl, some⟩ | known
      · exact .inr (mem_marked.2 (.inl ⟨rfl, some⟩))
      · exact .inl known
    · exact .inr (subset_marked identity cell inner known)
  have unmetBehind : ∀ other ∈ met, other ∉ between := by
    intro other member known
    rcases knownBetween other known with known | known
    · exact unmet other (List.mem_append_right _ member) known
    · exact apart other known other member rfl
  obtain ⟨others, final, madeBehind, knownBehind, linesBehind⟩ :=
    later between onceBehind (made.fitsHeap filledInside).2 unmetBehind
  refine ⟨_, final, .opened unknown found container made madeBehind, fun other member => ?_,
    fun depth => ?_⟩
  · rcases knownBehind other member with known | known
    · rcases knownBetween other known with known | known
      · exact .inl known
      · exact .inr (List.mem_append_left _ known)
    · exact .inr (List.mem_append_right _ known)
  · have count : inside.length = within.length := (made.length_entries container).trans counted.symm
    rw [Outline.linesOfAll, Outline.lines, linesInside, linesBehind, linesOfLabelled_cons, written, count]

/-- Values that hold data without meeting a container with entries twice are shown with the lines of the
data. -/
theorem Holds.shows {values : List Value} {data : List Datum} (holds : Holds heap values data met)
    (once : met.Nodup) (filled : Filled heap opened) (unmet : ∀ identity ∈ met, identity ∉ opened)
    (labels : Labels labelled told values data) : Shows heap labelled opened met told := by
  induction holds generalizing opened labelled told with
  | nil =>
    obtain ⟨same, values, data⟩ := labels
    cases List.map_eq_nil_iff.1 values
    cases List.map_eq_nil_iff.1 data
    exact ⟨[], opened, .nil opened, fun identity known => .inl known, fun depth => rfl⟩
  | scalar single later ih =>
    obtain ⟨label, laterLabelled, laterTold, rfl, rfl, more⟩ := labels.uncons
    obtain ⟨inside, final, made, known, lines⟩ := ih once filled unmet more
    refine ⟨_, final, .plain (plain_fitsHeap single) made, known, fun depth => ?_⟩
    rw [Outline.linesOfAll, plain_lines single, lines, linesOfLabelled_cons]
  | @list identity items data inside rest others met found within later before behind =>
    obtain ⟨label, laterLabelled, laterTold, rfl, rfl, more⟩ := labels.uncons
    have numbers : (numberedFrom 0 data).length = data.length := by simp [numberedFrom]
    have numbered := Labels.numbered within.length_eq
    refine Shows.container filled found rfl once unmet (fun depth => ?_)
      (numbers.trans within.length_eq.symm) (fun once filled unmet => before once filled unmet numbered)
      fun between once filled unmet => behind once filled unmet more
    rw [Datum.lines, linesOfItems_eq, headerFor, numbers]
    rfl
  | @tuple identity items data inside rest others met found within later before behind =>
    obtain ⟨label, laterLabelled, laterTold, rfl, rfl, more⟩ := labels.uncons
    have numbers : (numberedFrom 0 data).length = data.length := by simp [numberedFrom]
    have numbered := Labels.numbered within.length_eq
    refine Shows.container filled found rfl once unmet (fun depth => ?_)
      (numbers.trans within.length_eq.symm) (fun once filled unmet => before once filled unmet numbered)
      fun between once filled unmet => behind once filled unmet more
    rw [Datum.lines, linesOfItems_eq, headerFor, numbers]
    rfl
  | @dict identity items entries inside rest others met found keys within later before behind =>
    obtain ⟨label, laterLabelled, laterTold, rfl, rfl, more⟩ := labels.uncons
    have counted : (Dump.keyed entries).length = entries.length := List.length_map _
    have labelled := Labels.keyed heap keys
    refine Shows.container filled found rfl once unmet (fun depth => ?_)
      (counted.trans (by simpa [Cell.size] using within.length_eq.symm))
      (fun once filled unmet => before once filled unmet labelled)
      fun between once filled unmet => behind once filled unmet more
    rw [Datum.lines, linesOfEntries_eq, headerFor, counted, sizedHeader, ← String.append_assoc]
    rfl

/-- The dump of a value that holds a datum has the lines of the datum. -/
theorem HoldsOnce.lines_eq {graph : Graph} {datum : Datum} (holds : HoldsOnce graph datum) :
    lines graph = datum.lines 0 := by
  obtain ⟨met, holds, once⟩ := holds
  have labels : Labels [("", graph.root)] [("", datum)] [graph.root] [datum] := ⟨rfl, rfl, rfl⟩
  have filled : Filled graph.heap [] := fun identity none => absurd none List.not_mem_nil
  obtain ⟨inside, final, made, -, written⟩ :=
    holds.shows once filled (fun identity member => List.not_mem_nil) labels
  have same := made.map_value
  obtain ⟨⟨label, visit⟩, rfl⟩ : ∃ entry, inside = [entry] := by
    have single := congrArg List.length same
    rw [List.length_map] at single
    exact List.length_eq_one_iff.1 single
  obtain rfl : label = "" := congrArg Prod.fst (List.cons.inj same).1
  have own := written 0
  simp only [Outline.linesOfAll, linesOfLabelled, List.flatMap_cons, List.flatMap_nil, List.append_nil,
    List.cons.injEq, true_and] at own
  have told : visit.Tells graph := ⟨final, made⟩
  exact (told.append_eq (Nat.lt_succ_self _)).trans own

end LiveConsole.Dump
