import LiveConsole.Proofs.Dump.Sharing
import LiveConsole.Proofs.Value.Renaming
import Mathlib.Data.List.Forall2

/-!
# Dumps side by side

Two dumps of values that are alike go the same way. How they may differ is told by one record: the names of
identities, the labels of entries, and the faults that they may end with. When each container that can be
reached has its like in the other heap, line goes with line, and containers that are opened go with
containers that are opened. The main statement is that a dump of a value whose identities have other names
is the dump of that value, with those names in the headers of objects.
-/
namespace LiveConsole

variable {f : Ident → Ident}

namespace Dump

/-- What a line says, with other identities. -/
def Content.rename (f : Ident → Ident) : Content → Content
  | text value => text value
  | object type identity size => object type (f identity) size

/-- A line with other identities. -/
def Line.rename (f : Ident → Ident) (line : Line) : Line := { line with content := line.content.rename f }

/-- The text of a line with other identities is its own text, with those identities written in place of its
own. -/
theorem Line.render_rename (showIdent : Ident → String) (line : Line) :
    (line.rename f).render showIdent = line.render (showIdent ∘ f) := by
  obtain ⟨indent, content⟩ := line
  cases content <;> rfl

/-- The label of a key does not tell identities. -/
theorem keyLabel_rename (apart : f.Injective) (heap : Heap) (key : Value) :
    keyLabel (heap.rename f) (key.rename f) = keyLabel heap key := by
  cases key with
  | text value type identity => rfl
  | _ => exact Value.written_rename apart heap _

/-- Numbers do not depend on the values that are numbered. -/
theorem numbered_map (g : Value → Value) (values : List Value) :
    numbered (values.map g) = (numbered values).map (Prod.map id g) := by
  simp [numbered, List.zipIdx_map]

/-- The order in which members are listed does not depend on identities. -/
theorem sortMembers_rename (apart : f.Injective) (heap : Heap) (members : List Value) :
    sortMembers (heap.rename f) (members.map (Value.rename f)) =
      (sortMembers heap members).map (Value.rename f) := by
  have keyed : (members.map (Value.rename f)).map (fun member => (member.written (heap.rename f), member)) =
      (members.map fun member => (member.written heap, member)).map (Prod.map id (Value.rename f)) := by
    simp [Function.comp_def, Value.written_rename apart]
  rw [sortMembers, sortMembers, keyed,
    ← List.map_mergeSort (f := Prod.map id (Value.rename f)) (fun _ _ _ _ => by rfl), List.map_map, List.map_map]
  rfl

/-- The entries of a container with other identities are its own, with those identities, under the same labels. -/
theorem entries_rename (apart : f.Injective) (heap : Heap) (cell : Cell) :
    entries (heap.rename f) (cell.rename f) = (entries heap cell).map (Prod.map id (Value.rename f)) := by
  cases cell with
  | list items type => exact numbered_map _ items
  | tuple items type => exact numbered_map _ items
  | dict items type => simp [entries, Cell.rename, Function.comp_def, keyLabel_rename apart]
  | set frozen members table type =>
    rw [Cell.rename, entries, sortMembers_rename apart, numbered_map]
    rfl
  | buffer data type => rfl
  | object attributes type => simp [entries, Cell.rename, Function.comp_def]
  | error arguments type => rfl

/-- The header of a container with other identities is its own, with those identities. -/
theorem header_rename (identity : Ident) (cell : Cell) :
    header (f identity) (cell.rename f) = (header identity cell).rename f := by
  cases cell <;> simp [header, Cell.rename, Content.rename]

/-! ## Looking through a value -/

/-- Look through labelled values one after another. -/
def surveyAll (heap : Heap) (room : Nat) (labelled : List (Option Fault × Value)) (opened : List Ident) :
    Except Fault (List Ident) :=
  labelled.foldlM
    (fun opened entry =>
      match entry.1 with
      | some fault => .error fault
      | none => survey heap room entry.2 opened)
    opened

section

variable {heap : Heap} {room : Nat} {opened : List Ident} {identity : Ident}

/-- What is no reference opens nothing; it may not be writable. -/
theorem survey_scalar {value : Value} (scalar : ∀ identity, value ≠ .ref identity) :
    survey heap (room + 1) value opened =
      match value.scalarObstacle? with
      | some fault => .error fault
      | none => .ok opened :=
  survey.eq_3 heap value opened room scalar

/-- A container that was opened before is not looked into. -/
theorem survey_again (known : identity ∈ opened) :
    survey heap (room + 1) (.ref identity) opened = .ok opened := by
  rw [survey, if_pos (by simpa using known)]

/-- What leads nowhere opens nothing. -/
theorem survey_nowhere (unknown : identity ∉ opened) (missing : heap.get? identity = none) :
    survey heap (room + 1) (.ref identity) opened = .ok opened := by
  rw [survey, if_neg (by simpa using unknown), missing]

/-- A container that was not opened before is looked into, behind what keeps its entries from being listed. -/
theorem survey_cell {cell : Cell} (unknown : identity ∉ opened) (found : heap.get? identity = some cell) :
    survey heap (room + 1) (.ref identity) opened =
      match labelObstacle? heap cell with
      | some fault => .error fault
      | none => surveyAll heap room (labelled heap cell) (marked identity cell opened) := by
  rw [survey, if_neg (by simpa using unknown), found]
  rfl

end

/-! ## Dumps side by side -/

/-- What is listed of a container that can be reached can be reached. -/
theorem Reachable.entry {heap : Heap} {root : Value} {identity : Ident} {cell : Cell}
    (outer : Reachable heap root (.ref identity)) (found : heap.get? identity = some cell)
    {entry : String × Value} (member : entry ∈ entries heap cell) : Reachable heap root entry.2 :=
  .inside outer found ((entries_perm heap cell).mem_iff.1 (List.mem_map_of_mem member))

/-- The values that a dump looks into are those that it lists. -/
theorem labelled_values (heap : Heap) (cell : Cell) :
    (labelled heap cell).map (·.2) = (entries heap cell).map (·.2) := by
  cases cell with
  | dict items type =>
    simp only [labelled, entries, List.map_map]
    refine List.map_congr_left fun item _ => ?_
    simp only [Function.comp]
    split <;> rfl
  | _ => simp [labelled]

/-- What is looked into of a container that can be reached can be reached. -/
theorem Reachable.labelled {heap : Heap} {root : Value} {identity : Ident} {cell : Cell}
    (outer : Reachable heap root (.ref identity)) (found : heap.get? identity = some cell)
    {entry : Option Fault × Value} (member : entry ∈ labelled heap cell) : Reachable heap root entry.2 := by
  have value : entry.2 ∈ (entries heap cell).map (·.2) := by
    rw [← labelled_values]
    exact List.mem_map_of_mem member
  exact .inside outer found ((entries_perm heap cell).mem_iff.1 value)

/-- How one dump may differ from another one. -/
structure Difference where
  /-- The identities in the second dump, by those in the first. -/
  rename : Ident → Ident
  /-- No two identities become one. -/
  rename_injective : rename.Injective
  /-- The labels that the second dump may have where the first one has a given one. -/
  Relabels : String → String → Prop
  /-- The faults that the second dump may end with where the first one ends with a given one. -/
  Refaults : Fault → Fault → Prop
  /-- A fault may be the same. -/
  refaults_self (fault : Fault) : Refaults fault fault

namespace Difference

variable (difference : Difference)

/-- Whether what a line says may become what another one says. -/
inductive OfContent : Content → Content → Prop where
  /-- It says the same with other identities. -/
  | renamed (content : Content) : OfContent content (content.rename difference.rename)
  /-- It is another label. -/
  | relabelled {label other : String} (as : difference.Relabels label other) :
    OfContent (labelContent label) (labelContent other)

/-- Whether a line may become another one. -/
structure OfLine (line other : Line) : Prop where
  /-- It stands as far in. -/
  indent : other.indent = line.indent
  /-- It says what the other one may say. -/
  content : difference.OfContent line.content other.content

/-- Whether the containers opened are those opened by another one. -/
def OfOpened (opened other : List Ident) : Prop := other = opened.map difference.rename

/-- Whether what a dump has done so far may become what another one has. -/
structure OfProgress (progress other : Progress) : Prop where
  /-- The lines may become those of the other one, one by one. -/
  lines : List.Forall₂ difference.OfLine progress.lines.toList other.lines.toList
  /-- The containers opened are the same, with other identities. -/
  opened : difference.OfOpened progress.opened other.opened

/-- Whether two labelled values may stand for one another. -/
structure OfEntry {α : Type} (Label : α → α → Prop) (entry other : α × Value) : Prop where
  /-- The label may become the other one. -/
  label : Label entry.1 other.1
  /-- The value is the same, with other identities. -/
  value : other.2 = entry.2.rename difference.rename

/-- Whether a container of one heap looks in a dump as one of another heap may look. -/
structure OfCell (first second : Heap) (identity : Ident) (cell other : Cell) : Prop where
  /-- What takes one line is the same. -/
  buffer : isContainer cell = false → other = cell
  /-- What is opened is opened. -/
  container : isContainer cell = true → isContainer other = true
  /-- It has as many entries. -/
  size : other.size = cell.size
  /-- It has the same header, with other identities. -/
  header : header (difference.rename identity) other = (header identity cell).rename difference.rename
  /-- It has the same closing bracket. -/
  closing : closing other = closing cell
  /-- The entries are those of the other one, under labels that it may have. -/
  entries : List.Forall₂ (difference.OfEntry difference.Relabels) (entries first cell) (entries second other)
  /-- What keeps the entries from being listed may keep those of the other one. -/
  obstacle : Option.Rel difference.Refaults (labelObstacle? first cell) (labelObstacle? second other)
  /-- What keeps a label from being written may keep that of the other one. -/
  labelled : List.Forall₂ (difference.OfEntry (Option.Rel difference.Refaults)) (labelled first cell)
    (labelled second other)

/-- Whether each container that can be reached from a value of one heap looks in a dump as its like in
another heap may look. -/
def Between (first second : Heap) (root : Value) : Prop :=
  ∀ identity, Reachable first root (.ref identity) →
    Option.Rel (difference.OfCell first second identity) (first.get? identity)
      (second.get? (difference.rename identity))

/-- Whether an outcome may become another one. -/
inductive OfOutcome {α : Type} (Result : α → α → Prop) : Except Fault α → Except Fault α → Prop where
  /-- Both have a result. -/
  | ok {result other : α} (same : Result result other) : OfOutcome Result (.ok result) (.ok other)
  /-- Both end with a fault. -/
  | error {fault other : Fault} (as : difference.Refaults fault other) :
    OfOutcome Result (.error fault) (.error other)

variable {difference} {first second : Heap} {root : Value} {progress other : Progress}

/-- One line more that may become another one. -/
theorem OfProgress.push (so : difference.OfProgress progress other) {indent : Nat} {content copy : Content}
    (same : difference.OfContent content copy) :
    difference.OfProgress (progress.push indent content) (other.push indent copy) where
  lines := by
    simp only [Progress.push, Array.toList_push]
    exact List.rel_append so.lines (.cons ⟨rfl, same⟩ .nil)
  opened := so.opened

/-- What keeps something from being written may stay as it is. -/
theorem rel_self (difference : Difference) (obstacle : Option Fault) :
    Option.Rel difference.Refaults obstacle obstacle := by
  cases obstacle with
  | none => exact .none
  | some fault => exact .some (difference.refaults_self fault)

/-- A text says the same with any identities. -/
theorem OfContent.text (value : String) : difference.OfContent (.text value) (.text value) :=
  .renamed (.text value)

/-- What is printed on one line says the same with any identities. -/
theorem OfContent.plain (heap : Heap) (value : Value) :
    difference.OfContent (plainContent heap value) (plainContent heap value) := by
  cases value with
  | ref identity =>
    rw [plainContent]
    split <;> exact .text _
  | _ => exact .text _

/-- A container that can be reached has its like in the other heap. -/
theorem Between.exists_cell (between : difference.Between first second root) {identity : Ident} {cell : Cell}
    (reached : Reachable first root (.ref identity)) (found : first.get? identity = some cell) :
    ∃ copy, second.get? (difference.rename identity) = some copy ∧
      difference.OfCell first second identity cell copy := by
  have like := between identity reached
  rw [found] at like
  cases copied : second.get? (difference.rename identity) with
  | none => rw [copied] at like; cases like
  | some copy =>
    rw [copied] at like
    cases like with
    | some same => exact ⟨copy, rfl, same⟩

/-- What leads nowhere leads nowhere in the other heap. -/
theorem Between.get?_eq_none (between : difference.Between first second root) {identity : Ident}
    (reached : Reachable first root (.ref identity)) (missing : first.get? identity = none) :
    second.get? (difference.rename identity) = none := by
  have like := between identity reached
  rw [missing] at like
  cases copied : second.get? (difference.rename identity) with
  | none => rfl
  | some copy => rw [copied] at like; cases like

/-- What is printed on one line is printed on the same line. -/
theorem Between.plain (between : difference.Between first second root) {value : Value}
    (reached : Reachable first root value) (single : (Outline.plain value).FitsHeap first) :
    (Outline.plain (value.rename difference.rename)).FitsHeap second ∧
      plainContent second (value.rename difference.rename) = plainContent first value := by
  cases value with
  | ref identity =>
    cases found : first.get? identity with
    | none =>
      have copied := between.get?_eq_none reached found
      refine ⟨fun other cell same known => ?_, by simp only [Value.rename, plainContent, found, copied]⟩
      cases same
      cases copied.symm.trans known
    | some cell =>
      obtain ⟨copy, copied, like⟩ := between.exists_cell reached found
      obtain rfl := like.buffer (single identity cell rfl found)
      refine ⟨fun other cell same known => ?_, ?_⟩
      · cases same
        cases copied.symm.trans known
        exact single identity copy rfl found
      · cases copy with
        | buffer data type =>
          simp only [Value.rename, plainContent, found, copied, Value.written_buffer found,
            Value.written_buffer copied]
        | _ => cases single identity _ rfl found
  | _ => exact ⟨by rintro identity cell ⟨⟩, rfl⟩

/-- Labelled values that are dumped side by side go on as they began, if each value does. -/
theorem OfProgress.appendAll {room depth : Nat} {labelled copies : List (String × Value)}
    (same : List.Forall₂ (difference.OfEntry difference.Relabels) labelled copies)
    (each : ∀ entry ∈ labelled, ∀ progress other, difference.OfProgress progress other →
      difference.OfProgress (append first room depth entry.2 progress)
        (append second room depth (entry.2.rename difference.rename) other))
    (so : difference.OfProgress progress other) :
    difference.OfProgress (appendAll first room depth labelled progress)
      (appendAll second room depth copies other) := by
  induction same generalizing progress other with
  | nil => exact so
  | @cons entry copy rest others like later ih =>
    obtain ⟨label, value⟩ := entry
    obtain ⟨copied, shown⟩ := copy
    obtain rfl := like.value
    rw [appendAll_cons, appendAll_cons]
    refine ih (fun entry member => each entry (List.mem_cons_of_mem _ member)) ?_
    exact each _ List.mem_cons_self _ _ (so.push (.relabelled like.label))

/-- Dumps of a value side by side go on as they began. -/
theorem Between.append (between : difference.Between first second root) (room depth : Nat) {value : Value}
    (reached : Reachable first root value) (so : difference.OfProgress progress other) :
    difference.OfProgress (append first room depth value progress)
      (append second room depth (value.rename difference.rename) other) := by
  induction room generalizing depth value progress other with
  | zero =>
    cases value <;> exact so.push (.text _)
  | succ room ih =>
    rcases cases_of_value first value with single | ⟨identity, cell, rfl, found, container⟩
    · obtain ⟨alsoSingle, same⟩ := between.plain reached single
      rw [append_single single, append_single alsoSingle, same]
      exact so.push (.plain first value)
    · obtain ⟨copy, copied, like⟩ := between.exists_cell reached found
      have known : difference.rename identity ∈ other.opened ↔ identity ∈ progress.opened := by
        rw [so.opened, List.mem_map_of_injective difference.rename_injective]
      rw [append_container found container, Value.rename,
        append_container copied (like.container container)]
      by_cases again : identity ∈ progress.opened
      · rw [if_pos again, if_pos (known.2 again)]
        exact so.push (.text _)
      · rw [if_neg again, if_neg (mt known.1 again), like.closing]
        refine OfProgress.push ?_ (.text _)
        refine OfProgress.appendAll like.entries (fun entry member progress other so => ?_) ?_
        · exact ih (depth + 1) (reached.entry found member) so
        · have started : difference.OfProgress (progress.push (2 * depth) (header identity cell))
              (other.push (2 * depth) (header (difference.rename identity) copy)) := by
            rw [like.header]
            exact so.push (.renamed _)
          refine ⟨started.lines, ?_⟩
          rw [marked, marked, like.size, so.opened]
          split <;> rfl

/-- Where nothing is opened, nothing changes. -/
theorem OfOutcome.unchanged (opened : List Ident) :
    difference.OfOutcome difference.OfOpened (.ok opened) (.ok (opened.map difference.rename)) := .ok rfl

/-- Outcomes go on as they began. -/
theorem OfOutcome.bind {α β : Type} {Result : α → α → Prop} {Next : β → β → Prop} {one copy : Except Fault α}
    {onward copied : α → Except Fault β} (so : difference.OfOutcome Result one copy)
    (next : ∀ result other, Result result other → difference.OfOutcome Next (onward result) (copied other)) :
    difference.OfOutcome Next (one >>= onward) (copy >>= copied) := by
  cases so with
  | ok same => exact next _ _ same
  | error as => exact .error as

/-- Behind an obstacle that may become another one, outcomes go on as they began. -/
theorem OfOutcome.behind {α : Type} {Result : α → α → Prop} {one copy : Except Fault α}
    (so : difference.OfOutcome Result one copy) {obstacle other : Option Fault} :
    Option.Rel difference.Refaults obstacle other →
      difference.OfOutcome Result
        (match obstacle with
          | some fault => .error fault
          | none => one)
        (match other with
          | some fault => .error fault
          | none => copy)
  | .none => so
  | .some as => .error as

/-- Labelled values that are looked through side by side go on as they began, if each value does. -/
theorem OfOutcome.surveyAll {room : Nat} {labelled copies : List (Option Fault × Value)}
    (same : List.Forall₂ (difference.OfEntry (Option.Rel difference.Refaults)) labelled copies)
    (each : ∀ entry ∈ labelled, ∀ opened, difference.OfOutcome difference.OfOpened
      (survey first room entry.2 opened)
      (survey second room (entry.2.rename difference.rename) (opened.map difference.rename)))
    (opened : List Ident) :
    difference.OfOutcome difference.OfOpened (surveyAll first room labelled opened)
      (surveyAll second room copies (opened.map difference.rename)) := by
  induction same generalizing opened with
  | nil => exact .unchanged opened
  | @cons entry copy rest others like later ih =>
    obtain ⟨obstacle, value⟩ := entry
    obtain ⟨copied, shown⟩ := copy
    obtain rfl := like.value
    have here := (each _ List.mem_cons_self opened).behind like.label
    refine here.bind fun opened other same => ?_
    subst same
    exact ih (fun entry member => each entry (List.mem_cons_of_mem _ member)) opened

/-- Values are looked through side by side with outcomes that may become one another. -/
theorem Between.survey (between : difference.Between first second root) (room : Nat) {value : Value}
    (reached : Reachable first root value) (opened : List Ident) :
    difference.OfOutcome difference.OfOpened (survey first room value opened)
      (survey second room (value.rename difference.rename) (opened.map difference.rename)) := by
  induction room generalizing value opened with
  | zero => exact .error (difference.refaults_self _)
  | succ room ih =>
    rcases exists_or_forall_not fun identity => value = .ref identity with ⟨identity, rfl⟩ | scalar
    · have known : difference.rename identity ∈ opened.map difference.rename ↔ identity ∈ opened :=
        List.mem_map_of_injective difference.rename_injective
      rw [Value.rename]
      by_cases again : identity ∈ opened
      · rw [survey_again again, survey_again (known.2 again)]
        exact .unchanged opened
      cases found : first.get? identity with
      | none =>
        rw [survey_nowhere again found,
          survey_nowhere (mt known.1 again) (between.get?_eq_none reached found)]
        exact .unchanged opened
      | some cell =>
        obtain ⟨copy, copied, like⟩ := between.exists_cell reached found
        rw [survey_cell again found, survey_cell (mt known.1 again) copied]
        have start : marked (difference.rename identity) copy (opened.map difference.rename) =
            (marked identity cell opened).map difference.rename := by
          rw [marked, marked, like.size]
          split <;> rfl
        rw [start]
        refine OfOutcome.behind ?_ like.obstacle
        exact .surveyAll like.labelled
          (fun entry member opened => ih (reached.labelled found member) opened) _
    · have alsoScalar : ∀ identity, value.rename difference.rename ≠ .ref identity := by
        cases value with
        | ref identity => exact absurd rfl (scalar identity)
        | _ => rintro identity ⟨⟩
      rw [survey_scalar scalar, survey_scalar alsoScalar, Value.scalarObstacle?_rename]
      exact (OfOutcome.unchanged opened).behind (difference.rel_self _)

/-- What may become another result may become it in an outcome. -/
theorem OfOutcome.imp {α : Type} {Result Next : α → α → Prop} {one copy : Except Fault α}
    (so : difference.OfOutcome Result one copy) (next : ∀ result other, Result result other → Next result other) :
    difference.OfOutcome Next one copy := by
  cases so with
  | ok same => exact .ok (next _ _ same)
  | error as => exact .error as

/-- An outcome may become a fault only if it is one. -/
theorem OfOutcome.isOk_eq {α : Type} {Result : α → α → Prop} {one copy : Except Fault α}
    (so : difference.OfOutcome Result one copy) : copy.isOk = one.isOk := by
  cases so <;> rfl

/-- A result of an outcome goes on as the outcome did. -/
theorem OfOutcome.map {α β : Type} {Result : α → α → Prop} {Next : β → β → Prop} {one copy : Except Fault α}
    {onward copied : α → β} (so : difference.OfOutcome Result one copy)
    (next : ∀ result other, Result result other → Next (onward result) (copied other)) :
    difference.OfOutcome Next (one.map onward) (copy.map copied) := by
  cases so with
  | ok same => exact .ok (next _ _ same)
  | error as => exact .error as

/-- The lines of a dump may become those of the dump beside it. -/
theorem Between.lines (between : difference.Between first second root) :
    List.Forall₂ difference.OfLine (lines ⟨first, root⟩) (lines ⟨second, root.rename difference.rename⟩) := by
  have begun : difference.OfProgress ⟨#[], []⟩ ⟨#[], []⟩ := ⟨.nil, rfl⟩
  have so := between.append (max first.size second.size + 1) 0 .root begun
  rw [← append_eq_lines ⟨first, root⟩ (Nat.lt_succ_of_le (Nat.le_max_left _ _)),
    ← append_eq_lines ⟨second, _⟩ (Nat.lt_succ_of_le (Nat.le_max_right first.size second.size))]
  exact so.lines

/-- The dump of a value may become the dump beside it, unless both end with a fault. -/
theorem Between.lines? (between : difference.Between first second root) :
    difference.OfOutcome (List.Forall₂ difference.OfLine) (lines? ⟨first, root⟩)
      (lines? ⟨second, root.rename difference.rename⟩) :=
  (between.survey (greatestDepth + 1) .root []).map fun _ _ _ => between.lines

end Difference

/-! ## Dumps of renamed values -/

/-- Only identities differ, and only by their names. -/
def Difference.ofRenaming (apart : f.Injective) : Difference := ⟨f, apart, Eq, Eq, fun _ => rfl⟩

/-- A line may become only the same line with its identities renamed. -/
theorem Difference.OfLine.eq_rename {apart : f.Injective} {line other : Line}
    (may : (ofRenaming apart).OfLine line other) : other = line.rename f := by
  obtain ⟨indent, content⟩ := line
  obtain ⟨otherIndent, otherContent⟩ := other
  obtain ⟨same, told⟩ := may
  obtain rfl : otherIndent = indent := same
  cases told with
  | renamed content => rfl
  | relabelled as =>
    cases as
    rfl

/-- What keeps the entries of a container from being listed does not depend on identities. -/
theorem labelObstacle?_rename (apart : f.Injective) (heap : Heap) (cell : Cell) :
    labelObstacle? (heap.rename f) (cell.rename f) = labelObstacle? heap cell := by
  cases cell with
  | set frozen members table type =>
    rw [Cell.rename, labelObstacle?, List.findSome?_map]
    exact congrArg (fun obstacle => members.findSome? obstacle) (funext (Value.obstacle?_rename apart heap))
  | _ => rfl

/-- The values under the keys of a dictionary stand behind what keeps their keys from being written. -/
theorem labelled_dict (heap : Heap) (items : List (Value × Value)) (type : TypeName) :
    labelled heap (.dict items type) = items.map fun item => (item.1.obstacle? heap, item.2) := by
  refine List.map_congr_left fun item _ => ?_
  obtain ⟨key, value⟩ := item
  cases key <;> rfl

/-- What keeps a label from being written does not depend on identities. -/
theorem labelled_rename (apart : f.Injective) (heap : Heap) (cell : Cell) :
    labelled (heap.rename f) (cell.rename f) = (labelled heap cell).map (Prod.map id (Value.rename f)) := by
  have listed : (entries (heap.rename f) (cell.rename f)).map (fun entry => ((none : Option Fault), entry.2)) =
      ((entries heap cell).map fun entry => (none, entry.2)).map (Prod.map id (Value.rename f)) := by
    rw [entries_rename apart, List.map_map, List.map_map]
    rfl
  cases cell with
  | dict items type =>
    rw [Cell.rename, labelled_dict, labelled_dict, List.map_map, List.map_map]
    exact List.map_congr_left fun item _ => congrArg (·, _) (Value.obstacle?_rename apart heap item.1)
  | _ => exact listed

/-- Copies under the same labels stand for the entries that they are copies of. -/
theorem Difference.forall₂_ofEntry {difference : Difference} {α : Type} {Label : α → α → Prop}
    (same : ∀ label, Label label label) (entries : List (α × Value)) :
    List.Forall₂ (difference.OfEntry Label) entries
      (entries.map (Prod.map id (Value.rename difference.rename))) :=
  List.forall₂_map_right_iff.2 (List.forall₂_same.2 fun entry _ => ⟨same entry.1, rfl⟩)

/-- A heap and the heap with other identities are alike from each value on. -/
theorem Difference.between_rename (apart : f.Injective) (heap : Heap) (root : Value) :
    (ofRenaming apart).Between heap (heap.rename f) root := by
  intro identity _
  show Option.Rel _ (heap.get? identity) ((heap.rename f).get? (f identity))
  rw [heap.get?_rename apart]
  cases heap.get? identity with
  | none => exact .none
  | some cell =>
    refine .some ⟨fun single => ?_, fun container => ?_, ?_, header_rename identity cell, ?_, ?_, ?_, ?_⟩
    · cases cell with
      | buffer data type => rfl
      | _ => cases single
    · cases cell <;> exact container
    · cases cell <;> simp [Cell.rename, Cell.size]
    · cases cell <;> rfl
    · rw [entries_rename apart]
      exact forall₂_ofEntry (fun _ => rfl) _
    · rw [labelObstacle?_rename apart]
      exact rel_self _ _
    · rw [labelled_rename apart]
      exact forall₂_ofEntry (rel_self _) _

/-- Whether a line notes a container that was opened before does not depend on identities. -/
theorem Line.isRecursionMark_rename (line : Line) : (line.rename f).isRecursionMark = line.isRecursionMark := by
  obtain ⟨indent, content⟩ := line
  cases content <;> rfl

/-- Lines that may become others one by one are those, renamed. -/
theorem Difference.eq_map_rename {apart : f.Injective} {lines others : List Line}
    (may : List.Forall₂ (ofRenaming apart).OfLine lines others) : others = lines.map (Line.rename f) := by
  induction may with
  | nil => rfl
  | cons here later ih => rw [here.eq_rename, ih, List.map_cons]

/-- An outcome may become only the one with the identities of its result renamed. -/
theorem Difference.OfOutcome.eq_map {apart : f.Injective} {α : Type} {Result : α → α → Prop} {onward : α → α}
    {one copy : Except Fault α} (so : (ofRenaming apart).OfOutcome Result one copy)
    (same : ∀ result other, Result result other → other = onward result) : copy = one.map onward := by
  cases so with
  | ok told =>
    rw [same _ _ told]
    rfl
  | error as =>
    cases as
    rfl

end Dump

end LiveConsole
