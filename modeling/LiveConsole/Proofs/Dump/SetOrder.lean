import LiveConsole.Proofs.Dump.Alike
import Mathlib.Data.List.Nodup

/-!
# Dumps and the order of sets

The members of a set are met in some order, and a dump lists them in another one, by their written forms. The
main statement is that a dump does not depend on the order in which they are met, where written forms tell
the members of one set apart: not in what it lists, nor in where it notes that a container was opened
before. A label may depend on it: a key that holds a set is written with the members in the order in which
they are met.
-/
namespace LiveConsole

/-- What comes of writing a value: its written form, or the fault of what keeps it from being written. -/
def Value.writing (heap : Heap) (value : Value) : Except Fault String :=
  match value.obstacle? heap with
  | some fault => .error fault
  | none => .ok (value.written heap)

/-- Whether two containers are the same, but for the order in which the members of a set are met. -/
inductive Cell.Reordered : Cell → Cell → Prop where
  /-- They are the same. -/
  | same (cell : Cell) : Reordered cell cell
  /-- They are sets of the same members. -/
  | set (frozen : Bool) (table otherTable : Table) (type : TypeName) {members others : List Value}
    (same : members.Perm others) :
    Reordered (.set frozen members table type) (.set frozen others otherTable type)

/-- Whether two heaps are the same, but for the order in which the members of each set are met. -/
def Heap.Reordered (first second : Heap) : Prop :=
  ∀ identity, Option.Rel Cell.Reordered (first.get? identity) (second.get? identity)

/-- Whether members have written forms, no two of them the same one, in the same order in two heaps. -/
structure AreToldApart (first second : Heap) (members : List Value) : Prop where
  /-- Nothing keeps any of them from being written. -/
  writable : ∀ member ∈ members, member.obstacle? first = none ∧ member.obstacle? second = none
  /-- No two of them are written alike. -/
  apart : (members.map (Value.written first)).Nodup
  /-- What is before another one stays before it. -/
  before : ∀ member ∈ members, ∀ other ∈ members,
    member.written first < other.written first → member.written second < other.written second

/-- An identity leads nowhere in both heaps, or to containers that are the same but for their order. -/
theorem Heap.Reordered.cases {first second : Heap} (reordered : first.Reordered second) (identity : Ident) :
    first.get? identity = none ∧ second.get? identity = none ∨
      ∃ cell copy, first.get? identity = some cell ∧ second.get? identity = some copy ∧
        cell.Reordered copy := by
  have like := reordered identity
  generalize first.get? identity = found at like
  generalize second.get? identity = copied at like
  cases like with
  | none => exact .inl ⟨rfl, rfl⟩
  | some like => exact .inr ⟨_, _, rfl, rfl, like⟩

/-- Heaps whose containers are the same one by one, but for their order, are the same but for that. -/
theorem Heap.reordered_of_cells {first second : Heap}
    (alike : List.Forall₂ (fun entry other => entry.1 = other.1 ∧ entry.2.Reordered other.2)
      first.cells second.cells) : first.Reordered second := by
  intro identity
  rw [get?, get?]
  generalize first.cells = cells at alike
  generalize second.cells = copies at alike
  induction alike with
  | nil => exact .none
  | @cons entry other entries others like later ih =>
    obtain ⟨known, cell⟩ := entry
    obtain ⟨also, copy⟩ := other
    obtain ⟨rfl, like⟩ := like
    rw [List.lookup_cons, List.lookup_cons]
    cases identity == known with
    | true => exact .some like
    | false => exact ih

/-- A container that is found is one of the heap. -/
theorem Heap.mem_cells {heap : Heap} {identity : Ident} {cell : Cell} (found : heap.get? identity = some cell) :
    (identity, cell) ∈ heap.cells := by
  obtain ⟨before, behind, cells, -⟩ := List.lookup_eq_some_iff.1 found
  rw [cells]
  exact List.mem_append_right _ List.mem_cons_self

namespace Value

variable {first second : Heap} {value : Value}

/-! ## Writing values -/

/-- A written form comes of writing a value that nothing keeps from being written. -/
theorem writing_ok_iff {text : String} :
    value.writing first = .ok text ↔ value.obstacle? first = none ∧ value.written first = text := by
  rw [writing]
  cases value.obstacle? first with
  | none => simp
  | some fault => simp

/-- A value that is written alike in two heaps is kept from being written by the same thing. -/
theorem obstacle?_of_writing (same : value.writing second = value.writing first) :
    value.obstacle? second = value.obstacle? first := by
  rw [writing, writing] at same
  cases here : value.obstacle? first <;> cases there : value.obstacle? second <;> simp_all

/-- What is no reference is written alike in all heaps. -/
theorem written_scalar (scalar : ∀ identity, value ≠ .ref identity) :
    value.written first = value.writtenScalar := by
  rw [written, Nat.succ_mul, ← Nat.add_assoc]
  cases value with
  | ref identity => exact absurd rfl (scalar identity)
  | _ => rfl

/-- What keeps from being written what is no reference is the same in all heaps. -/
theorem obstacle?_scalar (scalar : ∀ identity, value ≠ .ref identity) :
    value.obstacle? first = value.scalarObstacle? := by
  cases value with
  | ref identity => exact absurd rfl (scalar identity)
  | _ => rfl

/-- Whether something keeps a value from being written does not depend on the order of sets. -/
theorem obstacleWithin?_eq_none_iff (reordered : first.Reordered second) (depth : Nat) (active : List Ident)
    (value : Value) :
    obstacleWithin? second depth active value = none ↔ obstacleWithin? first depth active value = none := by
  induction depth generalizing active value with
  | zero => rfl
  | succ depth ih =>
    cases value with
    | ref identity =>
      rw [obstacleWithin?, obstacleWithin?]
      by_cases again : active.contains identity = true
      · rw [if_pos again, if_pos again]
      rw [if_neg again, if_neg again]
      rcases reordered.cases identity with ⟨found, copied⟩ | ⟨cell, copy, found, copied, like⟩
      · rw [found, copied]
      · rw [found, copied]
        cases like with
        | same => cases cell <;> simp [List.findSome?_eq_none_iff, Option.or_eq_none_iff, ih]
        | set frozen table otherTable type same => simp [List.findSome?_eq_none_iff, ih, same.mem_iff]
    | _ => rfl

/-- Something keeps a value from being written in both heaps or in none. -/
theorem obstacle?_reordered (reordered : first.Reordered second) (value : Value) :
    Option.Rel (fun _ _ => True) (value.obstacle? first) (value.obstacle? second) := by
  have same : value.obstacle? second = none ↔ value.obstacle? first = none :=
    obstacleWithin?_eq_none_iff reordered _ [] value
  cases here : value.obstacle? first with
  | none =>
    rw [same.2 here]
    exact .none
  | some fault =>
    cases there : value.obstacle? second with
    | none => cases here.symm.trans (same.1 there)
    | some other => exact .some trivial

end Value

variable {first second : Heap} {root : Value} {members : List Value}

/-- Where the written form is a function of the member, in two heaps, members with different written forms are
told apart. -/
theorem AreToldApart.of_writing (written : Value → String)
    (each : ∀ member ∈ members,
      member.writing first = .ok (written member) ∧ member.writing second = .ok (written member))
    (apart : (members.map written).Nodup) : AreToldApart first second members := by
  have here : ∀ member ∈ members, member.written first = written member :=
    fun member mem => (Value.writing_ok_iff.1 (each member mem).1).2
  have there : ∀ member ∈ members, member.written second = written member :=
    fun member mem => (Value.writing_ok_iff.1 (each member mem).2).2
  refine ⟨fun member mem => ⟨(Value.writing_ok_iff.1 (each member mem).1).1,
    (Value.writing_ok_iff.1 (each member mem).2).1⟩, ?_, fun member mem other also before => ?_⟩
  · rw [List.map_congr_left here]
    exact apart
  · rwa [there member mem, there other also, ← here member mem, ← here other also]

/-- Members that are written alike are the same one. -/
theorem AreToldApart.eq_of_written (told : AreToldApart first second members) {member other : Value}
    (mem : member ∈ members) (also : other ∈ members) (alike : member.written first = other.written first) :
    member = other :=
  List.inj_on_of_nodup_map told.apart mem also alike

/-- What is before another member in one heap is before it in the other one. -/
theorem AreToldApart.lt_iff (told : AreToldApart first second members) {member other : Value}
    (mem : member ∈ members) (also : other ∈ members) :
    member.written second < other.written second ↔ member.written first < other.written first := by
  refine ⟨fun before => ?_, told.before member mem other also⟩
  by_contra behind
  by_cases alike : member.written first = other.written first
  · rw [told.eq_of_written mem also alike] at before
    exact String.lt_irrefl _ before
  · have strict := String.not_le.1 fun le => alike (String.le_antisymm le (String.not_lt.1 behind))
    exact String.lt_asymm before (told.before other also member mem strict)

namespace Dump

/-! ## Sorting members -/

/-- Members that are sorted have their written forms in order. -/
theorem pairwise_sortMembers (heap : Heap) (members : List Value) :
    (sortMembers heap members).Pairwise fun left right => ¬ right.written heap < left.written heap := by
  rw [sortMembers, List.pairwise_map]
  refine (List.pairwise_mergeSort ?_ ?_ _).imp_of_mem fun left right le => ?_
  · intro left middle right first second
    simp only [Bool.not_eq_true', decide_eq_false_iff_not, String.not_lt] at *
    exact String.le_trans first second
  · intro left right
    simp only [Bool.or_eq_true, Bool.not_eq_true', decide_eq_false_iff_not, String.not_lt]
    exact String.le_total _ _
  · obtain ⟨member, -, rfl⟩ := List.mem_map.1 (List.mem_mergeSort.1 left)
    obtain ⟨other, -, rfl⟩ := List.mem_map.1 (List.mem_mergeSort.1 right)
    simpa only [Bool.not_eq_true', decide_eq_false_iff_not] using le

/-- Members that are told apart are listed in one order, in whichever one they are met. -/
theorem sortMembers_of_perm (told : AreToldApart first second members) {others : List Value}
    (same : members.Perm others) : sortMembers second others = sortMembers first members := by
  have here := sortMembers_perm first members
  have there := (sortMembers_perm second others).trans same.symm
  -- Both lists are in the order of the written forms in the first heap, where no two members are written alike.
  have sorted : (sortMembers second others).Pairwise
      fun left right => ¬ right.written first < left.written first :=
    (pairwise_sortMembers second others).imp_of_mem fun left right =>
      mt (told.lt_iff (there.mem_iff.1 right) (there.mem_iff.1 left)).2
  refine List.Perm.eq_of_pairwise (fun left right listed also le ge => ?_) sorted
    (pairwise_sortMembers first members) (there.trans here.symm)
  exact told.eq_of_written (there.mem_iff.1 listed) (here.mem_iff.1 also)
    (String.le_antisymm (String.not_lt.1 le) (String.not_lt.1 ge))

/-! ## Keys -/

/-- Whether a container is a key of a dictionary that can be reached. -/
def IsKey (heap : Heap) (root : Value) (key : Ident) : Prop :=
  ∃ identity items type, Reachable heap root (.ref identity) ∧
    heap.get? identity = some (.dict items type) ∧ .ref key ∈ items.map (·.1)

/-- The label of a key that is no container is the same in all heaps. -/
theorem keyLabel_scalar {key : Value} (scalar : ∀ identity, key ≠ .ref identity) :
    keyLabel second key = keyLabel first key := by
  cases key with
  | text value type identity => rfl
  | _ => exact (Value.written_scalar scalar).trans (Value.written_scalar scalar).symm

/-- Whether a label may become another one: it stays, or both are the written form of a key that is a
container. -/
def IsRelabelled (first second : Heap) (root : Value) (label other : String) : Prop :=
  other = label ∨ ∃ key, IsKey first root key ∧ label = (Value.ref key).written first ∧
    other = (Value.ref key).written second

/-- Only labels differ, those of keys that are containers, and the faults that dumps may end with. -/
def Difference.ofOrder (first second : Heap) (root : Value) (Refaults : Fault → Fault → Prop)
    (self : ∀ fault, Refaults fault fault) : Difference :=
  ⟨id, Function.injective_id, IsRelabelled first second root, Refaults, self⟩

/-! ## Values that can be dumped -/

/-- Whether a value leads to a container among the opened ones, unless that one has no entries. -/
def Covered (heap : Heap) (opened : List Ident) (value : Value) : Prop :=
  ∀ identity cell, value = .ref identity → heap.get? identity = some cell → cell.size ≠ 0 → identity ∈ opened

/-- Whether labelled values were looked through: no label was kept from being written, and what each value
leads to is among the opened containers. -/
def AreThrough (heap : Heap) (opened : List Ident) (labelled : List (Option Fault × Value)) : Prop :=
  ∀ entry ∈ labelled, entry.1 = none ∧ Covered heap opened entry.2

/-- Whether the containers opened are those opened before and some that were looked through. -/
structure GoesThrough (heap : Heap) (opened final : List Ident) : Prop where
  /-- What was opened before still is. -/
  subset : opened ⊆ final
  /-- What is opened besides was looked through. -/
  through : ∀ identity ∈ final, identity ∈ opened ∨
    ∀ cell, heap.get? identity = some cell → AreThrough heap final (labelled heap cell)

section

variable {heap : Heap} {opened between final : List Ident}

/-- What was looked through stays so when more is opened. -/
theorem AreThrough.mono {labelled : List (Option Fault × Value)} (through : AreThrough heap opened labelled)
    (subset : opened ⊆ final) : AreThrough heap final labelled := fun entry member =>
  ⟨(through entry member).1, fun identity cell same found filled =>
    subset ((through entry member).2 identity cell same found filled)⟩

/-- Nothing is opened where nothing is looked into. -/
theorem GoesThrough.refl (opened : List Ident) : GoesThrough heap opened opened :=
  ⟨List.Subset.refl _, fun _ member => .inl member⟩

/-- Containers are opened one after another. -/
theorem GoesThrough.trans (first : GoesThrough heap opened between) (second : GoesThrough heap between final) :
    GoesThrough heap opened final where
  subset := List.Subset.trans first.subset second.subset
  through identity member := by
    rcases second.through identity member with known | through
    · exact (first.through identity known).imp_right fun through cell found =>
        (through cell found).mono second.subset
    · exact .inr through

/-- Labelled values that are looked through to the end, where this holds of each one. -/
theorem goesThrough_of_surveyAll {room : Nat} {labelled : List (Option Fault × Value)}
    (each : ∀ value opened final, survey heap room value opened = .ok final →
      GoesThrough heap opened final ∧ Covered heap final value)
    (ended : surveyAll heap room labelled opened = .ok final) :
    GoesThrough heap opened final ∧ AreThrough heap final labelled := by
  induction labelled generalizing opened with
  | nil =>
    cases ended
    exact ⟨.refl _, fun _ member => nomatch member⟩
  | cons entry rest ih =>
    obtain ⟨obstacle, value⟩ := entry
    cases obstacle with
    | some fault => cases ended
    | none =>
      have next : (survey heap room value opened >>= surveyAll heap room rest) = .ok final := ended
      cases here : survey heap room value opened with
      | error fault => rw [here] at next; cases next
      | ok between =>
        rw [here] at next
        obtain ⟨began, covered⟩ := each value opened between here
        obtain ⟨went, through⟩ := ih next
        refine ⟨began.trans went, fun entry member => ?_⟩
        rcases List.mem_cons.1 member with rfl | member
        · exact ⟨rfl, fun identity cell same found filled =>
            went.subset (covered identity cell same found filled)⟩
        · exact through entry member

/-- A value that is looked through to the end: what is opened on the way is looked through as well. -/
theorem goesThrough_of_survey {room : Nat} {value : Value} (ended : survey heap room value opened = .ok final) :
    GoesThrough heap opened final ∧ Covered heap final value := by
  induction room generalizing value opened final with
  | zero => cases ended
  | succ room ih =>
    rcases exists_or_forall_not fun identity => value = .ref identity with ⟨identity, rfl⟩ | scalar
    · by_cases again : identity ∈ opened
      · rw [survey_again again] at ended
        cases ended
        exact ⟨.refl _, fun other cell same _ _ => by cases same; exact again⟩
      cases found : heap.get? identity with
      | none =>
        rw [survey_nowhere again found] at ended
        cases ended
        exact ⟨.refl _, fun other cell same known _ => by cases same; cases found.symm.trans known⟩
      | some cell =>
        rw [survey_cell again found] at ended
        cases obstacle : labelObstacle? heap cell with
        | some fault => rw [obstacle] at ended; cases ended
        | none =>
          rw [obstacle] at ended
          obtain ⟨went, through⟩ := goesThrough_of_surveyAll (fun _ _ _ => ih) ended
          -- The container is opened before its entries are looked into, and it is through only behind them.
          have marked : GoesThrough heap opened final := by
            refine ⟨List.Subset.trans (subset_marked identity cell opened) went.subset, fun other member => ?_⟩
            rcases went.through other member with known | through
            · rcases mem_marked.1 known with ⟨rfl, -⟩ | known
              · exact .inr fun copy copied => by cases found.symm.trans copied; exact through
              · exact .inl known
            · exact .inr through
          refine ⟨marked, fun other copy same copied filled => went.subset ?_⟩
          cases same
          cases found.symm.trans copied
          exact mem_marked.2 (.inl ⟨rfl, filled⟩)
    · rw [survey_scalar scalar] at ended
      cases obstacle : value.scalarObstacle? with
      | some fault => rw [obstacle] at ended; cases ended
      | none =>
        rw [obstacle] at ended
        cases ended
        exact ⟨.refl _, fun identity _ same _ _ => absurd same (scalar identity)⟩

/-- A container with a value inside is not empty. -/
theorem size_ne_zero {cell : Cell} {value : Value} (member : value ∈ cell.values) : cell.size ≠ 0 := by
  intro empty
  cases cell <;> simp_all [Cell.values, Cell.size]

/-- Where a value is looked through to the end, each container that is opened was looked through. -/
theorem areThrough_of_mem {room : Nat} {root : Value} (ended : survey heap room root [] = .ok final)
    {identity : Ident} {cell : Cell} (opened : identity ∈ final) (found : heap.get? identity = some cell) :
    AreThrough heap final (labelled heap cell) :=
  ((goesThrough_of_survey ended).1.through identity opened).elim (fun none => nomatch none)
    fun through => through cell found

/-- Where a value is looked through to the end, each container with entries that can be reached is opened. -/
theorem covered_of_reachable {room : Nat} {root value : Value} (ended : survey heap room root [] = .ok final)
    (reached : Reachable heap root value) : Covered heap final value := by
  induction reached with
  | root => exact (goesThrough_of_survey ended).2
  | @inside identity cell value outer found member outside =>
    have inside := (entries_perm heap cell).mem_iff.2 member
    rw [← labelled_values] at inside
    obtain ⟨entry, listed, same⟩ := List.mem_map.1 inside
    have opened := outside identity cell rfl found (size_ne_zero member)
    rw [← same]
    exact (areThrough_of_mem ended opened found entry listed).2

/-- In a value that can be dumped, nothing keeps a key from being written. -/
theorem IsKey.obstacle? {root : Value} {shown : List Line} (ended : lines? ⟨heap, root⟩ = .ok shown) {key : Ident}
    (isKey : IsKey heap root key) : (Value.ref key).obstacle? heap = none := by
  cases surveyed : survey heap (greatestDepth + 1) root [] with
  | error fault => simp [lines?, surveyed, Except.map] at ended
  | ok final =>
    obtain ⟨identity, items, type, outer, found, member⟩ := isKey
    obtain ⟨item, listed, same⟩ := List.mem_map.1 member
    have filled : (Cell.dict items type).size ≠ 0 := mt List.length_eq_zero_iff.1 (List.ne_nil_of_mem listed)
    have opened := covered_of_reachable surveyed outer identity _ rfl found filled
    have written := areThrough_of_mem surveyed opened found
    rw [labelled_dict] at written
    rw [← same]
    exact (written _ (List.mem_map_of_mem listed)).1

end

/-! ## Dumps of reordered sets -/

namespace Difference

variable {Refaults : Fault → Fault → Prop} {self : ∀ fault, Refaults fault fault}

/-- Entries may stay as they are. -/
theorem forall₂_self {α : Type} {Label : α → α → Prop} (same : ∀ label, Label label label)
    (entries : List (α × Value)) :
    List.Forall₂ ((ofOrder first second root Refaults self).OfEntry Label) entries entries :=
  List.forall₂_same.2 fun entry _ => ⟨same entry.1, entry.2.rename_id.symm⟩

/-- A set looks in a dump as the set of the same members, met in another order, may look. -/
theorem ofCell_set (frozen : Bool) (table otherTable : Table) (type : TypeName) (identity : Ident)
    {others : List Value} (told : AreToldApart first second members) (same : members.Perm others) :
    (ofOrder first second root Refaults self).OfCell first second identity (.set frozen members table type)
      (.set frozen others otherTable type) := by
  have listed : entries second (.set frozen others otherTable type) =
      entries first (.set frozen members table type) := congrArg numbered (sortMembers_of_perm told same)
  refine ⟨fun single => (nomatch single), fun _ => rfl, same.length_eq.symm, ?_, rfl, ?_, ?_, ?_⟩
  · simp only [header, ← same.length_eq]
    rfl
  · rw [listed]
    exact forall₂_self (fun _ => .inl rfl) _
  · have here : labelObstacle? first (.set frozen members table type) = none :=
      List.findSome?_eq_none_iff.2 fun member mem => (told.writable member mem).1
    have there : labelObstacle? second (.set frozen others otherTable type) = none :=
      List.findSome?_eq_none_iff.2 fun member mem => (told.writable member (same.mem_iff.2 mem)).2
    rw [here, there]
    exact .none
  · have into : labelled second (.set frozen others otherTable type) =
        labelled first (.set frozen members table type) :=
      congrArg (List.map fun entry : String × Value => ((none : Option Fault), entry.2)) listed
    rw [into]
    exact forall₂_self (rel_self _) _

/-- A dictionary that can be reached looks in a dump as it may look where sets are met in another order. -/
theorem ofCell_dict {items : List (Value × Value)} {type : TypeName} {identity : Ident}
    (keys : ∀ key, IsKey first root key →
      Option.Rel Refaults ((Value.ref key).obstacle? first) ((Value.ref key).obstacle? second))
    (reached : Reachable first root (.ref identity)) (found : first.get? identity = some (.dict items type)) :
    (ofOrder first second root Refaults self).OfCell first second identity (.dict items type)
      (.dict items type) := by
  have isKey {key : Ident} {item : Value × Value} (member : item ∈ items) (same : item.1 = .ref key) :
      IsKey first root key := ⟨identity, items, type, reached, found, same ▸ List.mem_map_of_mem member⟩
  refine ⟨fun single => (nomatch single), fun _ => rfl, rfl, rfl, rfl, ?_, .none, ?_⟩
  · rw [entries, entries, List.forall₂_map_left_iff, List.forall₂_map_right_iff, List.forall₂_same]
    refine fun item member => ⟨?_, item.2.rename_id.symm⟩
    rcases exists_or_forall_not fun key => item.1 = .ref key with ⟨key, same⟩ | scalar
    · simp only [same]
      exact .inr ⟨key, isKey member same, rfl, rfl⟩
    · exact .inl (keyLabel_scalar scalar)
  · rw [labelled_dict, labelled_dict, List.forall₂_map_left_iff, List.forall₂_map_right_iff, List.forall₂_same]
    refine fun item member => ⟨?_, item.2.rename_id.symm⟩
    rcases exists_or_forall_not fun key => item.1 = .ref key with ⟨key, same⟩ | scalar
    · simp only [same]
      exact keys key (isKey member same)
    · simp only [Value.obstacle?_scalar scalar]
      exact rel_self (ofOrder first second root Refaults self) _

/-- Heaps whose sets are met in other orders are alike from a value on, where the members of the sets that can
be reached from it are told apart. -/
theorem between_of_reordered (reordered : first.Reordered second)
    (told : ∀ identity frozen members table type, Reachable first root (.ref identity) →
      first.get? identity = some (.set frozen members table type) → AreToldApart first second members)
    (keys : ∀ key, IsKey first root key →
      Option.Rel Refaults ((Value.ref key).obstacle? first) ((Value.ref key).obstacle? second)) :
    (ofOrder first second root Refaults self).Between first second root := by
  intro identity reached
  show Option.Rel _ (first.get? identity) (second.get? identity)
  rcases reordered.cases identity with ⟨found, copied⟩ | ⟨cell, copy, found, copied, like⟩
  · rw [found, copied]
    exact .none
  · rw [found, copied]
    refine .some ?_
    cases like with
    | set frozen table otherTable type same =>
      exact ofCell_set frozen table otherTable type identity (told _ _ _ _ _ reached found) same
    | same =>
      cases cell with
      | set frozen members table type =>
        exact ofCell_set frozen table table type identity (told _ _ _ _ _ reached found) (.refl _)
      | dict items type => exact ofCell_dict keys reached found
      | _ =>
        exact ⟨fun _ => rfl, id, rfl, rfl, rfl, forall₂_self (fun _ => .inl rfl) _, .none,
          forall₂_self (rel_self _) _⟩

end Difference

/-- Whether a line stays as it is, or is the label of an entry and shows the written form of a key that is a
container. -/
def IsSameButKey (first second : Heap) (root : Value) (line other : Line) : Prop :=
  other = line ∨ ∃ key, IsKey first root key ∧ line.content = labelContent ((Value.ref key).written first) ∧
    other = { line with content := labelContent ((Value.ref key).written second) }

/-- A line may become itself, or another label of a key that is a container. -/
theorem Difference.OfLine.isSameButKey {Refaults : Fault → Fault → Prop}
    {self : ∀ fault, Refaults fault fault} {line other : Line}
    (may : (ofOrder first second root Refaults self).OfLine line other) :
    IsSameButKey first second root line other := by
  obtain ⟨indent, content⟩ := line
  obtain ⟨otherIndent, otherContent⟩ := other
  obtain ⟨same, told⟩ := may
  obtain rfl : otherIndent = indent := same
  cases told with
  | renamed content => cases content <;> exact .inl rfl
  | relabelled as =>
    rcases as with rfl | ⟨key, isKey, rfl, rfl⟩
    · exact .inl rfl
    · exact .inr ⟨key, isKey, rfl, rfl⟩

/-- The lines of a dump stay as they are, but for keys, where the members of sets are met in another order. -/
theorem Difference.Between.lines_of_order {Refaults : Fault → Fault → Prop}
    {self : ∀ fault, Refaults fault fault}
    (between : (ofOrder first second root Refaults self).Between first second root) :
    List.Forall₂ (IsSameButKey first second root) (Dump.lines ⟨first, root⟩) (Dump.lines ⟨second, root⟩) ∧
      (ofOrder first second root Refaults self).OfOutcome (List.Forall₂ (IsSameButKey first second root))
        (Dump.lines? ⟨first, root⟩) (Dump.lines? ⟨second, root⟩) := by
  have kept : root.rename (ofOrder first second root Refaults self).rename = root := root.rename_id
  have lines := between.lines
  have outcome := between.lines?
  rw [kept] at lines outcome
  exact ⟨lines.imp fun _ _ => OfLine.isSameButKey,
    outcome.imp fun _ _ may => may.imp fun _ _ => OfLine.isSameButKey⟩

/-- Lines that are the same but for keys note alike whether a container was opened before. -/
theorem IsSameButKey.isRecursionMark {line other : Line} (same : IsSameButKey first second root line other) :
    other.isRecursionMark = line.isRecursionMark := by
  rcases same with rfl | ⟨key, -, content, rfl⟩
  · rfl
  · simp [Line.isRecursionMark, content, labelContent_ne_recursionMark]

/-- Lines that are the same but for keys have their notes of containers opened before at the same places. -/
theorem IsSameButKey.map_isRecursionMark {lines others : List Line}
    (alike : List.Forall₂ (IsSameButKey first second root) lines others) :
    others.map Line.isRecursionMark = lines.map Line.isRecursionMark := by
  induction alike with
  | nil => rfl
  | cons here later ih => rw [List.map_cons, List.map_cons, here.isRecursionMark, ih]

/-- Where keys are written alike, lines that are the same but for keys are the same. -/
theorem IsSameButKey.eq_of_written {lines others : List Line}
    (written : ∀ key, IsKey first root key → (Value.ref key).written second = (Value.ref key).written first)
    (alike : List.Forall₂ (IsSameButKey first second root) lines others) : others = lines := by
  induction alike with
  | nil => rfl
  | @cons line other lines others here later ih =>
    rw [ih]
    rcases here with rfl | ⟨key, isKey, content, rfl⟩
    · rfl
    · rw [written key isKey, ← content]

end Dump

end LiveConsole
