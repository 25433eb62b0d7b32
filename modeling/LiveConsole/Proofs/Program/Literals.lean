import LiveConsole.Proofs.Program.Agreement

/-!
# Literals and the values that they are

The table of a program is made literal by literal, the parts of a fixed sequence before the whole. Where two
parts of a program have no literal of their own in common, its table is the tables of the parts put
together, so each part runs as it would as a program of its own.
-/
namespace LiveConsole.Program

namespace Constant

mutual

/-- Constants that are the same are equal. -/
theorem eq_of_isSame : ∀ left right : Constant, left.isSame right = true → left = right
  | nothing, nothing, _ => rfl
  | bool left, bool right, same => by rw [eq_of_beq same]
  | int left, int right, same => by rw [eq_of_beq same]
  | text left, text right, same => by rw [eq_of_beq same]
  | tuple left, tuple right, same => by rw [eq_of_areSame left right same]

/-- Constants in rows that are the same are equal. -/
theorem eq_of_areSame : ∀ left right : List Constant, areSame left right = true → left = right
  | [], [], _ => rfl
  | left :: lefts, right :: rights, same => by
    rw [areSame, Bool.and_eq_true] at same
    rw [eq_of_isSame left right same.1, eq_of_areSame lefts rights same.2]

end

mutual

/-- A constant is the same as itself. -/
theorem isSame_self : ∀ constant : Constant, constant.isSame constant = true
  | nothing => rfl
  | bool value => beq_self_eq_true value
  | int value => beq_self_eq_true value
  | text value => beq_self_eq_true value
  | tuple items => areSame_self items

/-- Constants in a row are the same as themselves. -/
theorem areSame_self : ∀ constants : List Constant, areSame constants constants = true
  | [] => rfl
  | constant :: constants => by rw [areSame, isSame_self, areSame_self, Bool.and_self]

end

/-- Constants are the same when they are equal. -/
theorem isSame_iff {left right : Constant} : left.isSame right = true ↔ left = right := by
  constructor
  · exact eq_of_isSame left right
  · rintro rfl
    exact isSame_self left

mutual

/-- A constant with all those inside of it. -/
def parts : Constant → List Constant
  | tuple items => tuple items :: partsOfList items
  | constant => [constant]

/-- Constants in a row with all those inside of them. -/
def partsOfList : List Constant → List Constant
  | [] => []
  | constant :: rest => constant.parts ++ partsOfList rest

end

/-- A constant is one of its parts. -/
theorem mem_parts (constant : Constant) : constant ∈ constant.parts := by
  cases constant <;> exact List.mem_cons_self

/-- Constants in a row are among the parts of the row. -/
theorem mem_partsOfList {constant : Constant} {constants : List Constant} (member : constant ∈ constants) :
    constant ∈ partsOfList constants := by
  induction constants with
  | nil => cases member
  | cons first rest ih =>
    rw [partsOfList, List.mem_append]
    rcases List.mem_cons.1 member with rfl | later
    · exact .inl constant.mem_parts
    · exact .inr (ih later)

end Constant

/-! ## Literals in tables -/

variable {World First Second Result : Type} {scope : Scope World} {known more : Constants}

/-- Whether a table holds none of some literals, those aside that are the same everywhere. -/
def Lacks (known : Constants) (constants : List Constant) : Prop :=
  ∀ constant ∈ constants, constant.common? = none → ∀ entry ∈ known, entry.1 ≠ constant

/-- A table that lacks some literals lacks fewer of them. -/
theorem Lacks.mono {fewer constants : List Constant} (lacks : Lacks known constants)
    (within : fewer ⊆ constants) : Lacks known fewer := fun constant member => lacks constant (within member)

/-- A literal that a table lacks is not found there. -/
theorem find?_eq_none {constant : Constant} (own : constant.common? = none)
    (lacks : Lacks known [constant]) :
    known.find? (fun entry => entry.1.isSame constant) = none := by
  rw [List.find?_eq_none]
  intro entry member same
  exact lacks constant List.mem_cons_self own entry member (Constant.isSame_iff.1 same)

/-- Entries behind a table play no part for a literal that they lack. -/
theorem valueOf_append_left {constant : Constant} (lacks : Lacks more [constant]) :
    (scope.holding (known ++ more)).valueOf constant = (scope.holding known).valueOf constant := by
  unfold Scope.valueOf
  cases own : constant.common? with
  | some value => rfl
  | none => simp only [Scope.holding, List.find?_append, find?_eq_none own lacks, Option.or_none]

/-- Entries in front of a table play no part for a literal that they lack. -/
theorem valueOf_append_right {constant : Constant} (lacks : Lacks known [constant]) :
    (scope.holding (known ++ more)).valueOf constant = (scope.holding more).valueOf constant := by
  unfold Scope.valueOf
  cases own : constant.common? with
  | some value => rfl
  | none => simp only [Scope.holding, List.find?_append, find?_eq_none own lacks, Option.none_or]

/-- Whether a literal needs no entry does not depend on entries that lack it. -/
theorem isSettled_append {constant : Constant} (lacks : Lacks more [constant]) :
    isSettled (known ++ more) constant = isSettled known constant := by
  unfold isSettled
  cases own : constant.common? with
  | some value => rfl
  | none =>
    have absent : more.any (·.1.isSame constant) = false := by
      rw [List.any_eq_false]
      intro entry member same
      exact lacks constant List.mem_cons_self own entry member (Constant.isSame_iff.1 same)
    rw [List.any_append, absent, Bool.or_false]

mutual

/-- Making an entry for a literal depends on no entries that lack it and its parts. -/
theorem addConstant_append (scope : Scope World) (more : Constants) :
    ∀ (known : Constants) (constant : Constant), Lacks more constant.parts →
      addConstant scope (known ++ more) constant = (· ++ more) <$> addConstant scope known constant
  | known, .nothing, _ => by simp [addConstant]
  | known, .bool value, _ => by simp [addConstant]
  | known, .int value, lacks => by
    rw [addConstant, addConstant, isSettled_append lacks]
    split <;> simp
  | known, .text value, lacks => by
    rw [addConstant, addConstant, isSettled_append lacks]
    split <;> simp
  | known, .tuple items, lacks => by
    have whole : Lacks more [.tuple items] := lacks.mono (by simp [Constant.parts])
    have inside : Lacks more (Constant.partsOfList items) := lacks.mono (by simp [Constant.parts])
    have values : ∀ table : Constants, items.map (scope.holding (table ++ more)).valueOf =
        items.map (scope.holding table).valueOf := fun table =>
      List.map_congr_left fun item member => valueOf_append_left
        (inside.mono (by simpa using Constant.mem_partsOfList member))
    rw [addConstant, addConstant, isSettled_append whole, addConstants_append scope more known items inside]
    split
    · simp
    · simp only [bind_map_left, map_bind, map_pure]
      refine bind_congr fun table => ?_
      show allocate (.tuple (items.map (scope.holding (table ++ more)).valueOf) ⟨"tuple"⟩) >>= _ = _
      rw [values]
      rfl

/-- Making entries for literals depends on no entries that lack them and their parts. -/
theorem addConstants_append (scope : Scope World) (more : Constants) :
    ∀ (known : Constants) (constants : List Constant), Lacks more (Constant.partsOfList constants) →
      addConstants scope (known ++ more) constants = (· ++ more) <$> addConstants scope known constants
  | known, [], _ => by simp [addConstants]
  | known, constant :: rest, lacks => by
    rw [addConstants, addConstants,
      addConstant_append scope more known constant (lacks.mono (List.subset_append_left _ _))]
    simp only [bind_map_left, map_bind]
    exact bind_congr fun table =>
      addConstants_append scope more table rest (lacks.mono (List.subset_append_right _ _))

end

/-- The table of two rows of literals is made for the first row and then for the second one. -/
theorem addConstants_of_append (scope : Scope World) (known : Constants) (front back : List Constant) :
    addConstants scope known (front ++ back) =
      addConstants scope known front >>= fun table => addConstants scope table back := by
  induction front generalizing known with
  | nil => simp [addConstants]
  | cons constant rest ih => simp only [List.cons_append, addConstants, bind_assoc, ih]

/-! ## What a step comes to -/

/-- Whether a step comes to nothing but values of a kind, wherever it is run. -/
def Yields (step : Run World First) (kind : First → Prop) : Prop :=
  ∀ store value after, step.run store = (.ok value, after) → kind value

/-- A step behind another one matters for the values that the other one comes to. -/
theorem Yields.bind_congr {step : Run World First} {kind : First → Prop}
    {next other : First → Run World Result} (yields : Yields step kind)
    (same : ∀ value, kind value → next value = other value) : step >>= next = step >>= other := by
  refine funext fun store => ?_
  have came := yields store
  simp only [ExceptT.run, bind, ExceptT.bind, ExceptT.mk, StateT.bind, ExceptT.bindCont] at came ⊢
  rcases ran : step store with ⟨fault | value, after⟩
  · rfl
  · rw [ran] at came
    exact congrArg (· after) (same value (came value after rfl))

/-- A value of a kind is one of that kind. -/
theorem Yields.pure {value : First} {kind : First → Prop} (fits : kind value) :
    Yields (pure value : Run World First) kind := by
  intro store other after same
  cases same
  exact fits

/-- What a step behind another one comes to. -/
theorem Yields.bind {step : Run World First} {next : First → Run World Second} {middle : First → Prop}
    {kind : Second → Prop} (yields : Yields step middle)
    (later : ∀ value, middle value → Yields (next value) kind) : Yields (step >>= next) kind := by
  intro store result final came
  have first := yields store
  simp only [ExceptT.run, Bind.bind, ExceptT.bind, ExceptT.mk, StateT.bind, ExceptT.bindCont] at first came
  rcases ran : step store with ⟨fault | value, after⟩
  · rw [ran] at came
    cases came
  · rw [ran] at first came
    exact later value (first value after rfl) after result final came

/-- A step comes to something. -/
theorem Yields.any (step : Run World First) : Yields step fun _ => True := fun _ _ _ _ => trivial

/-- Whether a table holds some literals and no others. -/
def Within (constants : List Constant) (known : Constants) : Prop :=
  ∀ entry ∈ known, entry.1 ∈ constants

/-- One more entry for one of some literals. -/
theorem Within.cons {constants : List Constant} (within : Within constants known) {constant : Constant}
    (member : constant ∈ constants) (value : Value) : Within constants ((constant, value) :: known) := by
  intro entry listed
  rcases List.mem_cons.1 listed with rfl | later
  · exact member
  · exact within entry later

mutual

/-- An entry is made for a literal or for one of its parts. -/
theorem addConstant_within (scope : Scope World) {constants : List Constant} :
    ∀ (known : Constants) (constant : Constant), Within constants known → constant.parts ⊆ constants →
      Yields (addConstant scope known constant) (Within constants)
  | known, .nothing, within, _ => .pure within
  | known, .bool value, within, _ => .pure within
  | known, .int value, within, parts => by
    rw [addConstant]
    split
    · exact .pure within
    · exact (Yields.any _).bind fun held _ => .pure (within.cons (parts (Constant.mem_parts _)) held)
  | known, .text value, within, parts => by
    rw [addConstant]
    split
    · exact .pure within
    · exact (Yields.any _).bind fun held _ => .pure (within.cons (parts (Constant.mem_parts _)) held)
  | known, .tuple items, within, parts => by
    have inside : Constant.partsOfList items ⊆ constants := fun part member =>
      parts (List.mem_cons_of_mem _ member)
    rw [addConstant]
    split
    · exact .pure within
    · exact (addConstants_within scope known items within inside).bind fun table listed =>
        (Yields.any _).bind fun held _ => .pure (listed.cons (parts (Constant.mem_parts _)) held)

/-- Entries are made for literals or for their parts. -/
theorem addConstants_within (scope : Scope World) {constants : List Constant} :
    ∀ (known : Constants) (row : List Constant), Within constants known →
      Constant.partsOfList row ⊆ constants → Yields (addConstants scope known row) (Within constants)
  | _, [], within, _ => .pure within
  | known, constant :: rest, within, parts =>
    (addConstant_within scope known constant within fun _ member =>
      parts (List.mem_append_left _ member)).bind fun table listed =>
        addConstants_within scope table rest listed fun _ member => parts (List.mem_append_right _ member)

end

/-! ## Programs in two parts -/

/-- Whether two rows of literals have none in common, nor their parts, those aside that are the same
everywhere. -/
def areApart (front back : List Constant) : Bool :=
  (Constant.partsOfList front).all fun constant =>
    constant.common?.isSome || !(Constant.partsOfList back).any fun other => other.isSame constant

/-- What two rows of literals that are apart have in common is the same everywhere. -/
theorem isSome_of_areApart {front back : List Constant} (apart : areApart front back = true)
    {constant : Constant} (first : constant ∈ Constant.partsOfList front)
    (second : constant ∈ Constant.partsOfList back) : constant.common?.isSome = true := by
  have checked := List.all_eq_true.1 apart constant first
  rw [Bool.or_eq_true, Bool.not_eq_true'] at checked
  rcases checked with common | absent
  · exact common
  · exact absurd (constant.isSame_self) (List.any_eq_false.1 absent constant second)

/-- A table of one of two rows lacks the literals of the other one. -/
theorem Within.lacks {constants others : List Constant} (within : Within constants known)
    (apart : ∀ constant ∈ constants, constant ∈ others → constant.common?.isSome = true) :
    Lacks known others := by
  intro constant member own entry listed same
  have common := apart constant (same ▸ within entry listed) member
  rw [own] at common
  cases common

/--
Where two rows of literals are apart, whatever is done with the table of both may be done with the tables
of the two rows, each for its own literals.
-/
theorem addConstants_apart (scope : Scope World) {front back : List Constant} (apart : areApart front back = true)
    {whole : Constants → Run World Result} {parted : Constants → Constants → Run World Result}
    (same : ∀ table first second, Agree scope table first front → Agree scope table second back →
      whole table = parted first second) :
    addConstants scope [] (front ++ back) >>= whole =
      addConstants scope [] front >>= fun first => addConstants scope [] back >>= parted first := by
  have empty : ∀ constants, Within constants [] := fun constants entry none => absurd none List.not_mem_nil
  rw [addConstants_of_append, bind_assoc]
  refine (addConstants_within scope [] front (empty _) (List.Subset.refl _)).bind_congr fun first listed => ?_
  have lacks : Lacks first (Constant.partsOfList back) := listed.lacks fun constant => isSome_of_areApart apart
  have behind := addConstants_append scope first [] back lacks
  rw [List.nil_append] at behind
  rw [behind, bind_map_left]
  refine (addConstants_within scope [] back (empty _) (List.Subset.refl _)).bind_congr fun second added => ?_
  have missing : Lacks second (Constant.partsOfList front) :=
    added.lacks fun constant later earlier => isSome_of_areApart apart earlier later
  refine same (second ++ first) first second (fun constant member => ?_) fun constant member => ?_
  · exact valueOf_append_right (missing.mono (by simpa using Constant.mem_partsOfList member))
  · exact valueOf_append_left (lacks.mono (by simpa using Constant.mem_partsOfList member))

end LiveConsole.Program
