import LiveConsole.Program.Execute

/-!
# What evaluated code leaves alone

Evaluated code knows nothing of the world around its heap, its namespaces and its output. It reaches the
world only where it imports a module and where a remark on it is noted, so it keeps whatever these two
keep. How steps are put together out of smaller ones says that of all of them; the rules for that are
given to the solver, which then only has to follow the cases of each function.
-/
namespace LiveConsole.Program

variable {World First Result : Type} {kept : World → Prop}

/-- Whether a step keeps a property of the world, whatever the step comes to. -/
def Keeps (kept : World → Prop) (step : Run World Result) : Prop :=
  ∀ store, kept store.world → kept (step.run store).2.world

/-! ## Steps out of smaller ones -/

namespace Keeps

/-- A value changes nothing. -/
@[grind .]
theorem pure (value : Result) : Keeps kept (Pure.pure value : Run World Result) := fun _ held => held

/-- A fault changes nothing. -/
@[grind .]
theorem throw (fault : Fault) : Keeps kept (throw fault : Run World Result) := fun _ held => held

/-- Looking at the store changes nothing. -/
@[grind .]
theorem get : Keeps kept (get : Run World (Store World)) := fun _ held => held

/-- Looking at the heap changes nothing. -/
@[grind .]
theorem currentHeap : Keeps kept (currentHeap : Run World Heap) := fun _ held => held

/-- A step behind another one keeps what both do. -/
@[grind ←]
theorem bind {first : Run World First} {next : First → Run World Result}
    (before : Keeps kept first) (behind : ∀ value, Keeps kept (next value)) :
    Keeps kept (first >>= next) := by
  intro store held
  have between := before store held
  simp only [ExceptT.run, Bind.bind, ExceptT.bind, ExceptT.mk, StateT.bind, ExceptT.bindCont] at between ⊢
  rcases ran : first store with ⟨fault | value, after⟩ <;> rw [ran] at between
  · exact between
  · exact behind value after between

/-- A change of what evaluated code sees is none of the world. -/
theorem modify {change : Store World → Store World} (inside : ∀ store, (change store).world = store.world) :
    Keeps kept (modify change : Run World Unit) := by
  intro store held
  change kept (change store).world
  rwa [inside]

/-- Steps for the members of a list keep what each of them does. -/
@[grind ←]
theorem forM {step : First → Run World Unit} (each : ∀ value, Keeps kept (step value))
    (values : List First) : Keeps kept (values.forM step) := by
  induction values with
  | nil => exact .pure ()
  | cons value values ih => exact (each value).bind fun _ => ih

/-- Values worked out for the members of a list keep what each of them does. -/
@[grind ←]
theorem mapM {step : First → Run World Result} (each : ∀ value, Keeps kept (step value))
    (values : List First) : Keeps kept (values.mapM step) := by
  induction values with
  | nil => exact .pure []
  | cons value values ih =>
    rw [List.mapM_cons]
    exact (each value).bind fun _ => ih.bind fun _ => .pure _

end Keeps

/-! ## The heap, the output and the namespaces -/

/-- Something new out of the heap is not of the world. -/
theorem takeNew_keeps (take : Heap → Heap × Result) : Keeps kept (takeNew take : Run World Result) :=
  fun _ held => held

/-- A new container is not of the world. -/
@[grind .]
theorem allocate_keeps (cell : Cell) : Keeps kept (allocate cell : Run World Value) := takeNew_keeps _

/-- A new identity is not of the world. -/
@[grind .]
theorem freshIdent_keeps : Keeps kept (freshIdent : Run World Ident) := takeNew_keeps _

/-- A new integer is not of the world. -/
@[grind .]
theorem newInt_keeps (value : Int) : Keeps kept (newInt value : Run World Value) := takeNew_keeps _

/-- A new text is not of the world. -/
@[grind .]
theorem newText_keeps (value : String) : Keeps kept (newText value : Run World Value) := takeNew_keeps _

/-- A new byte string is not of the world. -/
@[grind .]
theorem newBytes_keeps (data : List UInt8) : Keeps kept (newBytes data : Run World Value) :=
  takeNew_keeps _

/-- New successive integers are not of the world. -/
@[grind .]
theorem newRange_keeps (items : Number.Progression) : Keeps kept (newRange items : Run World Value) :=
  freshIdent_keeps.bind fun _ => .pure _

/-- A container is replaced outside of the world. -/
@[grind .]
theorem replaceCell_keeps (identity : Ident) (cell : Cell) :
    Keeps kept (replaceCell identity cell : Run World Unit) :=
  .modify fun _ => rfl

/-- Writing to the output leaves the world alone. -/
@[grind .]
theorem write_keeps (text : String) : Keeps kept (write text : Run World Unit) :=
  .modify fun _ => rfl

/-- Binding a name leaves the world alone. -/
@[grind .]
theorem bindName_keeps (scope : Scope World) (name : String) (value : Value) :
    Keeps kept (bindName scope name value) :=
  .modify fun _ => rfl

/-- What every namespace sees is found outside of the world. -/
@[grind .]
theorem findOrigin_keeps : Keeps kept (findOrigin : Run World Value) := by
  refine Keeps.get.bind fun store => ?_
  split
  · exact .pure _
  · refine (allocate_keeps _).bind fun _ => (allocate_keeps _).bind fun _ => ?_
    exact Keeps.bind (.modify fun _ => rfl) fun _ => .pure _

/-- Looking up a name leaves the world alone. -/
@[grind .]
theorem lookupName_keeps (scope : Scope World) (name : String) : Keeps kept (lookupName scope name) := by
  unfold lookupName
  grind

/-- Unbinding a name leaves the world alone. -/
@[grind .]
theorem unbindName_keeps (scope : Scope World) (name : String) : Keeps kept (unbindName scope name) := by
  intro store held
  unfold unbindName
  change kept ((if _ then _ else _ : Run World Unit).run store).2.world
  split <;> exact held

/-! ## Comparisons -/

/-- Whether a value may be a key is told without the world. -/
@[grind .]
theorem requireKey_keeps (value : Value) : Keeps kept (requireKey value : Run World Unit) := by
  grind [requireKey]

/-- A truth value is told without the world. -/
@[grind .]
theorem orTooDeep_keeps (value : Option Bool) : Keeps kept (orTooDeep value : Run World Bool) := by
  cases value <;> grind [orTooDeep]

/-- Bytes are looked for without the world. -/
@[grind .]
theorem isAmongBytes_keeps (item : Value) (data : List UInt8) :
    Keeps kept (isAmongBytes item data : Run World Bool) := by
  grind [isAmongBytes]

/-- Whether a value may be looked up is told without the world. -/
@[grind .]
theorem requireMember_keeps (item : Value) : Keeps kept (requireMember item : Run World Unit) := by
  unfold requireMember
  grind

/-- A member is looked for without the world. -/
@[grind .]
theorem isMember_keeps (item container : Value) : Keeps kept (isMember item container : Run World Bool) := by
  unfold isMember
  grind

/-- Values are compared without the world. -/
@[grind .]
theorem applyComparison_keeps (comparison : Comparison) (left right : Value) :
    Keeps kept (applyComparison comparison left right : Run World Bool) := by
  unfold applyComparison
  grind

/-! ## Calls -/

/-- A length is told without the world. -/
@[grind .]
theorem lengthOf_keeps (value : Value) : Keeps kept (lengthOf value : Run World Value) := by
  unfold lengthOf
  grind

/-- An integer argument is told without the world. -/
@[grind .]
theorem requireInteger_keeps (value : Value) : Keeps kept (requireInteger value : Run World Int) := by
  unfold requireInteger
  grind

/-- The text of a value is told without the world. -/
@[grind .]
theorem textOf_keeps (value : Value) : Keeps kept (textOf value : Run World String) := by
  unfold textOf
  grind

/-- The text of a value becomes a value without the world. -/
@[grind .]
theorem toTextValue_keeps (value : Value) : Keeps kept (toTextValue value : Run World Value) := by
  unfold toTextValue
  grind

/-- Bytes that are not well formed are read without the world. -/
@[grind .]
theorem readMisfits_keeps (encoding : Encoding) (way : String) (data : List UInt8) :
    Keeps kept (readMisfits encoding way data : Run World String) := by
  unfold readMisfits
  grind

/-- A text argument is told without the world. -/
@[grind .]
theorem requireText_keeps (name : String) (value : Value) :
    Keeps kept (requireText name value : Run World String) := by
  unfold requireText
  grind

/-- A byte string is read without the world. -/
@[grind .]
theorem decodeText_keeps (value encoding : Value) (errors : Option Value) :
    Keeps kept (decodeText value encoding errors : Run World Value) := by
  refine (requireText_keeps _ _).bind fun encoding => ?_
  cases errors with
  | some errors =>
    refine (requireText_keeps _ _).bind fun way => Keeps.currentHeap.bind fun heap => ?_
    repeat' split
    all_goals grind
  | none =>
    refine (Keeps.pure _).bind fun way => Keeps.currentHeap.bind fun heap => ?_
    repeat' split
    all_goals grind

/-- A function that every namespace sees works without the world. -/
@[grind .]
theorem callBuiltin_keeps (function : Builtin) (arguments : List Value) :
    Keeps kept (callBuiltin function arguments : Run World Value) := by
  unfold callBuiltin
  grind

/-- A call leaves the world alone. -/
@[grind .]
theorem callValue_keeps (function : Value) (arguments : List Value) :
    Keeps kept (callValue function arguments : Run World Value) := by
  unfold callValue
  grind

/-- A byte is told without the world. -/
@[grind .]
theorem requireByte_keeps (value : Value) : Keeps kept (requireByte value : Run World UInt8) := by
  unfold requireByte
  grind

/-- Whether a value can grow is told without the world. -/
@[grind .]
theorem requireGrowing_keeps (value : Value) : Keeps kept (requireGrowing value : Run World Unit) := by
  unfold requireGrowing
  grind

/-- An item is appended without the world. -/
@[grind .]
theorem appendItem_keeps (list : Value) (arguments : List Value) :
    Keeps kept (appendItem list arguments : Run World Value) := by
  unfold appendItem
  grind

/-- The items of a value are told without the world. -/
@[grind .]
theorem itemsOf_keeps (value : Value) : Keeps kept (itemsOf value : Run World (List Value)) := by
  unfold itemsOf
  grind

/-! ## Loops -/

section Loops

variable {body : Value → Run World Unit} (each : ∀ item, Keeps kept (body item))
include each

/-- A loop through a progression keeps what each round does. -/
theorem forProgression_keeps (items : Number.Progression) (rounds index : Nat) :
    Keeps kept (forProgression body items rounds index) := by
  induction rounds generalizing index with
  | zero => exact .pure ()
  | succ rounds ih => exact (newInt_keeps _).bind fun item => (each item).bind fun _ => ih (index + 1)

/-- A loop through a list keeps what each round does. -/
theorem forList_keeps (identity : Ident) (rounds index : Nat) :
    Keeps kept (forList body identity rounds index) := by
  induction rounds generalizing index with
  | zero => exact .throw _
  | succ rounds ih =>
    refine Keeps.currentHeap.bind fun heap => ?_
    split
    · exact .pure ()
    · exact (each _).bind fun _ => ih (index + 1)

/-- A loop through the members of a set keeps what each round does. -/
theorem forMembers_keeps (identity : Ident) (size : Nat) (members : List Value) :
    Keeps kept (forMembers body identity size members) := by
  have sized : Keeps kept (requireSize identity size : Run World Unit) := by
    unfold requireSize
    grind
  induction members with
  | nil => exact sized
  | cons member members ih => exact sized.bind fun _ => (each member).bind fun _ => ih

/-- A loop keeps what each round does. -/
theorem forEachItem_keeps (patience : Nat) (value : Value) :
    Keeps kept (forEachItem body patience value) := by
  have others : Keeps kept (do (← itemsOf value).forM body) := (itemsOf_keeps value).bind (.forM each)
  refine Keeps.currentHeap.bind fun heap => ?_
  split
  · exact forProgression_keeps each _ _ _
  · split
    · exact forList_keeps each _ _ _
    · exact forList_keeps each _ _ _
    · exact forMembers_keeps each _ _ _
    · exact others
  · exact others

end Loops

/-! ## Operators -/

/-- A number becomes a value without the world. -/
@[grind .]
theorem numberValue_keeps (number : Operand) : Keeps kept (numberValue number : Run World Value) := by
  cases number <;> grind [numberValue]

/-- A byte string becomes a value without the world. -/
@[grind .]
theorem bytesValue_keeps (growable : Bool) (data : List UInt8) :
    Keeps kept (bytesValue growable data : Run World Value) := by
  unfold bytesValue
  grind

/-- A number of repetitions is told without the world. -/
@[grind .]
theorem requireCount_keeps (times : Int) : Keeps kept (requireCount times : Run World Nat) := by
  unfold requireCount
  grind

/-- Whether there is room is told without the world. -/
@[grind .]
theorem requireRoom_keeps (size times : Nat) (fault : Fault) :
    Keeps kept (requireRoom size times fault : Run World Unit) := by
  unfold requireRoom
  grind

/-- A sequence is repeated without the world. -/
@[grind .]
theorem repeatSequence_keeps (value : Value) (sequence : Sequence) (times : Int) :
    Keeps kept (repeatSequence value sequence times : Run World Value) := by
  unfold repeatSequence
  grind

/-- Sequences are joined without the world. -/
@[grind .]
theorem joinSequences_keeps (left right : Value) (sequence : Sequence) :
    Keeps kept (joinSequences left right sequence : Run World Value) := by
  unfold joinSequences
  grind

/-- A set is taken from another one without the world. -/
@[grind .]
theorem subtractSets_keeps (left right : Bool × Members) :
    Keeps kept (subtractSets left right : Run World Value) :=
  Keeps.currentHeap.bind fun _ => allocate_keeps _

/-- A set loses members without the world. -/
@[grind .]
theorem loseMembers_keeps (left right : Value) (members others : Members) (type : TypeName)
    (identity : Ident) : Keeps kept (loseMembers left right members others type identity : Run World Value) :=
  Keeps.currentHeap.bind fun _ => (replaceCell_keeps _ _).bind fun _ => .pure _

/-- A format is filled without the world. -/
@[grind .]
theorem fillFormat_keeps (medium : Formatted.Medium) (format : List Char) (arguments : Value) :
    Keeps kept (fillFormat medium format arguments : Run World (List Formatted.Piece)) := by
  unfold fillFormat
  grind

/-- An operator works without the world. -/
@[grind .]
theorem applyOperator_keeps (operator : Operator) (sign : String) (left right : Value) :
    Keeps kept (applyOperator operator sign left right : Run World Value) := by
  refine Keeps.currentHeap.bind fun heap => ?_
  repeat' split
  all_goals grind

/-- A sign works without the world. -/
@[grind .]
theorem applySign_keeps (negative : Bool) (value : Value) :
    Keeps kept (applySign negative value : Run World Value) := by
  unfold applySign
  grind

/-- An operator in place works without the world. -/
@[grind .]
theorem applyUpdate_keeps (operator : Operator) (left right : Value) :
    Keeps kept (applyUpdate operator left right : Run World Value) := by
  refine Keeps.currentHeap.bind fun heap => ?_
  repeat' split
  all_goals grind

end LiveConsole.Program
