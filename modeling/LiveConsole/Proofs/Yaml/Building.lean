import LiveConsole.Proofs.Options.Build
import LiveConsole.Yaml.Data

/-!
# What building values keeps

Values are built step by step into parts, one for each node. Every step keeps that a scalar among the parts has a
value that scalars of documents can have, and so the value of a document is such a scalar or a collection: of all
the values that evaluated code knows only a few can come of a document.
-/
namespace LiveConsole.Yaml

open Options (bind_ok_iff)

/-! ## Scalars -/

namespace Scalar

/-- Whether a value is one that scalars of documents can have. -/
inductive IsSpelt : Scalar → Prop
  /-- No value. -/
  | nothing : IsSpelt (plain .nothing)
  /-- A truth value. -/
  | bool (value : Bool) : IsSpelt (plain (.bool value))
  /-- An integer. -/
  | int (value : Int) : IsSpelt (plain (.ofInt value))
  /-- A floating point number. -/
  | float (value : Number.Binary64) (identity : Ident) : IsSpelt (plain (.ofFloat value identity))
  /-- A byte string. -/
  | binary (data : List UInt8) : IsSpelt (plain (.bytes data ⟨"bytes"⟩ 0))
  /-- A day or a moment. -/
  | timestamp (value : Moment) : IsSpelt (moment value)
  /-- A text. -/
  | text (value : String) : IsSpelt (plain (.ofText value))
  /-- A text with codes that belong to no character. -/
  | broken (codes : Text.Codes) : IsSpelt (broken codes)

/-- The value of a scalar is one that scalars of documents can have. -/
theorem isSpelt_of_build {kind : Kind} {text : Text.Codes} {number : Nat} {value : Scalar}
    (built : build kind text number = .ok value) : value.IsSpelt := by
  cases kind <;> simp only [build, bind_ok_iff, malformed, reduceCtorEq] at built
  case null =>
    cases built
    exact .nothing
  case bool =>
    obtain ⟨truth, -, ⟨⟩⟩ := built
    exact .bool truth
  case int =>
    obtain ⟨number, -, ⟨⟩⟩ := built
    exact .int number
  case float =>
    obtain ⟨⟨number, isNamed⟩, -, ⟨⟩⟩ := built
    exact .float number _
  case binary =>
    obtain ⟨data, -, ⟨⟩⟩ := built
    exact .binary data
  case timestamp =>
    obtain ⟨day, -, ⟨⟩⟩ := built
    exact .timestamp day
  case str =>
    cases built
    cases text.text? with
    | none => exact .broken text
    | some shown => exact .text shown

end Scalar

/-- The value of a node that stands for a scalar is one that scalars of documents can have. -/
theorem Graph.isSpelt_scalar {graph : Graph} {id : NodeId} {value : Scalar}
    (built : graph.scalar id = .ok value) : value.IsSpelt := by
  unfold Graph.scalar at built
  dsimp only at built
  split at built
  · cases built
  · obtain ⟨text, -, rest⟩ := bind_ok_iff.1 built
    split at rest
    · cases rest
    · exact Scalar.isSpelt_of_build rest

/-- Whether a part is no scalar, or one with a value that scalars of documents can have. -/
def Part.IsSound (part : Part) : Prop := ∀ value, part = .scalar value → value.IsSpelt

namespace Building

variable {First Result : Type} {building : Building}

/-- Whether all parts that are built are sound. -/
def IsSound (building : Building) : Prop :=
  ∀ id part, building.parts.getD id none = some part → part.IsSound

/-- A sound part may be set down. -/
theorem IsSound.setPart (sound : building.IsSound) (id : NodeId) {part : Part} (fine : part.IsSound) :
    (building.setPart id part).IsSound := by
  intro other found same
  simp only [Building.setPart, Array.getD_eq_getD_getElem?, Array.getElem?_setIfInBounds] at same
  split at same
  · split at same
    · cases same
      exact fine
    · cases same
  · exact sound other found (by rwa [Array.getD_eq_getD_getElem?])

/-! ## Steps out of smaller ones -/

/-- Whether a step keeps the parts sound, and what it comes to has a property. -/
def Leaves (step : Step Result) (property : Result → Prop) : Prop :=
  ∀ building result after, building.IsSound → step building = .ok (result, after) →
    after.IsSound ∧ property result

/-- Whether a step keeps the parts sound, whatever it comes to. -/
def Keeps (step : Step Result) : Prop := Leaves step fun _ => True

namespace Leaves

variable {property : Result → Prop}

/-- A value changes nothing. -/
theorem pure {value : Result} (holds : property value) : Leaves (Pure.pure value) property := by
  rintro building result after sound ⟨⟩
  exact ⟨sound, holds⟩

/-- A step that fails comes to nothing. -/
theorem throw (trouble : Trouble) : Leaves (throw trouble) property := by
  rintro building result after sound ⟨⟩

/-- What is looked at is sound. -/
theorem get : Leaves get IsSound := by
  rintro building result after sound ⟨⟩
  exact ⟨sound, sound⟩

/-- Something sound may take the place of all. -/
theorem set (sound : building.IsSound) : Keeps (set building) := by
  rintro before result after - ⟨⟩
  exact ⟨sound, trivial⟩

/-- What is worked out of nothing else has the properties that it has. -/
theorem lift {outcome : Outcome Result} (holds : ∀ result, outcome = .ok result → property result) :
    Leaves (liftM outcome : Step Result) property := by
  intro building result after sound ran
  obtain ⟨value, came, same⟩ := bind_ok_iff.1 ran
  cases same
  exact ⟨sound, holds _ came⟩

/-- One step after another. -/
theorem bind {between : First → Prop} {first : Step First} {next : First → Step Result}
    (before : Leaves first between) (behind : ∀ value, between value → Leaves (next value) property) :
    Leaves (first >>= next) property := by
  intro building result after sound ran
  obtain ⟨⟨value, middle⟩, came, rest⟩ := bind_ok_iff.1 ran
  obtain ⟨still, holds⟩ := before building value middle sound came
  exact behind value holds middle result after still rest

/-- A step whose result is known to have a property keeps the parts sound. -/
theorem keeps {step : Step Result} (leaves : Leaves step property) : Keeps step :=
  fun building result after sound ran => ⟨(leaves building result after sound ran).1, trivial⟩

end Leaves

namespace Keeps

/-- A value changes nothing. -/
theorem pure (value : Result) : Keeps (Pure.pure value) := Leaves.pure trivial

/-- One step after another, where nothing need be known of what the first one comes to. -/
theorem bind {first : Step First} {next : First → Step Result} (before : Keeps first)
    (behind : ∀ value, Keeps (next value)) : Keeps (first >>= next) :=
  Leaves.bind before fun value _ => behind value

/-- A step whose result is dropped. -/
theorem discard {step : Step Result} (keeps : Keeps step) : Keeps (discard step) :=
  keeps.bind fun _ => .pure ()

/-- Steps for the members of a list. -/
theorem forM {step : First → Step Unit} (each : ∀ value, Keeps (step value)) (values : List First) :
    Keeps (values.forM step) := by
  induction values with
  | nil => exact .pure ()
  | cons value values ih => exact (each value).bind fun _ => ih

/-- Results worked out for the members of a list. -/
theorem mapM {step : First → Step Result} (each : ∀ value, Keeps (step value)) (values : List First) :
    Keeps (values.mapM step) := by
  induction values with
  | nil => exact .pure []
  | cons value values ih =>
    rw [List.mapM_cons]
    exact (each value).bind fun _ => ih.bind fun _ => .pure _

/-- A result that grows by the members of a list. -/
theorem foldlM {step : Result → First → Step Result} (each : ∀ result value, Keeps (step result value))
    (values : List First) (result : Result) : Keeps (values.foldlM step result) := by
  induction values generalizing result with
  | nil => exact .pure result
  | cons value values ih =>
    rw [List.foldlM_cons]
    exact (each result value).bind ih

end Keeps

/-! ## The steps of building -/

/-- The value of a node is sound. -/
theorem part_leaves (id : NodeId) : Leaves (part id) Part.IsSound := by
  refine Leaves.get.bind fun building sound => ?_
  split
  · rename_i found stands
    exact .pure (sound id found stands)
  · split
    · have unfilled : Part.unfilled.IsSound := fun value same => nomatch same
      exact Leaves.bind (Leaves.set (sound.setPart id unfilled)) fun _ _ => .pure unfilled
    · refine (Leaves.lift fun _ built => Graph.isSpelt_scalar built).bind fun value spelt => ?_
      have fine : (Part.scalar value).IsSound := by
        rintro _ ⟨⟩
        exact spelt
      exact Leaves.bind (Leaves.set (sound.setPart id fine)) fun _ _ => .pure fine

/-- The value of a node may be built. -/
theorem part_keeps (id : NodeId) : Keeps (part id) := (part_leaves id).keeps

/-- A mapping with one entry may be built. -/
theorem pair_keeps (id : NodeId) : Keeps (pair id) := by
  refine Leaves.get.keeps.bind fun building => ?_
  split
  · exact (part_keeps _).discard.bind fun _ => (part_keeps _).discard.bind fun _ => .pure _
  · exact .throw .malformed

/-- An entry may be added. -/
theorem addEntry_keeps (entries : List (Scalar × NodeId)) (entry : NodeId × NodeId) :
    Keeps (addEntry entries entry) := by
  refine (part_keeps _).bind fun key => ?_
  split
  · exact (part_keeps _).discard.bind fun _ => .pure _
  · exact .throw .malformed

/-- The entries of a mapping may be built. -/
theorem entries_keeps (id : NodeId) : Keeps (entries id) := by
  refine Leaves.get.bind fun building sound => ?_
  have merged : Keeps (liftM (building.graph.merge id) : Step Graph) := Leaves.lift fun _ _ => trivial
  refine merged.bind fun graph => ?_
  exact Keeps.bind (.set sound) fun _ => .foldlM addEntry_keeps _ _

/-- The value of a collection is none of a scalar. -/
theorem collection_leaves (id : NodeId) : Leaves (collection id) Part.IsSound := by
  refine Leaves.get.bind fun building _ => ?_
  dsimp only
  split
  · exact Leaves.bind (Keeps.forM (fun item => (part_keeps item).discard) _) fun _ _ =>
      .pure fun value same => nomatch same
  · exact Leaves.bind (Keeps.mapM pair_keeps _) fun _ _ => .pure fun value same => nomatch same
  · exact Leaves.bind (Keeps.mapM pair_keeps _) fun _ _ => .pure fun value same => nomatch same
  · exact Leaves.bind (entries_keeps id) fun _ _ => .pure fun value same => nomatch same
  · exact Leaves.bind (entries_keeps id) fun _ _ => .pure fun value same => nomatch same
  · exact .throw .malformed

/-- A collection may be filled. -/
theorem fill_keeps (id : NodeId) : Keeps (fill id) := by
  refine (collection_leaves id).bind fun part fine => ?_
  rintro building result after sound ⟨⟩
  exact ⟨sound.setPart id fine, trivial⟩

/-- Level after level may be filled. -/
theorem fillLevels_keeps (fuel : Nat) : Keeps (fillLevels fuel) := by
  induction fuel with
  | zero => exact .pure ()
  | succ fuel ih =>
    refine Leaves.get.keeps.bind fun building => ?_
    dsimp only
    split
    · exact .pure ()
    · have cleared : Keeps (modify fun building => { building with waiting := [] }) := by
        rintro building result after sound ⟨⟩
        exact ⟨sound, trivial⟩
      exact cleared.bind fun _ => (Keeps.forM fill_keeps _).bind fun _ => ih

/-- Nothing is known at first. -/
theorem getD_replicate_none {Known : Type} (size id : Nat) :
    (Array.replicate size (none : Option Known)).getD id none = none := by
  rw [Array.getD_eq_getD_getElem?, Array.getElem?_replicate]
  split <;> rfl

/-- All parts that are built for a document are sound. -/
theorem isSound_of_document {document : Document} (built : ofDocument document = .ok building) :
    building.IsSound := by
  obtain ⟨⟨⟨⟩, after⟩, ran, same⟩ := bind_ok_iff.1 built
  cases same
  have empty : (Building.mk document.graph (Array.replicate document.graph.nodes.size none) []).IsSound := by
    intro id found same
    cases (getD_replicate_none _ id).symm.trans same
  have keeps := (part_keeps document.root).discard.bind fun _ => fillLevels_keeps (document.graph.nodes.size + 1)
  exact (keeps _ _ _ empty ran).1

end Building

/-! ## Values of documents -/

namespace Data

/-- Whether a value is one that documents can have: a scalar with a value that scalars can have, or a collection. -/
inductive IsRead : Data → Prop
  /-- A scalar. -/
  | scalar {value : Scalar} (spelt : value.IsSpelt) : IsRead (scalar value)
  /-- Values in order. -/
  | list (items : List Data) : IsRead (list items)
  /-- Pairs in order. -/
  | pairs (items : List (Data × Data)) : IsRead (pairs items)
  /-- Distinct values. -/
  | set (members : List Scalar) : IsRead (set members)
  /-- Values under distinct keys. -/
  | dict (entries : List (Scalar × Data)) : IsRead (dict entries)

/-- The value of a node that stands inside of no other and is not put together yet is one that documents can have. -/
theorem isRead_gather {building : Building} (sound : building.IsSound) (fuel : Nat) {id : NodeId} {memory : Memory}
    (unknown : memory.getD id none = none) : ((gather building.parts (fuel + 1) [] id).run memory).1.IsRead := by
  simp only [gather, StateT.run, bind, StateT.bind, get, getThe, MonadStateOf.get, StateT.get, pure, unknown,
    List.contains_nil]
  cases stands : building.parts.getD id none with
  | none => exact .scalar .nothing
  | some part =>
    cases part with
    | scalar value => exact .scalar (sound id _ stands value rfl)
    | list items => exact .list _
    | pairs items => exact .pairs _
    | set members => exact .set _
    | dict entries => exact .dict _

/-- The value of a document is one that documents can have. -/
theorem isRead_of_document {document : Document} {data : Data} (read : ofDocument document = .ok data) :
    data.IsRead := by
  obtain ⟨building, built, same⟩ := bind_ok_iff.1 read
  cases same
  exact isRead_gather (Building.isSound_of_document built) _ (Building.getD_replicate_none _ _)

end Data

/-- The value that is read from a text is one that documents can have. -/
theorem isRead_of_readData {supply : Supply} {data : Data} (read : readData supply = .ok data) :
    data.IsRead := by
  obtain ⟨document, -, rest⟩ := bind_ok_iff.1 read
  cases document with
  | none =>
    cases rest
    exact .scalar .nothing
  | some document => exact Data.isRead_of_document rest

end LiveConsole.Yaml
