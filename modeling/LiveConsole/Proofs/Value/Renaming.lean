import LiveConsole.Value.Written
import Mathlib.Logic.Function.Basic

/-!
# Values with other identities

Identities tell what is one and what is two, and nothing else of a value depends on them. Here all identities
of a value and of its heap are given other names, no two of them becoming one. What a value hashes to, what
it is written as and what keeps it from being written stay the same: a container is written by what it holds
and an object by its type.
-/
namespace LiveConsole

/-! ## Other identities -/

namespace Value

/-- A value with other identities. -/
def rename (f : Ident → Ident) : Value → Value
  | nothing => nothing
  | bool value => bool value
  | int value type identity => int value type (f identity)
  | float value type identity => float value type (f identity)
  | complex re im type identity => complex re im type (f identity)
  | text value type identity => text value type (f identity)
  | bytes data type identity => bytes data type (f identity)
  | module name => module name
  | path shown identity => path shown (f identity)
  | range items identity => range items (f identity)
  | builtin function => builtin function
  | errorClass name => errorClass name
  | host output result identity => host output (result.rename f) (f identity)
  | hostFault output fault identity => hostFault output fault (f identity)
  | foreign type written identity => foreign type written (f identity)
  | ref identity => ref (f identity)

/-- Identities that keep their names are the same ones. -/
theorem rename_id (value : Value) : value.rename id = value := by
  induction value with
  | host output result identity ih => rw [rename, ih, id]
  | _ => rfl

end Value

/-- A container with other identities inside. -/
def Cell.rename (f : Ident → Ident) : Cell → Cell
  | list items type => list (items.map (Value.rename f)) type
  | tuple items type => tuple (items.map (Value.rename f)) type
  | dict items type => dict (items.map (Prod.map (Value.rename f) (Value.rename f))) type
  | set frozen members table type => set frozen (members.map (Value.rename f)) table type
  | buffer data type => buffer data type
  | object attributes type => object (attributes.map (Prod.map id (Value.rename f))) type
  | error arguments type => error (arguments.map (Value.rename f)) type

/-- A heap with other identities. -/
def Heap.rename (f : Ident → Ident) (heap : Heap) : Heap where
  cells := heap.cells.map (Prod.map f (Cell.rename f))
  next := (List.range heap.next).foldr (fun identity next => max (f identity + 1) next) 0

/-- A value and its heap with other identities. -/
def Graph.rename (f : Ident → Ident) (graph : Graph) : Graph :=
  ⟨graph.heap.rename f, graph.root.rename f⟩

variable {f : Ident → Ident}

/-- An identity that is in use is in use under its other name. -/
theorem Heap.lt_next_rename {heap : Heap} {identity : Ident} (used : identity < heap.next) :
    f identity < (heap.rename f).next := by
  have bound (identities : List Ident) (member : identity ∈ identities) :
      f identity + 1 ≤ identities.foldr (fun identity next => max (f identity + 1) next) 0 := by
    induction identities with
    | nil => cases member
    | cons first rest ih =>
      rcases List.mem_cons.1 member with rfl | later
      · exact Nat.le_max_left _ _
      · exact Nat.le_trans (ih later) (Nat.le_max_right _ _)
  exact Nat.lt_of_succ_le (bound _ (List.mem_range.2 used))

/-- A heap keeps its number of containers. -/
theorem Heap.size_rename (heap : Heap) : (heap.rename f).size = heap.size := List.length_map _

/-- A container is found under its other identity where no two identities become one. -/
theorem Heap.get?_rename (apart : f.Injective) (heap : Heap) (identity : Ident) :
    (heap.rename f).get? (f identity) = (heap.get? identity).map (Cell.rename f) := by
  obtain ⟨cells, next⟩ := heap
  show (cells.map (Prod.map f (Cell.rename f))).lookup (f identity) = _
  rw [get?]
  induction cells with
  | nil => rfl
  | cons entry rest ih =>
    obtain ⟨other, cell⟩ := entry
    rw [List.map_cons, Prod.map_apply, List.lookup_cons, List.lookup_cons]
    by_cases same : identity = other
    · rw [same, beq_self_eq_true, beq_self_eq_true]
      rfl
    · rw [beq_false_of_ne same, beq_false_of_ne (apart.ne same)]
      exact ih

namespace Hash

/-- The hash of a value does not tell its identity, nor those inside of it. -/
theorem within?_rename (apart : f.Injective) (heap : Heap) (depth : Nat) (value : Value) :
    within? (heap.rename f) depth (value.rename f) = within? heap depth value := by
  induction depth generalizing value with
  | zero => rfl
  | succ depth ih =>
    have inside : within? (heap.rename f) depth ∘ Value.rename f = within? heap depth := funext ih
    cases value with
    | ref identity =>
      simp only [Value.rename, within?, heap.get?_rename apart]
      cases heap.get? identity with
      | none => rfl
      | some cell =>
        cases cell with
        | tuple items type => simp only [Option.map_some, Cell.rename, List.mapM_map, inside]
        | set frozen members table type =>
          cases frozen <;> simp only [Option.map_some, Cell.rename, List.mapM_map, inside]
        | _ => rfl
    | _ => rfl

end Hash

namespace Value

/-- The hash of a value does not tell its identity, nor those inside of it. -/
theorem hash?_rename (apart : f.Injective) (heap : Heap) (value : Value) :
    (value.rename f).hash? (heap.rename f) = value.hash? heap := by
  cases value with
  | ref identity =>
    simp only [rename, hash?, heap.size_rename]
    exact Hash.within?_rename apart heap _ (.ref identity)
  | _ => rfl

/-- The written form of a scalar does not tell its identity. -/
theorem writtenScalar_rename (value : Value) : (value.rename f).writtenScalar = value.writtenScalar := by
  cases value <;> rfl

/-- What keeps a scalar from being written does not depend on its identity. -/
theorem scalarObstacle?_rename (value : Value) :
    (value.rename f).scalarObstacle? = value.scalarObstacle? := by
  cases value <;> simp only [rename, scalarObstacle?]

end Value

/-- The arguments that an error shows are chosen with no regard to identities. -/
theorem Fault.shownArguments_rename (kind : String) (arguments : List Value) :
    Fault.shownArguments kind (arguments.map (Value.rename f)) =
      (Fault.shownArguments kind arguments).map (Value.rename f) := by
  have isNumber (value : Value) : Fault.isNumber (value.rename f) = Fault.isNumber value := by
    cases value <;> rfl
  have path : (Fault.pathOf? kind (arguments.map (Value.rename f))).isSome =
      (Fault.pathOf? kind arguments).isSome := by
    rw [Fault.pathOf?, Fault.pathOf?, List.length_map, ← List.map_drop]
    split
    · rfl
    · cases arguments.drop 2 with
      | nil => rfl
      | cons first rest =>
        have number := isNumber first
        cases first <;> simp_all [Value.rename] <;> split <;> rfl
  rw [Fault.shownArguments, Fault.shownArguments, path]
  split
  · rw [List.map_take]
  · rfl

namespace Value

/-- The written form of a value does not tell its identity, nor those inside of it. -/
theorem writtenWithin_rename (apart : f.Injective) (heap : Heap) (depth : Nat) (active : List Ident)
    (value : Value) :
    writtenWithin (heap.rename f) depth (active.map f) (value.rename f) =
      writtenWithin heap depth active value := by
  induction depth generalizing active value with
  | zero => exact writtenScalar_rename value
  | succ depth ih =>
    cases value with
    | ref identity =>
      have inside : writtenWithin (heap.rename f) depth (f identity :: active.map f) ∘ rename f =
          writtenWithin heap depth (identity :: active) := funext fun value => ih (identity :: active) value
      have beside : writtenWithin (heap.rename f) depth (active.map f) ∘ rename f =
          writtenWithin heap depth active := funext fun value => ih active value
      have again : (active.map f).contains (f identity) = active.contains identity := by
        simp [apart.eq_iff]
      simp only [rename, writtenWithin, heap.get?_rename apart, again]
      cases heap.get? identity with
      | none => rfl
      | some cell =>
        cases cell with
        | list items type => simp only [Option.map_some, Cell.rename, List.map_map, inside]
        | tuple items type => simp only [Option.map_some, Cell.rename, List.map_map, inside]
        | dict items type =>
          have entries : (fun item => writtenWithin (heap.rename f) depth (f identity :: active.map f) item.1 ++
              ": " ++ writtenWithin (heap.rename f) depth (f identity :: active.map f) item.2) ∘
                Prod.map (rename f) (rename f) =
              fun item => writtenWithin heap depth (identity :: active) item.1 ++ ": " ++
                writtenWithin heap depth (identity :: active) item.2 := by
            simp only [← inside]
            rfl
          simp only [Option.map_some, Cell.rename, List.map_map, entries]
        | set frozen members table type =>
          have ordered : ((members.map (rename f)).all fun member =>
              (member.hash? (heap.rename f)).isSome) = members.all fun member => (member.hash? heap).isSome := by
            rw [List.all_map]
            exact congrArg _ (funext fun member => by rw [Function.comp, hash?_rename apart])
          simp only [Option.map_some, Cell.rename, ordered, List.map_map, inside]
        | error arguments type =>
          simp only [Option.map_some, Cell.rename, Fault.shownArguments_rename]
          generalize Fault.shownArguments type.plain arguments = shown
          rcases shown with _ | ⟨first, _ | ⟨second, rest⟩⟩
          · simp only [List.map_nil]
          · simp only [List.map_cons, List.map_nil, ih]
          · simp only [List.map_cons, List.map_map, beside, ih]
        | _ => rfl
    | _ => exact writtenScalar_rename _

/-- The written form of a value does not tell its identity, nor those inside of it. -/
theorem written_rename (apart : f.Injective) (heap : Heap) (value : Value) :
    (value.rename f).written (heap.rename f) = value.written heap := by
  rw [written, heap.size_rename]
  exact writtenWithin_rename apart heap _ [] value

/-- The written form of bytes that can be changed. -/
theorem written_buffer {heap : Heap} {identity : Ident} {data : List UInt8} {type : TypeName}
    (found : heap.get? identity = some (.buffer data type)) :
    (ref identity).written heap = type.plain ++ "(" ++ Text.quotedGrowableBytes data ++ ")" := by
  rw [written, Nat.succ_mul, ← Nat.add_assoc, writtenWithin, found]

/-- What keeps a value from being written does not depend on identities. -/
theorem obstacleWithin?_rename (apart : f.Injective) (heap : Heap) (depth : Nat) (active : List Ident)
    (value : Value) :
    obstacleWithin? (heap.rename f) depth (active.map f) (value.rename f) =
      obstacleWithin? heap depth active value := by
  induction depth generalizing active value with
  | zero => rfl
  | succ depth ih =>
    cases value with
    | ref identity =>
      have inside : obstacleWithin? (heap.rename f) depth (f identity :: active.map f) ∘ rename f =
          obstacleWithin? heap depth (identity :: active) := funext fun value => ih (identity :: active) value
      have beside : obstacleWithin? (heap.rename f) depth (active.map f) ∘ rename f =
          obstacleWithin? heap depth active := funext fun value => ih active value
      have again : (active.map f).contains (f identity) = active.contains identity := by
        simp [apart.eq_iff]
      simp only [rename, obstacleWithin?, heap.get?_rename apart, again]
      cases heap.get? identity with
      | none => rfl
      | some cell =>
        cases cell with
        | dict items type =>
          simp only [Option.map_some, Cell.rename, List.findSome?_map, ← inside]
          rfl
        | list | tuple | set => simp only [Option.map_some, Cell.rename, List.findSome?_map, inside]
        | error => simp only [Option.map_some, Cell.rename, List.findSome?_map, beside]
        | _ => rfl
    | _ => exact scalarObstacle?_rename _

/-- What keeps a value from being written does not depend on identities. -/
theorem obstacle?_rename (apart : f.Injective) (heap : Heap) (value : Value) :
    (value.rename f).obstacle? (heap.rename f) = value.obstacle? heap :=
  obstacleWithin?_rename apart heap _ [] value

end Value

end LiveConsole
