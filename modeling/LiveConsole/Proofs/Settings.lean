import LiveConsole.Proofs.CommandLine.Escaping
import LiveConsole.Proofs.Yaml.Building

/-!
# Which documents hold settings

A settings file should hold a mapping, or nothing, and any other value should be refused. A value that counts as
false is taken for nothing before its kind is looked at, so the empty and the zero ones of the other kinds are
accepted as well. These are listed here, and are the only values where loading departs from what it promises.
-/
namespace LiveConsole

namespace Yaml.Data

/-- Whether a value is empty or zero, but neither that of what says nothing nor a mapping. -/
inductive IsHollow : Data → Prop
  /-- The truth value that denies. -/
  | bool : IsHollow (scalar (.plain (.bool false)))
  /-- The integer zero. -/
  | int : IsHollow (scalar (.plain (.ofInt 0)))
  /-- A floating point zero, of either sign. -/
  | float {value : Number.Binary64} {identity : Ident} (zero : value.isZero = true) :
    IsHollow (scalar (.plain (.ofFloat value identity)))
  /-- The text without characters. -/
  | text : IsHollow (scalar (.plain (.ofText "")))
  /-- The byte string without bytes. -/
  | binary : IsHollow (scalar (.plain (.bytes [] ⟨"bytes"⟩ 0)))
  /-- The list without values. -/
  | list : IsHollow (list [])
  /-- The order of no pairs. -/
  | pairs : IsHollow (pairs [])
  /-- The set without members. -/
  | set : IsHollow (set [])

/-- A hollow value counts as false. -/
theorem IsHollow.truthy_eq_false {data : Data} (hollow : data.IsHollow) : data.truthy = false := by
  cases hollow with
  | float zero => simp [truthy, Value.truthy, Value.ofFloat, zero]
  | _ => rfl

/-- A scalar of a document that counts as false says nothing or is hollow. -/
theorem eq_null_or_isHollow {value : Scalar} (spelt : value.IsSpelt) (empty : (scalar value).truthy = false) :
    scalar value = null ∨ (scalar value).IsHollow := by
  cases spelt with
  | nothing => exact .inl rfl
  | bool truth =>
    cases truth with
    | false => exact .inr .bool
    | true => cases empty
  | int number =>
    have zero : number = 0 := by simpa [truthy, Value.truthy, Value.ofInt] using empty
    exact .inr (zero ▸ .int)
  | float number =>
    have zero : number.isZero = true := by simpa [truthy, Value.truthy, Value.ofFloat] using empty
    exact .inr (.float zero)
  | binary bytes =>
    have none : bytes = [] := by simpa [truthy, Value.truthy] using empty
    exact .inr (none ▸ .binary)
  | text chars =>
    have none : chars = "" := by simpa [truthy, Value.truthy, Value.ofText] using empty
    exact .inr (none ▸ .text)
  | timestamp => cases empty
  | broken => cases empty

/-- Of the values of documents those count as false that say nothing, the empty mapping and the hollow ones. -/
theorem truthy_eq_false_iff {data : Data} (read : data.IsRead) :
    data.truthy = false ↔ data = null ∨ data = dict [] ∨ data.IsHollow := by
  constructor
  · intro empty
    cases read with
    | scalar spelt => exact (eq_null_or_isHollow spelt empty).imp_right .inr
    | list items =>
      have none : items = [] := by simpa [truthy] using empty
      exact .inr (.inr (none ▸ .list))
    | pairs items =>
      have none : items = [] := by simpa [truthy] using empty
      exact .inr (.inr (none ▸ .pairs))
    | set members =>
      have none : members = [] := by simpa [truthy] using empty
      exact .inr (.inr (none ▸ .set))
    | dict entries =>
      have none : entries = [] := by simpa [truthy] using empty
      exact .inr (.inl (none ▸ rfl))
  · rintro (rfl | rfl | hollow)
    · rfl
    · rfl
    · exact hollow.truthy_eq_false

/-- The values of a list. -/
def items? : Data → Option (List Data)
  | list items => some items
  | _ => none

/-- A text whose value has so many values in order has a list of them. -/
theorem readData_of_length {supply : Supply} {count : Nat}
    (counted : ((readData supply).toOption.bind items?).map List.length = some count) :
    ∃ items, readData supply = .ok (list items) ∧ items.length = count := by
  obtain ⟨items, found, length⟩ := Option.map_eq_some_iff.1 counted
  obtain ⟨data, read, own⟩ := Option.bind_eq_some_iff.1 found
  cases data with
  | list others =>
    cases own
    exact ⟨items, Options.ok_of_toOption read, length⟩
  | _ => cases own

end Yaml.Data

namespace Settings

open Yaml (Data Scalar)

variable {place : Place} {directory : String} {data : Data} {entries : Entries}

/-- Whether there is a settings file in a directory. -/
def IsAbsent (place : Place) (directory : String) : Prop :=
  place.tree.pathExists place.directory (file directory) = .ok false

/-- Whether the settings file of a directory holds a document with a value. -/
def Holds (place : Place) (directory : String) (data : Data) : Prop :=
  ∃ modified content executable,
    place.tree.status place.directory (file directory).text = .ok (.file modified content executable) ∧
    Yaml.readData (.ofBytes content) = .ok data

/-- The settings that a value should hold: a mapping holds its entries, what says nothing holds none, and every
other value is refused. -/
def promised : Data → Except Fault Entries
  | .dict entries => .ok entries
  | .scalar (.plain .nothing) => .ok []
  | _ => .error notMapping

/-- A hollow value should be refused. -/
theorem promised_of_isHollow (hollow : data.IsHollow) : promised data = .error notMapping := by
  cases hollow <;> rfl

/-- A mapping and what says nothing should be accepted, and nothing else. -/
theorem promised_ok_iff : promised data = .ok entries ↔ data = .dict entries ∨ entries = [] ∧ data = .null := by
  unfold promised
  split
  · simp [Data.null]
  · simp [Data.null, eq_comm]
  · rename_i notDict notNull
    have other : data ≠ .dict entries := notDict entries
    have something : data ≠ .null := notNull
    simp [other, something]

/-- A value that counts as false holds no settings. -/
theorem ofData_of_empty (empty : data.truthy = false) : ofData data = .ok [] := by
  simp [ofData, empty]

/-- A value that counts as true holds the settings that it should hold. -/
theorem ofData_of_truthy (filled : data.truthy = true) : ofData data = promised data := by
  unfold ofData promised
  simp only [filled, Bool.not_true, Bool.false_eq_true, if_false]
  split
  · rfl
  · rename_i noMapping
    split
    · exact (noMapping _ rfl).elim
    · cases filled
    · rfl

/-- A value of a document holds the settings that it should hold, unless it is hollow. -/
theorem ofData_eq_promised_iff (read : data.IsRead) : ofData data = promised data ↔ ¬data.IsHollow := by
  constructor
  · intro kept hollow
    rw [ofData_of_empty hollow.truthy_eq_false, promised_of_isHollow hollow] at kept
    cases kept
  · intro solid
    cases truth : data.truthy with
    | true => exact ofData_of_truthy truth
    | false =>
      rw [ofData_of_empty truth]
      obtain rfl | rfl | hollow := (Yaml.Data.truthy_eq_false_iff read).1 truth
      · rfl
      · rfl
      · exact absurd hollow solid

/-- A value of a document is accepted with entries if it is the mapping of them, or if it says nothing or is hollow
and there are none. -/
theorem ofData_ok_iff (read : data.IsRead) :
    ofData data = .ok entries ↔ data = .dict entries ∨ entries = [] ∧ (data = .null ∨ data.IsHollow) := by
  by_cases hollow : data.IsHollow
  · have noMapping : data ≠ .dict entries := by
      rintro rfl
      cases hollow
    simp [ofData_of_empty hollow.truthy_eq_false, noMapping, hollow, eq_comm]
  · rw [(ofData_eq_promised_iff read).2 hollow, promised_ok_iff]
    simp only [hollow, or_false]

/-- Bytes with a document spell the settings of its value. -/
theorem ofBytes_eq_ofData {content : List UInt8} (read : Yaml.readData (.ofBytes content) = .ok data) :
    ofBytes content = ofData data := by
  unfold ofBytes
  rw [read]

/-- Bytes without a value spell no settings. -/
theorem ofBytes_ne_ok {content : List UInt8} {trouble : Yaml.Trouble}
    (failed : Yaml.readData (.ofBytes content) = .error trouble) : ofBytes content ≠ .ok entries := by
  unfold ofBytes
  rw [failed]
  cases trouble <;> exact nofun

/-- The settings of a file with a document are those of its value. -/
theorem load_of_holds (holds : Holds place directory data) : load place directory = ofData data := by
  obtain ⟨modified, content, executable, stands, read⟩ := holds
  rw [load_eq, stands]
  exact ofBytes_eq_ofData read

/-- The value of a settings file is one that documents can have. -/
theorem Holds.isRead (holds : Holds place directory data) : data.IsRead := by
  obtain ⟨-, content, -, -, read⟩ := holds
  exact Yaml.isRead_of_readData read

/-- Settings that are loaded are none for want of a file, or those of the value that the file holds. -/
theorem load_ok_iff :
    load place directory = .ok entries ↔
      IsAbsent place directory ∧ entries = [] ∨ ∃ data, Holds place directory data ∧ ofData data = .ok entries := by
  constructor
  · intro loaded
    cases asked : place.tree.status place.directory (file directory).text with
    | error lost =>
      rw [load_eq, asked] at loaded
      cases lost with
      | tooLong => cases loaded
      | _ =>
        cases loaded
        exact .inl ⟨by rw [IsAbsent, FileTree.pathExists, asked], rfl⟩
    | ok entry =>
      rw [load_eq, asked] at loaded
      cases entry with
      | file modified content executable =>
        cases read : Yaml.readData (.ofBytes content) with
        | ok data =>
          have holds : Holds place directory data := ⟨modified, content, executable, asked, read⟩
          exact .inr ⟨data, holds, (ofBytes_eq_ofData read).symm.trans loaded⟩
        | error trouble => exact absurd loaded (ofBytes_ne_ok read)
      | _ => cases loaded
  · rintro (⟨absent, rfl⟩ | ⟨data, holds, accepted⟩)
    · simp only [load, IsAbsent] at absent ⊢
      simp [absent, bind, Except.bind, pure, Except.pure]
    · exact (load_of_holds holds).trans accepted

/-- Two directories with settings files: the lists `[]` and `[a]`. -/
def listPlace : Place where
  environment := ⟨[], none, []⟩
  tree := { entries := [([], .directory 0), (["shell.yaml"], .file 0 [91, 93] false), (["app"], .directory 0),
    (["app", "shell.yaml"], .file 0 [91, 97, 93] false)] }
  directory := []

end Settings

end LiveConsole
