import LiveConsole.Loop

/-!
# What happens under a watch

While a console watches a path, its read loops are pointed at the path one after another, lines are read,
the files change, and a read loop may find the path changed. What happens accounts for a number of
restarts: there is one for each change that is found and one for each line that asks for it; and a change
is found only when the files have changed since the read loop was pointed at the path.
-/
namespace LiveConsole.Console

open Loop (isWord restartWord)

/-- What happens while a console watches a path. -/
inductive Happening where
  /-- A read loop is pointed at the path. -/
  | armed
  /-- The files change. -/
  | changed (tree : FileTree)
  /-- A line is read. -/
  | read (line : String)
  /-- A read loop finds the path changed. -/
  | found

namespace Happening

/-- Whether a read loop finds the path changed. -/
def isFound : Happening → Bool
  | found => true
  | armed | changed _ | read _ => false

/-- Whether the files change. -/
def isChange : Happening → Bool
  | changed _ => true
  | armed | read _ | found => false

/-- Whether a line is read that asks for a restart. -/
def isRequest : Happening → Bool
  | read line => isWord restartWord line
  | armed | changed _ | found => false

/-- Whether something happens that neither begins nor ends a read loop. -/
def isPlain : Happening → Bool
  | changed _ => true
  | read line => !isWord restartWord line
  | armed | found => false

end Happening

/-! ## What happenings add up to -/

/-- How often a read loop finds the path changed. -/
def findings (happenings : List Happening) : Nat := happenings.countP Happening.isFound

/-- How often the files change. -/
def changes (happenings : List Happening) : Nat := happenings.countP Happening.isChange

/-- How many lines that ask for a restart are read. -/
def requests (happenings : List Happening) : Nat := happenings.countP Happening.isRequest

/-- Findings before are counted with findings later. -/
@[simp] theorem findings_append (before after : List Happening) :
    findings (before ++ after) = findings before + findings after := List.countP_append

/-- Changes before are counted with changes later. -/
@[simp] theorem changes_append (before after : List Happening) :
    changes (before ++ after) = changes before + changes after := List.countP_append

/-- Requests before are counted with requests later. -/
@[simp] theorem requests_append (before after : List Happening) :
    requests (before ++ after) = requests before + requests after := List.countP_append

section Armed

variable (since : List Happening)

/-- To be pointed at the path is no finding. -/
@[simp] theorem findings_armed : findings (.armed :: since) = findings since :=
  List.countP_cons_of_neg Bool.false_ne_true

/-- To be pointed at the path is no change. -/
@[simp] theorem changes_armed : changes (.armed :: since) = changes since :=
  List.countP_cons_of_neg Bool.false_ne_true

/-- To be pointed at the path is no request. -/
@[simp] theorem requests_armed : requests (.armed :: since) = requests since :=
  List.countP_cons_of_neg Bool.false_ne_true

end Armed

/-- A line that is read is no finding. -/
@[simp] theorem findings_read (line : String) : findings [.read line] = 0 := rfl

/-- A line that is read counts for a request if it asks for a restart. -/
@[simp] theorem requests_read (line : String) :
    requests [.read line] = if isWord restartWord line then 1 else 0 := by
  rw [requests, List.countP_singleton, Happening.isRequest]

/-- A path that is found changed is a finding. -/
@[simp] theorem findings_found : findings [.found] = 1 := rfl

/-- A path that is found changed is no request. -/
@[simp] theorem requests_found : requests [.found] = 0 := rfl

/-- Whether each time that the path is found changed, the files have changed since the path was armed for
the read loop that finds it so, and no other one has found it changed since. -/
def Grounded (happenings : List Happening) : Prop :=
  ∀ before after, happenings = before ++ .found :: after →
    ∃ earlier since, before = earlier ++ .armed :: since ∧ .armed ∉ since ∧ .found ∉ since ∧
      ∃ tree, .changed tree ∈ since

/-- Whether happenings account for a number of restarts. -/
structure Accounts (happenings : List Happening) (restarts : Nat) : Prop where
  /-- Changes are found only behind changes. -/
  grounded : Grounded happenings
  /-- No more changes are found than there are. -/
  bounded : findings happenings ≤ changes happenings
  /-- A restart comes from a change that is found or from a line that asks for it. -/
  balanced : restarts = findings happenings + requests happenings

/-- Accounts behind one another account for the restarts of both. -/
theorem Accounts.append {first second : List Happening} {one other : Nat} (before : Accounts first one)
    (behind : Accounts second other) : Accounts (first ++ second) (one + other) where
  grounded := by
    intro front back split
    rcases List.append_eq_append_iff.1 split with ⟨middle, rfl, parted⟩ | ⟨middle, rfl, parted⟩
    · obtain ⟨earlier, since, rfl, rest⟩ := behind.grounded middle back parted
      exact ⟨first ++ earlier, since, by simp, rest⟩
    · cases middle with
      | nil =>
        obtain ⟨earlier, since, nothing, _⟩ := behind.grounded [] back parted.symm
        simp at nothing
      | cons head tail =>
        obtain ⟨rfl, rfl⟩ := List.cons.inj parted
        exact before.grounded front tail rfl
  bounded := by
    have one := before.bounded
    have other := behind.bounded
    rw [findings_append, changes_append]
    exact Nat.add_le_add one other
  balanced := by
    have one := before.balanced
    have other := behind.balanced
    rw [findings_append, requests_append]
    omega

/-- Where nothing happens, no restart is accounted for. -/
theorem Accounts.nothing : Accounts [] 0 where
  grounded before after split := by simp at split
  bounded := Nat.le_refl 0
  balanced := rfl

/-- What happens without a change being found is grounded. -/
theorem grounded_of_not_mem {happenings : List Happening} (unfound : .found ∉ happenings) :
    Grounded happenings := by
  rintro before after rfl
  exact absurd (by simp) unfound

/-- Whether all that happens neither begins nor ends a read loop. -/
def Plain (happenings : List Happening) : Prop := ∀ happening ∈ happenings, happening.isPlain = true

section Plain

variable {since : List Happening}

/-- Where nothing happens, all that happens is plain. -/
theorem Plain.nothing : Plain [] := List.forall_mem_nil _

/-- Plain happenings behind plain ones are plain. -/
theorem Plain.append {first second : List Happening} (before : Plain first) (behind : Plain second) :
    Plain (first ++ second) := List.forall_mem_append.2 ⟨before, behind⟩

/-- It is plain that files change. -/
theorem plain_changes (changes : List FileTree) : Plain (changes.map .changed) := by
  intro happening member
  obtain ⟨tree, _, rfl⟩ := List.mem_map.1 member
  rfl

/-- It is plain that a line is read that asks for no restart. -/
theorem plain_read {line : String} (goesOn : isWord restartWord line = false) : Plain [.read line] := by
  intro happening member
  cases List.mem_singleton.1 member
  simp [Happening.isPlain, goesOn]

/-- Among plain happenings no read loop is pointed at the path. -/
theorem Plain.noArming (plain : Plain since) : .armed ∉ since :=
  fun member => absurd (plain _ member) (by decide)

/-- Among plain happenings the path is not found changed. -/
theorem Plain.unfound (plain : Plain since) : .found ∉ since :=
  fun member => absurd (plain _ member) (by decide)

/-- Plain happenings count for no finding. -/
theorem Plain.no_findings (plain : Plain since) : findings since = 0 := by
  refine List.countP_eq_zero.2 fun happening member => ?_
  cases happening with
  | found => exact absurd member plain.unfound
  | armed | changed _ | read _ => exact Bool.false_ne_true

/-- Plain happenings count for no request. -/
theorem Plain.no_requests (plain : Plain since) : requests since = 0 := by
  refine List.countP_eq_zero.2 fun happening member => ?_
  cases happening with
  | read line => simpa [Happening.isPlain, Happening.isRequest] using plain _ member
  | armed | changed _ | found => exact Bool.false_ne_true

/-- A read loop during which only plain things happen accounts for no restart. -/
theorem Plain.accounts (plain : Plain since) : Accounts (.armed :: since) 0 where
  grounded := grounded_of_not_mem (by simp [plain.unfound])
  bounded := by simp [plain.no_findings]
  balanced := by simp [plain.no_findings, plain.no_requests]

/-- A read loop that a line ends which asks for a restart accounts for one. -/
theorem Plain.accounts_of_request (plain : Plain since) {line : String}
    (asks : isWord restartWord line = true) : Accounts (.armed :: since ++ [.read line]) 1 where
  grounded := grounded_of_not_mem (by simp [plain.unfound])
  bounded := by simp [-List.cons_append, plain.no_findings]
  balanced := by simp [-List.cons_append, plain.no_findings, plain.no_requests, asks]

/-- A read loop that finds the path changed accounts for a restart, if the files have changed. -/
theorem Plain.accounts_of_finding (plain : Plain since) {tree : FileTree}
    (changed : .changed tree ∈ since) : Accounts (.armed :: since ++ [.found]) 1 where
  grounded := by
    -- The only finding is the last thing that happens.
    intro before after split
    have last : before = .armed :: since := by
      rcases List.append_eq_append_iff.1 split with ⟨middle, rfl, parted⟩ | ⟨middle, whole, parted⟩
      · cases middle with
        | nil => simp
        | cons head tail => simp at parted
      · cases middle with
        | nil => simpa using whole.symm
        | cons head tail =>
          obtain ⟨rfl, _⟩ := List.cons.inj parted
          have inside : .found ∈ .armed :: since := by simp [whole]
          simp [plain.unfound] at inside
    exact ⟨[], since, last, plain.noArming, plain.unfound, tree, changed⟩
  bounded := by
    have some : 0 < changes since := List.countP_pos_iff.2 ⟨_, changed, rfl⟩
    simp only [findings_append, findings_armed, findings_found, changes_append, changes_armed,
      plain.no_findings]
    omega
  balanced := by simp [-List.cons_append, plain.no_findings, plain.no_requests]

end Plain

end LiveConsole.Console
