import Mathlib.Data.Prod.Lex
import LiveConsole.Actions.Basic
import LiveConsole.Proofs.Actions.Runs
import LiveConsole.Proofs.Number.Order

/-!
# The order of callbacks

Ranks are numbers, infinite ones included, and one that is no number. The comparison of ranks is that of the
numbers that they are, so the callbacks of an action come in the order of their ranks and, among equal
ranks, of their registration. Where a rank is no number no order is promised, but each callback is still
called once.
-/
namespace LiveConsole

namespace Priority

/-- The number that a rank is, unless it is none. -/
def number? : Priority → Option (WithBot (WithTop ℚ))
  | first => some ⊥
  | exact numerator halvings => some ((numerator / 2 ^ halvings : ℚ) : WithTop ℚ)
  | last => some (⊤ : WithTop ℚ)
  | undefined => none

/-- A rank is a number unless it is the one that is none. -/
theorem exists_number {priority : Priority} (defined : priority ≠ undefined) :
    ∃ number, priority.number? = some number := by
  cases priority with
  | first | exact _ _ | last => exact ⟨_, rfl⟩
  | undefined => exact absurd rfl defined

/-- Fractions over powers of two are compared crosswise. -/
theorem fraction_lt_iff (left right : Int) (leftHalvings rightHalvings : Nat) :
    left * Nat.pow 2 rightHalvings < right * Nat.pow 2 leftHalvings ↔
      (left / 2 ^ leftHalvings : ℚ) < right / 2 ^ rightHalvings := by
  have leftPositive : (0 : ℚ) < 2 ^ leftHalvings := pow_pos (by norm_num) _
  have rightPositive : (0 : ℚ) < 2 ^ rightHalvings := pow_pos (by norm_num) _
  rw [div_lt_div_iff₀ leftPositive rightPositive]
  exact_mod_cast Iff.rfl

/-- Ranks that are numbers are ordered as those. -/
theorem order?_of_numbers {left right : Priority} {leftNumber rightNumber : WithBot (WithTop ℚ)}
    (leftIs : left.number? = some leftNumber) (rightIs : right.number? = some rightNumber) :
    order? left right = some (compare leftNumber rightNumber) := by
  have positive : ∀ number : WithTop ℚ, (⊥ : WithBot (WithTop ℚ)) < number := WithBot.bot_lt_coe
  have finite : ∀ number : ℚ, ((number : WithTop ℚ) : WithBot (WithTop ℚ)) < (⊤ : WithTop ℚ) :=
    fun number => WithBot.coe_lt_coe.2 (WithTop.coe_lt_top number)
  cases left with
  | undefined => cases leftIs
  | first =>
    cases leftIs
    cases right with
    | undefined => cases rightIs
    | first =>
      cases rightIs
      exact congrArg some (compare_eq_iff_eq.2 rfl).symm
    | exact _ _ | last =>
      cases rightIs
      exact congrArg some (compare_lt_iff_lt.2 (positive _)).symm
  | last =>
    cases leftIs
    cases right with
    | undefined => cases rightIs
    | first =>
      cases rightIs
      exact congrArg some (compare_gt_iff_gt.2 (positive _)).symm
    | exact _ _ =>
      cases rightIs
      exact congrArg some (compare_gt_iff_gt.2 (finite _)).symm
    | last =>
      cases rightIs
      exact congrArg some (compare_eq_iff_eq.2 rfl).symm
  | exact numerator halvings =>
    cases leftIs
    cases right with
    | undefined => cases rightIs
    | first =>
      cases rightIs
      exact congrArg some (compare_gt_iff_gt.2 (positive _)).symm
    | last =>
      cases rightIs
      exact congrArg some (compare_lt_iff_lt.2 (finite _)).symm
    | exact other otherHalvings =>
      cases rightIs
      refine congrArg some (Number.compare_congr ?_ ?_)
      · exact (fraction_lt_iff _ _ _ _).trans (WithTop.coe_lt_coe.symm.trans WithBot.coe_lt_coe.symm)
      · exact (fraction_lt_iff _ _ _ _).trans (WithTop.coe_lt_coe.symm.trans WithBot.coe_lt_coe.symm)

end Priority

namespace Registration

variable {Callback : Type}

/-- Whether a callback comes before another one: its rank is less, or is the same number and the callback
was registered earlier. -/
def IsBefore (left right : Registration Callback) : Prop :=
  ∃ leftNumber rightNumber, left.priority.number? = some leftNumber ∧
    right.priority.number? = some rightNumber ∧
    (leftNumber < rightNumber ∨ leftNumber = rightNumber ∧ left.sequence < right.sequence)

/-- The place of a callback whose rank is a number: its rank, then its registration. -/
def place (registration : Registration Callback) : WithBot (WithTop ℚ) ×ₗ Nat :=
  toLex (registration.priority.number?.getD ⊥, registration.sequence)

/-- Callbacks whose ranks are numbers precede one another by their places. -/
theorem precedes_iff_place_lt {left right : Registration Callback} (leftDefined : left.priority ≠ .undefined)
    (rightDefined : right.priority ≠ .undefined) :
    precedes left right = true ↔ left.place < right.place := by
  obtain ⟨leftNumber, leftIs⟩ := Priority.exists_number leftDefined
  obtain ⟨rightNumber, rightIs⟩ := Priority.exists_number rightDefined
  rw [place, place, Prod.Lex.toLex_lt_toLex, leftIs, rightIs, precedes,
    Priority.order?_of_numbers leftIs rightIs]
  simp only [Option.getD_some]
  rcases lt_trichotomy leftNumber rightNumber with less | same | more
  · simp [compare_lt_iff_lt.2 less, less]
  · simp [same]
  · simp [compare_gt_iff_gt.2 more, more.ne', not_lt.2 more.le]

/-- Callbacks whose ranks are numbers come before one another by their places. -/
theorem isBefore_of_place_lt {left right : Registration Callback} (leftDefined : left.priority ≠ .undefined)
    (rightDefined : right.priority ≠ .undefined) (less : left.place < right.place) :
    IsBefore left right := by
  obtain ⟨leftNumber, leftIs⟩ := Priority.exists_number leftDefined
  obtain ⟨rightNumber, rightIs⟩ := Priority.exists_number rightDefined
  rw [place, place, Prod.Lex.toLex_lt_toLex, leftIs, rightIs] at less
  exact ⟨leftNumber, rightNumber, leftIs, rightIs, less⟩

/-- Putting callbacks in order only moves them. -/
theorem inOrder_perm (registrations : List (Registration Callback)) :
    (inOrder registrations).Perm registrations := by
  unfold inOrder
  split
  · exact Runs.sort_perm precedes registrations
  · exact List.mergeSort_perm _ _

/-- Callbacks whose ranks are numbers are sorted by their places. -/
theorem place_le_inOrder {registrations : List (Registration Callback)}
    (defined : ∀ registration ∈ registrations, registration.priority ≠ .undefined) :
    (inOrder registrations).Pairwise fun left right => left.place ≤ right.place := by
  have plain : (registrations.any fun registration => registration.priority = .undefined) = false := by
    rw [List.any_eq_false]
    intro registration member
    simpa using defined registration member
  have byPlace : registrations.mergeSort (fun left right => !precedes right left) =
      registrations.mergeSort fun left right => decide (left.place ≤ right.place) := by
    have mapped : (registrations.mergeSort fun left right => !precedes right left).map id =
        (registrations.map id).mergeSort fun left right => decide (left.place ≤ right.place) := by
      refine List.map_mergeSort fun left leftMember right rightMember => ?_
      have same := precedes_iff_place_lt (defined right rightMember) (defined left leftMember)
      rw [Bool.eq_iff_iff, Bool.not_eq_true', ← Bool.not_eq_true, same, not_lt, decide_eq_true_iff]
      exact Iff.rfl
    simpa using mapped
  rw [inOrder, plain, if_neg (by decide), byPlace]
  have sorted : (registrations.mergeSort fun left right => decide (left.place ≤ right.place)).Pairwise
      fun left right => decide (left.place ≤ right.place) := by
    refine List.pairwise_mergeSort ?_ ?_ registrations
    · intro first second third before after
      simp only [decide_eq_true_eq] at before after ⊢
      exact before.trans after
    · intro first second
      simp only [Bool.or_eq_true, decide_eq_true_eq]
      exact le_total _ _
  exact sorted.imp fun below => of_decide_eq_true below

/-- Callbacks that were registered one after another, with ranks that are numbers, come before one another
in their order. -/
theorem isBefore_inOrder {registrations : List (Registration Callback)}
    (defined : ∀ registration ∈ registrations, registration.priority ≠ .undefined)
    (oneByOne : registrations.Pairwise fun left right => left.sequence < right.sequence) :
    (inOrder registrations).Pairwise IsBefore := by
  have apart : (inOrder registrations).Pairwise fun left right => left.sequence ≠ right.sequence :=
    ((inOrder_perm registrations).pairwise_iff fun different => different.symm).2
      (oneByOne.imp Nat.ne_of_lt)
  refine (apart.and (place_le_inOrder defined)).imp_of_mem ?_
  intro left right leftMember rightMember both
  have leftDefined := defined left ((inOrder_perm registrations).mem_iff.1 leftMember)
  have rightDefined := defined right ((inOrder_perm registrations).mem_iff.1 rightMember)
  refine isBefore_of_place_lt leftDefined rightDefined (lt_of_le_of_ne both.2 fun same => both.1 ?_)
  exact congrArg (fun place => (ofLex place).2) same

end Registration

end LiveConsole
