import Mathlib.Algebra.Order.Field.Rat
import Mathlib.Order.WithBot
import Mathlib.Tactic.NormNum
import LiveConsole.Number.Arithmetic

/-!
# The order of binary floating point numbers

A number of the 64-bit format is a fraction, or an infinity below or above all fractions. Numbers are
compared as what they are, so the comparison is that of a linear order wherever both sides are numbers.
-/
namespace LiveConsole.Number

/-- Two comparisons come out alike where the same sides are less in both. -/
theorem compare_congr {First Second : Type} [LinearOrder First] [LinearOrder Second] {left right : First}
    {otherLeft otherRight : Second} (less : left < right ↔ otherLeft < otherRight)
    (more : right < left ↔ otherRight < otherLeft) : compare left right = compare otherLeft otherRight := by
  rcases lt_trichotomy left right with below | same | above
  · rw [compare_lt_iff_lt.2 below, compare_lt_iff_lt.2 (less.1 below)]
  · have equal : otherLeft = otherRight := by
      apply le_antisymm
      · exact not_lt.1 fun further => absurd same (more.2 further).ne'
      · exact not_lt.1 fun further => absurd same (less.2 further).ne
    rw [compare_eq_iff_eq.2 same, compare_eq_iff_eq.2 equal]
  · rw [compare_gt_iff_gt.2 above, compare_gt_iff_gt.2 (more.1 above)]

/-- Numbers, and an infinity on either side of them. -/
abbrev Extended := WithBot (WithTop ℚ)

/-- A fraction as one of these. -/
def Extended.ofFraction (value : ℚ) : Extended := (value : WithTop ℚ)

namespace Binary64

/-- The number that a number of the format is, unless it is none. -/
def number? : Binary64 → Option Extended
  | undefined => none
  | infinite negative => some (if negative then ⊥ else ((⊤ : WithTop ℚ) : Extended))
  | finite negative significand exponent =>
    some (.ofFraction ((if negative then -(significand : ℚ) else significand) * 2 ^ exponent))

/-- A finite number is the fraction that is given for it. -/
theorem fraction?_finite (negative : Bool) (significand : Nat) (exponent : Int) :
    ∃ top bottom, (finite negative significand exponent).fraction? = some (top, bottom) ∧ 0 < bottom ∧
      (finite negative significand exponent).number? = some (.ofFraction (top / bottom)) := by
  by_cases whole : 0 ≤ exponent
  · obtain ⟨power, rfl⟩ := Int.eq_ofNat_of_zero_le whole
    refine ⟨_, 1, by rw [fraction?, if_pos whole], Nat.one_pos, ?_⟩
    cases negative <;> simp [number?]
  · obtain ⟨power, rfl⟩ : ∃ power : Nat, exponent = -power := ⟨(-exponent).toNat, by omega⟩
    refine ⟨_, Nat.pow 2 power, by rw [fraction?, if_neg whole, neg_neg, Int.toNat_natCast],
      Nat.pow_pos Nat.two_pos, ?_⟩
    cases negative <;> simp [number?, div_eq_mul_inv]

/-- Fractions with positive denominators are compared crosswise. -/
theorem fraction_lt_iff {left right : Int} {leftBottom rightBottom : Nat} (leftPositive : 0 < leftBottom)
    (rightPositive : 0 < rightBottom) :
    left * rightBottom < right * leftBottom ↔
      Extended.ofFraction (left / leftBottom) < Extended.ofFraction (right / rightBottom) := by
  have crosswise : left * rightBottom < right * leftBottom ↔
      (left / leftBottom : ℚ) < right / rightBottom := by
    rw [div_lt_div_iff₀ (by exact_mod_cast leftPositive) (by exact_mod_cast rightPositive)]
    exact_mod_cast Iff.rfl
  exact crosswise.trans (WithTop.coe_lt_coe.symm.trans WithBot.coe_lt_coe.symm)

/-- Numbers of the format are compared as the numbers that they are. -/
theorem compare?_of_numbers {left right : Binary64} {leftNumber rightNumber : Extended}
    (leftIs : left.number? = some leftNumber) (rightIs : right.number? = some rightNumber) :
    left.compare? right = some (compare leftNumber rightNumber) := by
  have least (value : ℚ) : (⊥ : Extended) < .ofFraction value := WithBot.bot_lt_coe _
  have greatest (value : ℚ) : Extended.ofFraction value < ((⊤ : WithTop ℚ) : Extended) :=
    WithBot.coe_lt_coe.2 (WithTop.coe_lt_top value)
  have apart : (⊥ : Extended) < ((⊤ : WithTop ℚ) : Extended) := WithBot.bot_lt_coe _
  cases left with
  | undefined => cases leftIs
  | infinite leftNegative =>
    cases leftIs
    cases right with
    | undefined => cases rightIs
    | infinite rightNegative =>
      cases rightIs
      cases leftNegative <;> cases rightNegative
      · exact congrArg some (compare_eq_iff_eq.2 rfl).symm
      · exact congrArg some (compare_gt_iff_gt.2 apart).symm
      · exact congrArg some (compare_lt_iff_lt.2 apart).symm
      · exact congrArg some (compare_eq_iff_eq.2 rfl).symm
    | finite _ _ _ =>
      cases rightIs
      cases leftNegative
      · exact congrArg some (compare_gt_iff_gt.2 (greatest _)).symm
      · exact congrArg some (compare_lt_iff_lt.2 (least _)).symm
  | finite negative significand exponent =>
    obtain ⟨top, bottom, fraction, positive, number⟩ := fraction?_finite negative significand exponent
    cases leftIs.symm.trans number
    cases right with
    | undefined => cases rightIs
    | infinite rightNegative =>
      cases rightIs
      cases rightNegative
      · exact congrArg some (compare_lt_iff_lt.2 (greatest _)).symm
      · exact congrArg some (compare_gt_iff_gt.2 (least _)).symm
    | finite otherNegative otherSignificand otherExponent =>
      obtain ⟨otherTop, otherBottom, otherFraction, otherPositive, otherNumber⟩ :=
        fraction?_finite otherNegative otherSignificand otherExponent
      cases rightIs.symm.trans otherNumber
      rw [compare?, fraction, otherFraction]
      exact congrArg some
        (compare_congr (fraction_lt_iff positive otherPositive) (fraction_lt_iff otherPositive positive))

/-! ## Finite numbers -/

/-- The power of two of a grid is one off at most from what the sizes of a fraction's parts suggest. -/
theorem gridExponent_bounds (numerator denominator : Nat) :
    let guess := (numerator.log2 : Int) - denominator.log2 - 52
    max (guess - 1) minExponent ≤ gridExponent numerator denominator ∧
      gridExponent numerator denominator ≤ max (guess + 1) minExponent := by
  intro guess
  unfold gridExponent
  dsimp only
  constructor
  · refine max_le_max ?_ le_rfl
    split
    · omega
    · split <;> omega
  · refine max_le_max ?_ le_rfl
    split
    · omega
    · split <;> omega

/-- Rounding a fraction gives a number. -/
theorem nearest_ne_undefined (negative : Bool) (numerator denominator : Nat) :
    nearest negative numerator denominator ≠ undefined := by
  unfold nearest
  split
  · exact Binary64.noConfusion
  · dsimp only
    repeat' split
    all_goals exact Binary64.noConfusion

/-- A fraction whose numerator is not huge is nearest to a finite number. -/
theorem nearest_eq_finite (negative : Bool) {numerator : Nat} (denominator : Nat)
    (small : numerator < 2 ^ 200) :
    ∃ significand exponent, nearest negative numerator denominator =
      finite negative significand exponent := by
  unfold nearest
  split
  · exact ⟨_, _, rfl⟩
  · rename_i present
    have bits : numerator.log2 < 200 := by
      rwa [Nat.log2_lt fun none => present (.inl none)]
    have low := (gridExponent_bounds numerator denominator).2
    have bounded : ¬maxExponent < gridExponent numerator denominator + 1 := by
      simp only [minExponent, maxExponent] at low ⊢
      omega
    have alsoBounded : ¬maxExponent < gridExponent numerator denominator := by omega
    dsimp only
    split
    · split <;> exact ⟨_, _, rfl⟩
    · split <;> exact ⟨_, _, rfl⟩

/-- There is nothing to round in a quotient by one. -/
theorem roundDiv_one (numerator : Nat) : roundDiv numerator 1 = numerator := by
  simp [roundDiv, Nat.mod_one]

/-- A natural number that is not large is a finite number with a negative power of two. -/
theorem ofInt_eq_finite {value : Nat} (small : value < 2 ^ 30) :
    ∃ significand exponent, ofInt value = finite false significand exponent ∧ exponent < 0 ∧
      significand < 2 ^ 84 := by
  have positive : decide ((value : Int) < 0) = false := by simp
  rw [ofInt, positive, Int.natAbs_natCast, nearest]
  split
  · exact ⟨_, _, rfl, by decide, by decide⟩
  · rename_i present
    have bits : value.log2 < 30 := by
      rwa [Nat.log2_lt fun none => present (.inl none)]
    obtain ⟨high, low⟩ := gridExponent_bounds value 1
    have one : (1 : Nat).log2 = 0 := by decide
    simp only [minExponent, one] at high low
    have negative : ¬0 ≤ gridExponent value 1 := by omega
    have fits : ¬maxExponent < gridExponent value 1 + 1 := by
      simp only [maxExponent]
      omega
    have alsoFits : ¬maxExponent < gridExponent value 1 := by omega
    have scale : Nat.pow 2 (-gridExponent value 1).toNat ≤ 2 ^ 53 :=
      Nat.pow_le_pow_right (by decide) (by omega)
    have scaled : value * Nat.pow 2 (-gridExponent value 1).toNat < 2 ^ 84 := by
      have product := Nat.mul_le_mul (Nat.le_of_lt small) scale
      omega
    dsimp only
    rw [scaledBy, if_neg negative, roundDiv_one]
    split
    · split
      · exact ⟨_, _, rfl, by decide, by decide⟩
      · exact ⟨_, _, rfl, by dsimp only; omega, (by decide : leastFull < 2 ^ 84)⟩
    · split
      · exact ⟨_, _, rfl, by decide, by decide⟩
      · exact ⟨_, _, rfl, by dsimp only; omega, scaled⟩

/-- A product of finite numbers is the product of their fractions, rounded. -/
theorem multiply_of_fractions {left right : Binary64} {top other : Int} {bottom otherBottom : Nat}
    (fraction : left.fraction? = some (top, bottom))
    (otherFraction : right.fraction? = some (other, otherBottom)) :
    left.multiply right =
      nearest (left.isNegative != right.isNegative) (top * other).natAbs (bottom * otherBottom) := by
  cases left with
  | finite negative significand exponent =>
    cases right with
    | finite otherNegative otherSignificand otherExponent =>
      simp only [multiply, fraction, otherFraction]
    | _ => cases otherFraction
  | _ => cases fraction

/-- Adding a finite number to a number gives a number. -/
theorem add_finite_ne_undefined {left : Binary64} (number : left ≠ undefined) (negative : Bool)
    (significand : Nat) (exponent : Int) :
    left.add (finite negative significand exponent) ≠ undefined := by
  cases left with
  | undefined => exact absurd rfl number
  | infinite negative => exact number
  | finite ownNegative ownSignificand ownExponent =>
    obtain ⟨top, bottom, fraction, _, _⟩ := fraction?_finite ownNegative ownSignificand ownExponent
    obtain ⟨otherTop, otherBottom, otherFraction, _, _⟩ := fraction?_finite negative significand exponent
    rw [add, fraction, otherFraction]
    exact nearest_ne_undefined _ _ _

/-- What is not undefined is a number. -/
theorem exists_number {value : Binary64} (defined : value ≠ undefined) :
    ∃ number, value.number? = some number := by
  cases value with
  | undefined => exact absurd rfl defined
  | infinite negative => exact ⟨_, rfl⟩
  | finite negative significand exponent => exact ⟨_, rfl⟩

end Binary64

end LiveConsole.Number
