import Mathlib.Data.Set.Defs
import LiveConsole.FileTree.Basic
import LiveConsole.Proofs.Number.Order

/-!
# The order of times

A time is compared with another one by its number of seconds in the 64-bit format. That is always a
number, so times are compared as the numbers that they are, and the later of several times has the
greatest of their numbers.
-/
namespace LiveConsole.Time

open Number Binary64

/-- The part of a second in a time is a finite number of seconds. -/
theorem rest_eq_finite (time : Time) :
    ∃ negative significand exponent,
      (ofDecimal false 1 (-9)).multiply (ofInt (Int.fmod time perSecond)) =
        finite negative significand exponent := by
  have positive : (0 : Int) < perSecond := by decide
  have low : 0 ≤ Int.fmod time perSecond := Int.fmod_nonneg_of_pos time positive
  have high : Int.fmod time perSecond < 1000000000 := Int.fmod_lt_of_pos time positive
  obtain ⟨part, same⟩ := Int.eq_ofNat_of_zero_le low
  obtain ⟨significand, exponent, finite, below, bounded⟩ :=
    ofInt_eq_finite (by omega : part < 2 ^ 30)
  have nano : ofDecimal false 1 (-9) = .finite false 4835703278458517 (-82) := by decide +kernel
  have partFraction : (Binary64.finite false significand exponent).fraction? =
      some ((significand : Int), Nat.pow 2 (-exponent).toNat) := by
    rw [fraction?, if_neg (by omega)]
    rfl
  obtain ⟨product, power, rounded⟩ := nearest_eq_finite false
    (Nat.pow 2 82 * Nat.pow 2 (-exponent).toNat)
    (by omega : ((4835703278458517 : Int) * significand).natAbs < 2 ^ 200)
  rw [same, nano, finite, multiply_of_fractions rfl partFraction]
  exact ⟨_, product, power, rounded⟩

/-- The number of seconds of a time is a number. -/
theorem exists_number (time : Time) : ∃ number, time.seconds.number? = some number := by
  obtain ⟨negative, significand, exponent, finite⟩ := rest_eq_finite time
  apply Binary64.exists_number
  rw [seconds, finite]
  exact add_finite_ne_undefined (nearest_ne_undefined _ _ _) negative significand exponent

/-- The number of seconds of a time, as a number. -/
def number (time : Time) : Extended := time.seconds.number?.getD ⊥

/-- The number of seconds of a time is its number. -/
theorem number?_seconds (time : Time) : time.seconds.number? = some time.number := by
  obtain ⟨number, found⟩ := time.exists_number
  rw [Time.number, found, Option.getD_some]

/-- Times are compared by their numbers. -/
theorem compare?_seconds (left right : Time) :
    left.seconds.compare? right.seconds = some (compare left.number right.number) :=
  compare?_of_numbers left.number?_seconds right.number?_seconds

/-- Two times are the same if their numbers are. -/
theorem isSame_iff (left right : Time) : left.isSame right = true ↔ left.number = right.number := by
  rw [isSame, compare?_seconds, beq_iff_eq, Option.some_inj, compare_eq_iff_eq]

/-- The later of two times is the one with the greater number. -/
theorem later_eq_ite (newest time : Time) :
    newest.later time = if newest.number < time.number then time else newest := by
  have above : time.seconds.isAbove newest.seconds = true ↔ newest.number < time.number := by
    rw [isAbove, compare?_seconds, beq_iff_eq, Option.some_inj, compare_gt_iff_gt]
  rw [later]
  simp only [above]

/-- The later of two times has the greater of their numbers. -/
theorem number_later (newest time : Time) :
    (newest.later time).number = max newest.number time.number := by
  rw [later_eq_ite]
  split
  · rename_i less
    exact (max_eq_right less.le).symm
  · rename_i notLess
    exact (max_eq_left (not_lt.1 notLess)).symm

/-! ## The latest of several times -/

/-- Whether a time is one of some times, and none of them has a greater number. -/
structure IsLatest (times : Set Time) (time : Time) : Prop where
  /-- The time is one of them. -/
  member : time ∈ times
  /-- No time has a greater number. -/
  greatest : ∀ other ∈ times, other.number ≤ time.number

/-- Any two latest times have the same number. -/
theorem IsLatest.number_eq {times : Set Time} {first second : Time} (one : IsLatest times first)
    (two : IsLatest times second) : first.number = second.number :=
  le_antisymm (two.greatest first one.member) (one.greatest second two.member)

/-- The latest of some times is one of them. -/
theorem foldl_later_mem (own : Time) (times : List Time) : times.foldl later own ∈ own :: times := by
  induction times generalizing own with
  | nil => exact List.mem_cons_self
  | cons time times ih =>
    rw [List.foldl_cons]
    rcases List.mem_cons.1 (ih (own.later time)) with same | later
    · rw [same, later_eq_ite]
      split <;> simp
    · exact List.mem_cons_of_mem own (List.mem_cons_of_mem time later)

/-- The latest of some times has the greatest of their numbers. -/
theorem number_le_foldl_later {own time : Time} {times : List Time} (member : time ∈ own :: times) :
    time.number ≤ (times.foldl later own).number := by
  induction times generalizing own time with
  | nil => rw [List.mem_singleton.1 member, List.foldl_nil]
  | cons next times ih =>
    have first : (own.later next).number ≤ (times.foldl later (own.later next)).number :=
      ih List.mem_cons_self
    rw [number_later] at first
    rcases List.mem_cons.1 member with rfl | behind
    · exact (le_max_left _ _).trans first
    · rcases List.mem_cons.1 behind with rfl | deeper
      · exact (le_max_right _ _).trans first
      · exact ih (List.mem_cons_of_mem _ deeper)

/-- The latest of some times, found by going through them. -/
theorem isLatest_foldl_later (own : Time) (times : List Time) :
    IsLatest {time | time ∈ own :: times} (times.foldl later own) :=
  ⟨foldl_later_mem own times, fun _ member => number_le_foldl_later member⟩

/-- The latest of a time and others is not above what none of them is above. -/
theorem IsLatest.number_le {others : Set Time} {own latest bound : Time}
    (isLatest : IsLatest {time | time = own ∨ time ∈ others} latest)
    (ownBelow : own.number ≤ bound.number) (below : ∀ other ∈ others, other.number ≤ bound.number) :
    latest.number ≤ bound.number := by
  rcases isLatest.member with rfl | other
  · exact ownBelow
  · exact below latest other

/-- Where a time is exchanged for another one, the latest time becomes another one just if one of the two is
later than all other times. -/
theorem latest_ne_iff {others : Set Time} {old new first second : Time}
    (before : IsLatest {time | time = old ∨ time ∈ others} first)
    (after : IsLatest {time | time = new ∨ time ∈ others} second) (differ : old.number ≠ new.number) :
    first.number ≠ second.number ↔ ∀ other ∈ others, other.number < max old.number new.number := by
  constructor
  · intro changed other member
    by_contra notLess
    have beyond : max old.number new.number ≤ other.number := not_lt.1 notLess
    have upward : first.number ≤ second.number := before.number_le
      ((le_max_left _ _).trans (beyond.trans (after.greatest other (.inr member))))
      fun other member => after.greatest other (.inr member)
    have downward : second.number ≤ first.number := after.number_le
      ((le_max_right _ _).trans (beyond.trans (before.greatest other (.inr member))))
      fun other member => before.greatest other (.inr member)
    exact changed (le_antisymm upward downward)
  · intro less same
    rcases lt_or_gt_of_ne differ with rises | falls
    · rw [max_eq_right rises.le] at less
      have reaches : new.number ≤ first.number := same ▸ after.greatest new (.inl rfl)
      rcases before.member with rfl | other
      · exact absurd rises (not_lt.2 reaches)
      · exact absurd (less first other) (not_lt.2 reaches)
    · rw [max_eq_left (le_of_lt falls)] at less
      have reaches : old.number ≤ second.number := same ▸ before.greatest old (.inl rfl)
      rcases after.member with rfl | other
      · exact absurd falls (not_lt.2 reaches)
      · exact absurd (less second other) (not_lt.2 reaches)

end LiveConsole.Time
