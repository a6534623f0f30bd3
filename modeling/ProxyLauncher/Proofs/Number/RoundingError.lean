import Mathlib.Tactic.Ring
import ProxyLauncher.Proofs.Number.Canonical

/-!
# The error of rounding

A rational is rounded to the nearest multiple of the unit at its exponent, so it
is off by at most half that unit.  Two bounds follow.  Relative to its size a
rational loses one part in `2 ^ 53`, except at the least exponent, where it loses
half of the smallest number.  And as long as it stays below a power of two, it
loses no more than half the unit there, whatever it is.

Rounding keeps to its side of a power of two.  So a result below one can only
come from a rational below it, which bounds the error of what was rounded by what
came out.
-/

namespace ProxyLauncher.Number.Binary64

/-! ## The nearest integer -/

theorem abs_nearestEven_sub_le {size : Rat} (nonneg : 0 ≤ size) :
    |(nearestEven size : Rat) - size| ≤ 1 / 2 := by
  have reached : (size.floor.toNat : Rat) ≤ size := Nat.floor_le nonneg
  have within : size < size.floor.toNat + 1 := Nat.lt_floor_add_one size
  unfold nearestEven
  rw [mkRat_one_two]
  generalize size.floor.toNat = below at reached within
  dsimp only
  rw [abs_le]
  split
  case isTrue => constructor <;> linarith
  case isFalse =>
    split
    case isTrue => push_cast; constructor <;> linarith
    case isFalse =>
      split
      case isTrue => constructor <;> linarith
      case isFalse => push_cast; constructor <;> linarith

theorem nearestEven_le {size : Rat} (nonneg : 0 ≤ size) {bound : Nat} (within : size < bound) :
    nearestEven size ≤ bound := by
  have floor : size.floor.toNat < bound := (Nat.floor_lt nonneg).mpr within
  rcases nearestEven_cases size with below | above <;> omega

/-! ## One rounding -/

/-- Carrying leaves the value of a mantissa as it is. -/
theorem toRat?_assemble {mantissa : Nat} (bounded : mantissa ≤ mantissaBound) {exponent : Int}
    {value : Rat} (isValue : (assemble false mantissa exponent).toRat? = some value) :
    value = magnitude mantissa exponent := by
  unfold assemble at isValue
  by_cases carried : mantissaBound ≤ mantissa
  · simp only [carried, decide_true, if_true] at isValue
    split at isValue
    case isTrue => cases isValue
    case isFalse =>
      cases isValue
      rw [le_antisymm bounded carried]
      simp only [Bool.false_eq_true, if_false]
      rw [magnitude_normalMantissa, magnitude_mantissaBound]
      congr 1
      omega
  · simp only [carried, decide_false, Bool.false_eq_true, if_false] at isValue
    split at isValue
    case isTrue => cases isValue
    case isFalse =>
      cases isValue
      simp

theorem exists_toRat?_assemble {mantissa : Nat} {exponent : Int}
    (within : exponent < greatestExponent) :
    ∃ value, (assemble false mantissa exponent).toRat? = some value := by
  unfold assemble
  dsimp only
  rw [if_neg]
  · exact ⟨_, rfl⟩
  · split <;> omega

/-- At its exponent of rounding, a rational has no more than 53 bits. -/
theorem div_roundingExponent_lt {size : Rat} (positive : 0 < size) :
    size / 2 ^ roundingExponent size < mantissaBound := by
  have within := (binaryOrder_spec positive).2
  have exponentLe : binaryOrder size + 1 ≤ roundingExponent size + 53 := by
    unfold roundingExponent
    dsimp only
    split <;> omega
  rw [div_lt_iff₀ (two_zpow_pos _)]
  calc size < 2 ^ (binaryOrder size + 1) := within
    _ ≤ 2 ^ (roundingExponent size + 53) := zpow_le_zpow_right₀ one_le_two exponentLe
    _ = mantissaBound * 2 ^ roundingExponent size := (magnitude_mantissaBound _).symm

/-- A rounded rational is the nearest integer in units of its exponent. -/
theorem toRat?_roundMagnitude {size : Rat} (positive : 0 < size) {value : Rat}
    (isValue : (roundMagnitude false size).toRat? = some value) :
    value = magnitude (nearestEven (size / 2 ^ roundingExponent size)) (roundingExponent size) := by
  have nonneg : 0 ≤ size / 2 ^ roundingExponent size := (div_pos positive (two_zpow_pos _)).le
  rw [roundMagnitude, if_neg positive.ne'] at isValue
  exact toRat?_assemble (nearestEven_le nonneg (div_roundingExponent_lt positive)) isValue

/-- A rounded rational is off by at most half a unit. -/
theorem abs_roundMagnitude_sub_le {size : Rat} (positive : 0 < size) {value : Rat}
    (isValue : (roundMagnitude false size).toRat? = some value) :
    |value - size| ≤ 2 ^ roundingExponent size / 2 := by
  have unitPos := two_zpow_pos (roundingExponent size)
  have near := abs_nearestEven_sub_le (div_pos positive unitPos).le
  rw [toRat?_roundMagnitude positive isValue, magnitude]
  generalize (nearestEven (size / 2 ^ roundingExponent size) : Rat) = nearest at near
  calc |nearest * 2 ^ roundingExponent size - size|
      = |nearest - size / 2 ^ roundingExponent size| * 2 ^ roundingExponent size := by
        rw [← abs_of_pos unitPos, ← abs_mul, abs_of_pos unitPos, sub_mul,
          div_mul_cancel₀ _ unitPos.ne']
    _ ≤ 1 / 2 * 2 ^ roundingExponent size := mul_le_mul_of_nonneg_right near unitPos.le
    _ = 2 ^ roundingExponent size / 2 := by ring

theorem toRat?_roundMagnitude_zero : (roundMagnitude false 0).toRat? = some 0 := by
  rw [roundMagnitude, if_pos rfl]
  simp [zeroOf, toRat?, magnitude]

/-! ## Relative error -/

/-- What a rational loses for each unit of its size. -/
def unitRoundoff : Rat := 2 ^ (-53 : Int)

/-- Half of the smallest number. -/
def halfSmallest : Rat := 2 ^ (-1075 : Int)

/-- In proportion to its size a rational loses one part in `2 ^ 53`, unless it is rounded at the
least exponent. -/
theorem half_unit_le_of_normal {size : Rat} (positive : 0 < size)
    (normal : leastExponent ≤ binaryOrder size - 52) :
    2 ^ roundingExponent size / 2 ≤ size * unitRoundoff := by
  have exponentEq : roundingExponent size = binaryOrder size + -53 + 1 := by
    rw [roundingExponent, if_neg (not_lt.mpr normal)]
    omega
  rw [exponentEq, two_zpow_succ, mul_div_cancel_right₀ _ two_ne_zero, zpow_add₀ two_ne_zero]
  exact mul_le_mul_of_nonneg_right (binaryOrder_spec positive).1 (two_zpow_pos _).le

theorem half_unit_le {size : Rat} (positive : 0 < size) :
    2 ^ roundingExponent size / 2 ≤ size * unitRoundoff + halfSmallest := by
  by_cases least : binaryOrder size - 52 < leastExponent
  · have exponentEq : roundingExponent size = -1075 + 1 := if_pos least
    rw [exponentEq, two_zpow_succ, mul_div_cancel_right₀ _ two_ne_zero]
    exact le_add_of_nonneg_left (mul_nonneg positive.le (two_zpow_pos _).le)
  · exact (half_unit_le_of_normal positive (not_lt.mp least)).trans
      (le_add_of_nonneg_right (two_zpow_pos _).le)

theorem relative_error {size : Rat} (nonneg : 0 ≤ size) {value : Rat}
    (isValue : (roundMagnitude false size).toRat? = some value) :
    |value - size| ≤ size * unitRoundoff + halfSmallest := by
  rcases nonneg.eq_or_lt with rfl | positive
  · rw [toRat?_roundMagnitude_zero] at isValue
    cases isValue
    norm_num [halfSmallest]
  · exact (abs_roundMagnitude_sub_le positive isValue).trans (half_unit_le positive)

theorem relative_error_of_normal {size : Rat} (normal : 2 ^ (-1022 : Int) ≤ size) {value : Rat}
    (isValue : (roundMagnitude false size).toRat? = some value) :
    |value - size| ≤ size * unitRoundoff := by
  have positive : 0 < size := (two_zpow_pos _).trans_le normal
  have order := le_binaryOrder positive normal
  refine (abs_roundMagnitude_sub_le positive isValue).trans (half_unit_le_of_normal positive ?_)
  rw [leastExponent]
  omega

/-! ## Powers of two -/

/-- What reaches a power of two is not rounded below it. -/
theorem le_of_reaches {size value : Rat} {bound : Int} (reached : 2 ^ bound ≤ size)
    (normal : leastExponent ≤ bound - 53)
    (isValue : (roundMagnitude false size).toRat? = some value) : 2 ^ bound ≤ value := by
  have positive : 0 < size := (two_zpow_pos bound).trans_le reached
  have above := le_binaryOrder positive reached
  have exponentEq : roundingExponent size = binaryOrder size - 52 := by
    rw [roundingExponent, if_neg (by omega)]
  have full : normalMantissa ≤ nearestEven (size / 2 ^ roundingExponent size) := by
    rcases le_div_roundingExponent positive with full | least
    · exact le_nearestEven full
    · omega
  rw [toRat?_roundMagnitude positive isValue]
  calc (2 : Rat) ^ bound
      ≤ 2 ^ (roundingExponent size + 52) := zpow_le_zpow_right₀ one_le_two (by omega)
    _ = magnitude normalMantissa (roundingExponent size) := (magnitude_normalMantissa _).symm
    _ ≤ magnitude (nearestEven (size / 2 ^ roundingExponent size)) (roundingExponent size) :=
        mul_le_mul_of_nonneg_right (Nat.cast_le.mpr full) (two_zpow_pos _).le

section Power

variable {size : Rat} (nonneg : 0 ≤ size)

include nonneg

/-- A rational that is not too large is rounded to some number. -/
theorem exists_toRat?_roundMagnitude (within : size < 2 ^ (1023 : Int)) :
    ∃ value, (roundMagnitude false size).toRat? = some value := by
  rcases nonneg.eq_or_lt with rfl | positive
  · exact ⟨0, toRat?_roundMagnitude_zero⟩
  · have below := binaryOrder_lt positive within
    rw [roundMagnitude, if_neg positive.ne']
    apply exists_toRat?_assemble
    unfold roundingExponent
    dsimp only
    split
    case isTrue => decide
    case isFalse =>
      rw [greatestExponent]
      omega

variable {bound : Int} {value : Rat}
  (isValue : (roundMagnitude false size).toRat? = some value)

include isValue

/-- Below a power of two, a rational loses at most half a unit of the largest numbers there. -/
theorem error_below (within : size < 2 ^ bound) (normal : leastExponent ≤ bound - 53) :
    |value - size| ≤ 2 ^ (bound - 54) := by
  rcases nonneg.eq_or_lt with rfl | positive
  · rw [toRat?_roundMagnitude_zero] at isValue
    cases isValue
    simpa using (two_zpow_pos _).le
  · have below := binaryOrder_lt positive within
    have exponentLe : roundingExponent size ≤ bound - 54 + 1 := by
      unfold roundingExponent
      dsimp only
      split <;> omega
    calc |value - size|
        ≤ 2 ^ roundingExponent size / 2 := abs_roundMagnitude_sub_le positive isValue
      _ ≤ 2 ^ (bound - 54 + 1) / 2 :=
          div_le_div_of_nonneg_right (zpow_le_zpow_right₀ one_le_two exponentLe) zero_le_two
      _ = 2 ^ (bound - 54) := by rw [two_zpow_succ, mul_div_cancel_right₀ _ two_ne_zero]

/-- What comes out below a power of two was below it, and has lost as little as anything there. -/
theorem error_of_lt (below : value < 2 ^ bound) (normal : leastExponent ≤ bound - 53) :
    size < 2 ^ bound ∧ |value - size| ≤ 2 ^ (bound - 54) := by
  have within : size < 2 ^ bound := by
    by_contra reached
    exact absurd (le_of_reaches (not_lt.mp reached) normal isValue) (not_le.mpr below)
  exact ⟨within, error_below nonneg isValue within normal⟩

end Power

/-! ## Operations on sizes -/

theorem IsSize.nonneg {number : Binary64} (isSize : IsSize number) {value : Rat}
    (isValue : number.toRat? = some value) : 0 ≤ value := by
  cases isSize with
  | infinite => cases isValue
  | finite mantissa exponent =>
      cases isValue
      exact magnitude_nonneg mantissa exponent

section Operations

variable {first second : Binary64} (isSize : IsSize first) (otherIsSize : IsSize second)
  {left right : Rat}

include isSize otherIsSize

/-- A sum of sizes is their exact sum, rounded. -/
theorem toRat?_add (leftEq : first.toRat? = some left) (rightEq : second.toRat? = some right) :
    (first.add second).toRat? = (roundMagnitude false (left + right)).toRat? := by
  have nonneg := add_nonneg (isSize.nonneg leftEq) (otherIsSize.nonneg rightEq)
  cases isSize with
  | infinite => cases leftEq
  | finite mantissa exponent =>
      cases otherIsSize with
      | infinite => cases rightEq
      | finite otherMantissa otherExponent =>
          cases leftEq
          cases rightEq
          simp only [add, Bool.false_eq_true, if_false, Bool.and_false] at nonneg ⊢
          split
          case isTrue zero => rw [zero, roundMagnitude, if_pos rfl]
          case isFalse => rw [ofRat, if_neg (not_lt.mpr nonneg)]

/-- A sum of sizes is a rational only if both of them are. -/
theorem exists_toRat?_of_add {total : Rat} (isTotal : (first.add second).toRat? = some total) :
    ∃ left right, first.toRat? = some left ∧ second.toRat? = some right := by
  cases isSize with
  | infinite => cases otherIsSize <;> cases isTotal
  | finite mantissa exponent =>
      cases otherIsSize with
      | infinite => cases isTotal
      | finite otherMantissa otherExponent => exact ⟨_, _, rfl, rfl⟩

/-- A product of sizes is a rational only if both of them are. -/
theorem exists_toRat?_of_mul {product : Rat}
    (isProduct : (first.mul second).toRat? = some product) :
    ∃ left right, first.toRat? = some left ∧ second.toRat? = some right := by
  cases isSize with
  | infinite =>
      cases otherIsSize with
      | infinite => cases isProduct
      | finite otherMantissa otherExponent =>
          rw [mul] at isProduct
          split at isProduct <;> cases isProduct
  | finite mantissa exponent =>
      cases otherIsSize with
      | infinite =>
          rw [mul] at isProduct
          split at isProduct <;> cases isProduct
      | finite otherMantissa otherExponent => exact ⟨_, _, rfl, rfl⟩

/-- A product of sizes is their exact product, rounded. -/
theorem toRat?_mul (leftEq : first.toRat? = some left) (rightEq : second.toRat? = some right) :
    (first.mul second).toRat? = (roundMagnitude false (left * right)).toRat? := by
  cases isSize with
  | infinite => cases leftEq
  | finite mantissa exponent =>
      cases otherIsSize with
      | infinite => cases rightEq
      | finite otherMantissa otherExponent =>
          cases leftEq
          cases rightEq
          rfl

end Operations

/-! ## Sums -/

/-- The rationals that numbers stand for. -/
def HaveValues (numbers : List Binary64) (values : List Rat) : Prop :=
  List.Forall₂ (fun number value => number.toRat? = some value) numbers values

theorem HaveValues.sum_nonneg {numbers : List Binary64} {values : List Rat}
    (haveValues : HaveValues numbers values) (sizes : ∀ number ∈ numbers, IsSize number) :
    0 ≤ values.sum := by
  induction haveValues with
  | nil => exact le_refl 0
  | @cons number value numbers values isValue _ ih =>
      rw [List.sum_cons]
      exact add_nonneg ((sizes number List.mem_cons_self).nonneg isValue)
        (ih fun other member => sizes other (List.mem_cons_of_mem number member))

/-- Below a power of two, a sum loses no more for each summand than half a unit of the largest
numbers there. -/
theorem error_of_sum {numbers : List Binary64} (sizes : ∀ number ∈ numbers, IsSize number)
    {start : Binary64} (isSize : IsSize start) {total : Rat}
    (isTotal : (numbers.foldl add start).toRat? = some total) {bound : Int}
    (below : total < 2 ^ bound) (normal : leastExponent ≤ bound - 53) :
    ∃ initial values, start.toRat? = some initial ∧ HaveValues numbers values ∧
      initial < 2 ^ bound ∧
      |total - (initial + values.sum)| ≤ numbers.length * 2 ^ (bound - 54) := by
  induction numbers generalizing start with
  | nil => exact ⟨total, [], isTotal, .nil, below, by simp⟩
  | cons first rest ih =>
      have firstIsSize := sizes first List.mem_cons_self
      obtain ⟨middle, values, isMiddle, haveValues, middleBelow, restError⟩ :=
        ih (fun number member => sizes number (List.mem_cons_of_mem first member))
          (isSize.add firstIsSize) isTotal
      obtain ⟨initial, value, isInitial, isValue⟩ :=
        exists_toRat?_of_add isSize firstIsSize isMiddle
      rw [toRat?_add isSize firstIsSize isInitial isValue] at isMiddle
      have initialNonneg := isSize.nonneg isInitial
      have valueNonneg := firstIsSize.nonneg isValue
      obtain ⟨sumBelow, error⟩ :=
        error_of_lt (add_nonneg initialNonneg valueNonneg) isMiddle middleBelow normal
      refine ⟨initial, value :: values, isInitial, .cons isValue haveValues, by linarith, ?_⟩
      rw [List.sum_cons, List.length_cons]
      push_cast
      rw [abs_le] at error restError ⊢
      constructor <;> linarith

/-- A sum of sizes that stays below a power of two is a rational, and loses no more there. -/
theorem exists_sum_of_lt {numbers : List Binary64} (sizes : ∀ number ∈ numbers, IsSize number)
    {values : List Rat} (haveValues : HaveValues numbers values) {start : Binary64}
    (isSize : IsSize start) {initial : Rat} (isInitial : start.toRat? = some initial) {bound : Int}
    (below : initial + values.sum + numbers.length * 2 ^ (bound - 54) < 2 ^ bound)
    (normal : leastExponent ≤ bound - 53) (small : bound ≤ 1023) :
    ∃ total, (numbers.foldl add start).toRat? = some total ∧
      |total - (initial + values.sum)| ≤ numbers.length * 2 ^ (bound - 54) := by
  induction haveValues generalizing start initial with
  | nil => exact ⟨initial, isInitial, by simp⟩
  | @cons first value rest values isValue haveValues ih =>
      have firstIsSize := sizes first List.mem_cons_self
      have restSizes : ∀ number ∈ rest, IsSize number :=
        fun number member => sizes number (List.mem_cons_of_mem first member)
      have initialNonneg := isSize.nonneg isInitial
      have valueNonneg := firstIsSize.nonneg isValue
      have restNonneg := HaveValues.sum_nonneg haveValues restSizes
      have unitPos := two_zpow_pos (bound - 54)
      have lengthNonneg : 0 ≤ (rest.length : Rat) * 2 ^ (bound - 54) :=
        mul_nonneg (Nat.cast_nonneg _) unitPos.le
      rw [List.sum_cons, List.length_cons] at below
      push_cast at below
      have nonneg := add_nonneg initialNonneg valueNonneg
      have within : initial + value < 2 ^ bound := by linarith
      obtain ⟨middle, isMiddle⟩ := exists_toRat?_roundMagnitude nonneg
        (within.trans_le (zpow_le_zpow_right₀ one_le_two small))
      have error := error_below nonneg isMiddle within normal
      rw [← toRat?_add isSize firstIsSize isInitial isValue] at isMiddle
      have restBelow : middle + values.sum + rest.length * 2 ^ (bound - 54) < 2 ^ bound := by
        linarith [(abs_le.mp error).2]
      obtain ⟨total, isTotal, restError⟩ :=
        ih restSizes (isSize.add firstIsSize) isMiddle restBelow
      refine ⟨total, isTotal, ?_⟩
      rw [List.sum_cons, List.length_cons]
      push_cast
      rw [abs_le] at error restError ⊢
      constructor <;> linarith

end ProxyLauncher.Number.Binary64
