import Mathlib.Algebra.Order.Field.Power
import Mathlib.Data.Rat.Floor
import Mathlib.Tactic.Linarith
import ProxyLauncher.Number.Shortest

/-!
# Rounding to a given number

The rationals that round to a finite number form an interval around it.  Its
ends lie half a unit of the last place away, but for a power of two: below one
the numbers lie twice as dense, and the lower end is only a quarter away.  An
end belongs to the interval when the mantissa is even.

`roundMagnitude_of_within` says that all of the interval rounds to the number.
The order of a rational decides at which exponent it is rounded.  This is the
exponent of the number, except in the last quarter below a power of two, where
it is the exponent below, and the rounded mantissa is carried up again.
-/

namespace ProxyLauncher.Number.Binary64

/-! ## The nearest integer -/

/-- A natural number is less than half away from a rational, or half away and even. -/
def IsNearest (size : Rat) (nearest : Nat) : Prop :=
  |size - nearest| < 1 / 2 ∨ |size - nearest| = 1 / 2 ∧ nearest % 2 = 0

theorem mkRat_one_two : mkRat 1 2 = 1 / 2 := by
  norm_num [Rat.mkRat_eq_div]

theorem nearestEven_eq {size : Rat} (nonneg : 0 ≤ size) {nearest : Nat}
    (isNearest : IsNearest size nearest) : nearestEven size = nearest := by
  have reached : (size.floor.toNat : Rat) ≤ size := Nat.floor_le nonneg
  have within : size < size.floor.toNat + 1 := Nat.lt_floor_add_one size
  unfold nearestEven
  rw [mkRat_one_two]
  generalize size.floor.toNat = below at reached within
  have close : |size - nearest| ≤ 1 / 2 := by
    rcases isNearest with nearer | ⟨tied, _⟩
    · exact nearer.le
    · exact tied.le
  obtain ⟨closeBelow, closeAbove⟩ := abs_le.mp close
  have lower : below < nearest + 1 := by
    have : (below : Rat) < nearest + 1 := by linarith
    exact_mod_cast this
  have upper : nearest < below + 2 := by
    have : (nearest : Rat) < below + 2 := by linarith
    exact_mod_cast this
  -- A nearest number is one of the two next to the rational.
  have neighbour : nearest = below ∨ nearest = below + 1 := by omega
  dsimp only
  rcases neighbour with rfl | rfl
  · rw [IsNearest, abs_of_nonneg (by linarith)] at isNearest
    rcases isNearest with nearer | ⟨tied, even⟩
    · rw [if_pos nearer]
    · rw [if_neg (by linarith), if_neg (by linarith), if_pos even]
  · push_cast at isNearest closeBelow
    have excess : |size - ((below : Rat) + 1)| = 1 - (size - below) := by
      rw [abs_of_neg (by linarith)]
      ring
    rw [IsNearest] at isNearest
    push_cast at isNearest
    rw [excess] at isNearest
    rcases isNearest with nearer | ⟨tied, even⟩
    · rw [if_neg (by linarith), if_pos (by linarith)]
    · rw [if_neg (by linarith), if_neg (by linarith), if_neg (by omega)]

/-! ## The order of a rational -/

theorem two_zpow_pos (exponent : Int) : 0 < (2 : Rat) ^ exponent :=
  zpow_pos (by norm_num) exponent

theorem two_zpow_succ (exponent : Int) : (2 : Rat) ^ (exponent + 1) = 2 ^ exponent * 2 :=
  zpow_add_one₀ (by norm_num) exponent

theorem binaryOrder_spec {size : Rat} (positive : 0 < size) :
    2 ^ binaryOrder size ≤ size ∧ size < 2 ^ (binaryOrder size + 1) := by
  have numPos : 0 < size.num := Rat.num_pos.mpr positive
  have quotient : size = (size.num.natAbs : Rat) / (size.den : Rat) := by
    rw [Nat.cast_natAbs, abs_of_pos numPos, Rat.num_div_den]
  have numNe : size.num.natAbs ≠ 0 := by omega
  have numLow : (2 : Rat) ^ size.num.natAbs.log2 ≤ size.num.natAbs := by
    exact_mod_cast Nat.log2_self_le numNe
  have numHigh : (size.num.natAbs : Rat) < 2 ^ (size.num.natAbs.log2 + 1) := by
    exact_mod_cast Nat.lt_log2_self
  have denLow : (2 : Rat) ^ size.den.log2 ≤ size.den := by
    exact_mod_cast Nat.log2_self_le size.den_nz
  have denHigh : (size.den : Rat) < 2 ^ (size.den.log2 + 1) := by
    exact_mod_cast Nat.lt_log2_self
  have denPos : (0 : Rat) < size.den := by exact_mod_cast size.den_pos
  set order : Int := (size.num.natAbs.log2 : Int) - size.den.log2 with orderEq
  have reached : (2 : Rat) ^ (order - 1) < size := by
    rw [quotient, lt_div_iff₀ denPos]
    calc (2 : Rat) ^ (order - 1) * size.den
        < 2 ^ (order - 1) * 2 ^ (size.den.log2 + 1) :=
          mul_lt_mul_of_pos_left denHigh (two_zpow_pos _)
      _ = 2 ^ size.num.natAbs.log2 := by
          rw [← zpow_natCast, ← zpow_natCast, ← zpow_add₀ two_ne_zero]
          congr 1
          push_cast
          omega
      _ ≤ size.num.natAbs := numLow
  have within : size < 2 ^ (order + 1) := by
    rw [quotient, div_lt_iff₀ denPos]
    calc (size.num.natAbs : Rat)
        < 2 ^ (size.num.natAbs.log2 + 1) := numHigh
      _ = 2 ^ (order + 1) * 2 ^ size.den.log2 := by
          rw [← zpow_natCast, ← zpow_natCast, ← zpow_add₀ two_ne_zero]
          congr 1
          push_cast
          omega
      _ ≤ 2 ^ (order + 1) * size.den := mul_le_mul_of_nonneg_left denLow (two_zpow_pos _).le
  unfold binaryOrder
  dsimp only
  rw [← orderEq]
  by_cases holds : (2 : Rat) ^ order ≤ size
  · rw [if_pos holds]
    exact ⟨holds, within⟩
  · rw [if_neg holds, sub_add_cancel]
    exact ⟨reached.le, not_le.mp holds⟩

theorem binaryOrder_lt {size : Rat} (positive : 0 < size) {bound : Int}
    (within : size < 2 ^ bound) : binaryOrder size < bound := by
  have reached := (binaryOrder_spec positive).1
  exact (zpow_lt_zpow_iff_right₀ one_lt_two).mp (reached.trans_lt within)

theorem le_binaryOrder {size : Rat} (positive : 0 < size) {bound : Int}
    (reached : 2 ^ bound ≤ size) : bound ≤ binaryOrder size := by
  have within := (binaryOrder_spec positive).2
  have below := (zpow_lt_zpow_iff_right₀ one_lt_two).mp (reached.trans_lt within)
  omega

/-! ## The exponent of rounding -/

theorem magnitude_mantissaBound (exponent : Int) :
    magnitude mantissaBound exponent = 2 ^ (exponent + 53) := by
  rw [magnitude, zpow_add₀ two_ne_zero, mul_comm]
  norm_num [mantissaBound]

theorem magnitude_normalMantissa (exponent : Int) :
    magnitude normalMantissa exponent = 2 ^ (exponent + 52) := by
  rw [magnitude, zpow_add₀ two_ne_zero, mul_comm]
  norm_num [normalMantissa]

/-- A rational is rounded at an exponent where it has 53 bits, or fewer at the least exponent. -/
theorem roundingExponent_eq {size : Rat} (positive : 0 < size) {exponent : Int}
    (atLeast : leastExponent ≤ exponent) (within : size < magnitude mantissaBound exponent)
    (reached : exponent = leastExponent ∨ magnitude normalMantissa exponent ≤ size) :
    roundingExponent size = exponent := by
  rw [magnitude_mantissaBound] at within
  have below := binaryOrder_lt positive within
  unfold roundingExponent
  dsimp only
  rcases reached with rfl | reached
  · split <;> omega
  · rw [magnitude_normalMantissa] at reached
    have above := le_binaryOrder positive reached
    rw [if_neg (by omega)]
    omega

/-- At the exponent of rounding, the nearest integer becomes the mantissa. -/
theorem roundMagnitude_eq {size : Rat} (positive : 0 < size) {exponent : Int} {nearest : Nat}
    (rounded : roundingExponent size = exponent)
    (isNearest : IsNearest (size / 2 ^ exponent) nearest) (negative : Bool) :
    roundMagnitude negative size = assemble negative nearest exponent := by
  have nonneg : 0 ≤ size / 2 ^ exponent := (div_pos positive (two_zpow_pos exponent)).le
  unfold roundMagnitude
  dsimp only
  rw [if_neg positive.ne', rounded, nearestEven_eq nonneg isNearest]

theorem assemble_of_lt {mantissa : Nat} {exponent : Int} (within : mantissa < mantissaBound)
    (atMost : exponent ≤ greatestExponent) (negative : Bool) :
    assemble negative mantissa exponent = .finite negative mantissa exponent := by
  simp [assemble, not_le.mpr within, not_lt.mpr atMost]

/-- A mantissa that has grown by one bit moves up one exponent. -/
theorem assemble_mantissaBound {exponent : Int} (atMost : exponent + 1 ≤ greatestExponent)
    (negative : Bool) :
    assemble negative mantissaBound exponent = .finite negative normalMantissa (exponent + 1) := by
  simp [assemble, not_lt.mpr atMost]

/-! ## The interval of a number -/

/-- A rational lies in the interval around a finite number, whose ends belong to it when the
mantissa is even. -/
structure Within (mantissa : Nat) (exponent : Int) (size : Rat) : Prop where
  low : intervalLow mantissa exponent < size ∨
    intervalLow mantissa exponent = size ∧ mantissa % 2 = 0
  high : size < intervalHigh mantissa exponent ∨
    size = intervalHigh mantissa exponent ∧ mantissa % 2 = 0

theorem readsBack_iff {mantissa : Nat} {exponent : Int} {decimal : Decimal} :
    readsBack mantissa exponent decimal = true ↔ Within mantissa exponent decimal.toRat := by
  unfold readsBack
  dsimp only
  constructor
  · intro reads
    simp only [Bool.and_eq_true, Bool.or_eq_true, decide_eq_true_eq] at reads
    exact ⟨reads.1.imp id And.symm, reads.2.imp id And.symm⟩
  · rintro ⟨low, high⟩
    simp only [Bool.and_eq_true, Bool.or_eq_true, decide_eq_true_eq]
    exact ⟨low.imp id And.symm, high.imp id And.symm⟩

theorem two_zpow_sub_two (exponent : Int) : (2 : Rat) ^ (exponent - 2) = 2 ^ exponent / 4 := by
  rw [zpow_sub₀ two_ne_zero]
  norm_num

theorem intervalHigh_eq (mantissa : Nat) (exponent : Int) :
    intervalHigh mantissa exponent = (mantissa + 1 / 2) * 2 ^ exponent := by
  rw [intervalHigh, magnitude, two_zpow_sub_two]
  push_cast
  ring

/-- The lower end lies a quarter of a unit away below a power of two, and half a unit away
elsewhere. -/
theorem intervalLow_eq {mantissa : Nat} (positive : 0 < mantissa) (exponent : Int) :
    intervalLow mantissa exponent =
      (mantissa - if mantissa = normalMantissa ∧ leastExponent < exponent then 1 / 4 else 1 / 2) *
        2 ^ exponent := by
  have quarter : ((4 * mantissa - 1 : Nat) : Rat) = 4 * mantissa - 1 := by
    push_cast [Nat.cast_sub (show 1 ≤ 4 * mantissa by omega)]
    ring
  have half : ((4 * mantissa - 2 : Nat) : Rat) = 4 * mantissa - 2 := by
    push_cast [Nat.cast_sub (show 2 ≤ 4 * mantissa by omega)]
    ring
  rw [intervalLow]
  split
  · rw [magnitude, two_zpow_sub_two, quarter]
    ring
  · rw [magnitude, two_zpow_sub_two, half]
    ring

/-- A rational between the halves next to a multiple of a unit rounds to that multiple. -/
theorem isNearest_of_bounds {size unit : Rat} (unitPos : 0 < unit) {nearest : Nat}
    (low : (nearest - 1 / 2) * unit < size ∨
      (nearest - 1 / 2) * unit = size ∧ nearest % 2 = 0)
    (high : size < (nearest + 1 / 2) * unit ∨
      size = (nearest + 1 / 2) * unit ∧ nearest % 2 = 0) :
    IsNearest (size / unit) nearest := by
  rw [← lt_div_iff₀ unitPos, ← eq_div_iff unitPos.ne'] at low
  rw [← div_lt_iff₀ unitPos, ← div_eq_iff unitPos.ne'] at high
  rcases low with above | ⟨atLow, even⟩
  · rcases high with below | ⟨atHigh, even⟩
    · exact .inl (abs_lt.mpr ⟨by linarith, by linarith⟩)
    · refine .inr ⟨?_, even⟩
      rw [atHigh, add_sub_cancel_left]
      norm_num
  · refine .inr ⟨?_, even⟩
    rw [← atLow, sub_sub_cancel_left]
    norm_num

section Within

variable {mantissa : Nat} {exponent : Int} {size : Rat}
  (within : Within mantissa exponent size)

include within

theorem Within.le_high : size ≤ (mantissa + 1 / 2) * 2 ^ exponent := by
  rw [← intervalHigh_eq]
  rcases within.high with below | ⟨atHigh, _⟩
  · exact below.le
  · exact atHigh.le

theorem Within.low_le : intervalLow mantissa exponent ≤ size := by
  rcases within.low with above | ⟨atLow, _⟩
  · exact above.le
  · exact atLow.le

theorem Within.half_le (positive : 0 < mantissa) :
    (mantissa - 1 / 2) * 2 ^ exponent ≤ size := by
  refine le_trans ?_ within.low_le
  rw [intervalLow_eq positive]
  apply mul_le_mul_of_nonneg_right _ (two_zpow_pos exponent).le
  split <;> linarith

theorem Within.pos (positive : 0 < mantissa) : 0 < size := by
  have reached : (1 : Rat) ≤ mantissa := by exact_mod_cast positive
  have lowPos : 0 < ((mantissa : Rat) - 1 / 2) * 2 ^ exponent :=
    mul_pos (by linarith) (two_zpow_pos exponent)
  exact lowPos.trans_le (within.half_le positive)

/-- In units of its own exponent, what lies in the interval rounds to the mantissa. -/
theorem Within.isNearest (positive : 0 < mantissa) :
    IsNearest (size / 2 ^ exponent) mantissa := by
  have unitPos := two_zpow_pos exponent
  apply isNearest_of_bounds unitPos
  · have low := within.low
    rw [intervalLow_eq positive] at low
    split at low
    · -- A quarter away is less than half away.
      left
      have nearer : ((mantissa : Rat) - 1 / 2) * 2 ^ exponent <
          (mantissa - 1 / 4) * 2 ^ exponent := mul_lt_mul_of_pos_right (by linarith) unitPos
      rcases low with above | ⟨atLow, _⟩
      · exact nearer.trans above
      · exact nearer.trans_le atLow.le
    · exact low
  · have high := within.high
    rw [intervalHigh_eq] at high
    exact high

/-- Only below a power of two does the interval reach below the exponent of its number. -/
theorem Within.eq_normalMantissa (normal : normalMantissa ≤ mantissa)
    (below : size < magnitude normalMantissa exponent) : mantissa = normalMantissa := by
  have positive : 0 < mantissa := lt_of_lt_of_le (by decide) normal
  have reached := within.half_le positive
  have less : ((mantissa : Rat) - 1 / 2) * 2 ^ exponent < normalMantissa * 2 ^ exponent :=
    reached.trans_lt below
  have close : (mantissa : Rat) - 1 / 2 < normalMantissa :=
    lt_of_mul_lt_mul_right less (two_zpow_pos exponent).le
  have atMost : (mantissa : Rat) < normalMantissa + 1 := by linarith
  have upper : mantissa < normalMantissa + 1 := by exact_mod_cast atMost
  omega

/-- The last quarter below a power of two is rounded at the exponent below, where it comes to one
bit more, and is carried up again. -/
theorem Within.roundMagnitude_below (power : mantissa = normalMantissa)
    (atLeast : leastExponent < exponent) (atMost : exponent ≤ greatestExponent)
    (below : size < magnitude normalMantissa exponent) (negative : Bool) :
    roundMagnitude negative size = .finite negative normalMantissa exponent := by
  subst power
  have positive : 0 < normalMantissa := by decide
  have sizePos := within.pos positive
  have unitPos := two_zpow_pos (exponent - 1)
  have unitEq : (2 : Rat) ^ exponent = 2 ^ (exponent - 1) * 2 := by
    rw [← two_zpow_succ, sub_add_cancel]
  have doubled : (mantissaBound : Rat) = 2 * normalMantissa := by
    norm_num [mantissaBound, normalMantissa]
  have low := within.low
  have halfLow := within.half_le positive
  rw [intervalLow_eq positive, if_pos ⟨rfl, atLeast⟩] at low
  rw [magnitude] at below
  rw [unitEq] at low halfLow below
  -- A quarter of a unit is half a unit of the exponent below.
  have quarterEq : ((normalMantissa : Rat) - 1 / 4) * (2 ^ (exponent - 1) * 2) =
      (mantissaBound - 1 / 2) * 2 ^ (exponent - 1) := by
    rw [doubled]
    ring
  have halfEq : ((normalMantissa : Rat) - 1 / 2) * (2 ^ (exponent - 1) * 2) =
      (mantissaBound - 1) * 2 ^ (exponent - 1) := by
    rw [doubled]
    ring
  have wholeEq : (normalMantissa : Rat) * (2 ^ (exponent - 1) * 2) =
      mantissaBound * 2 ^ (exponent - 1) := by
    rw [doubled]
    ring
  rw [quarterEq] at low
  rw [halfEq] at halfLow
  rw [wholeEq] at below
  have rounded : roundingExponent size = exponent - 1 := by
    refine roundingExponent_eq sizePos (by omega) below (.inr (le_trans ?_ halfLow))
    exact mul_le_mul_of_nonneg_right (by norm_num [normalMantissa, mantissaBound]) unitPos.le
  have nearest : IsNearest (size / 2 ^ (exponent - 1)) mantissaBound := by
    apply isNearest_of_bounds unitPos
    · exact low.imp id fun atLow => ⟨atLow.1, rfl⟩
    · exact .inl (below.trans (mul_lt_mul_of_pos_right (by linarith) unitPos))
  have carriedBack : exponent - 1 + 1 = exponent := by omega
  rw [roundMagnitude_eq sizePos rounded nearest, assemble_mantissaBound (by omega), carriedBack]

end Within

/-- All of the interval around a number rounds to it. -/
theorem roundMagnitude_of_within {negative : Bool} {mantissa : Nat} {exponent : Int} {size : Rat}
    (canonical : Canonical (.finite negative mantissa exponent)) (positive : 0 < mantissa)
    (within : Within mantissa exponent size) :
    roundMagnitude negative size = .finite negative mantissa exponent := by
  obtain ⟨bounded, atLeast, atMost, normal⟩ := canonical
  have sizePos := within.pos positive
  by_cases regular : exponent = leastExponent ∨ magnitude normalMantissa exponent ≤ size
  · have below : size < magnitude mantissaBound exponent := by
      refine within.le_high.trans_lt (mul_lt_mul_of_pos_right ?_ (two_zpow_pos exponent))
      have : (mantissa : Rat) + 1 ≤ mantissaBound := by exact_mod_cast bounded
      linarith
    rw [roundMagnitude_eq sizePos (roundingExponent_eq sizePos atLeast below regular)
      (within.isNearest positive), assemble_of_lt bounded atMost]
  · rw [not_or, not_le] at regular
    obtain ⟨above, below⟩ := regular
    have power := within.eq_normalMantissa (normal.resolve_right above) below
    rw [within.roundMagnitude_below power (by omega) atMost below, power]

end ProxyLauncher.Number.Binary64
