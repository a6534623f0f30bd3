import Mathlib.Tactic.Positivity
import ProxyLauncher.Proofs.Number.Size

/-!
# Results are canonical

A rational is rounded at an exponent where its mantissa has 53 bits, or fewer at
the least exponent.  Rounding to the nearest integer can add one bit, which is
carried.  So every rounded number is canonical, and with it every decimal and
every sum.
-/

namespace ProxyLauncher.Number.Binary64

/-! ## The nearest integer -/

/-- The nearest integer is the one below or the one above. -/
theorem nearestEven_cases (size : Rat) :
    nearestEven size = size.floor.toNat ∨ nearestEven size = size.floor.toNat + 1 := by
  unfold nearestEven
  dsimp only
  split
  · exact .inl rfl
  · split
    · exact .inr rfl
    · split
      · exact .inl rfl
      · exact .inr rfl

theorem le_nearestEven {size : Rat} {bound : Nat} (reached : bound ≤ size) :
    bound ≤ nearestEven size := by
  have floor : bound ≤ size.floor.toNat := Nat.le_floor reached
  rcases nearestEven_cases size with below | above <;> omega

/-! ## Rounded numbers -/

theorem canonical_zeroOf (negative : Bool) : (zeroOf negative).Canonical :=
  ⟨by decide, by decide, by decide, .inr rfl⟩

theorem Canonical.negate {number : Binary64} (canonical : number.Canonical) :
    number.negate.Canonical := by
  cases number <;> exact canonical

/-- A mantissa with too many bits is carried, and then has the right number. -/
theorem canonical_assemble {mantissa : Nat} {exponent : Int}
    (atLeast : leastExponent ≤ exponent)
    (normal : normalMantissa ≤ mantissa ∨ exponent = leastExponent) (negative : Bool) :
    (assemble negative mantissa exponent).Canonical := by
  unfold assemble
  by_cases carried : mantissaBound ≤ mantissa
  · simp only [carried, decide_true, if_true]
    split
    case isTrue => trivial
    case isFalse within => exact ⟨by decide, by omega, by omega, .inl (Nat.le_refl _)⟩
  · simp only [carried, decide_false, Bool.false_eq_true, if_false]
    split
    case isTrue => trivial
    case isFalse within => exact ⟨by omega, atLeast, by omega, normal⟩

theorem leastExponent_le_roundingExponent (size : Rat) :
    leastExponent ≤ roundingExponent size := by
  unfold roundingExponent
  dsimp only
  split <;> omega

/-- At its exponent of rounding, a rational has 53 bits, but for the least exponent. -/
theorem le_div_roundingExponent {size : Rat} (positive : 0 < size) :
    (normalMantissa : Rat) ≤ size / 2 ^ roundingExponent size ∨
      roundingExponent size = leastExponent := by
  by_cases least : binaryOrder size - 52 < leastExponent
  · exact .inr (if_pos least)
  · have exponentEq : roundingExponent size = binaryOrder size - 52 := if_neg least
    left
    rw [exponentEq, le_div_iff₀ (two_zpow_pos _)]
    calc (normalMantissa : Rat) * 2 ^ (binaryOrder size - 52)
        = 2 ^ (binaryOrder size - 52 + 52) := magnitude_normalMantissa _
      _ = 2 ^ binaryOrder size := by rw [sub_add_cancel]
      _ ≤ size := (binaryOrder_spec positive).1

/-- Rounding yields canonical numbers alone. -/
theorem canonical_roundMagnitude {size : Rat} (nonneg : 0 ≤ size) (negative : Bool) :
    (roundMagnitude negative size).Canonical := by
  unfold roundMagnitude
  by_cases zero : size = 0
  · rw [if_pos zero]
    exact canonical_zeroOf negative
  · rw [if_neg zero]
    have positive : 0 < size := lt_of_le_of_ne nonneg (Ne.symm zero)
    apply canonical_assemble (leastExponent_le_roundingExponent size)
    exact (le_div_roundingExponent positive).imp_left le_nearestEven

/-! ## Results of operations -/

theorem canonical_ofRat (value : Rat) : (ofRat value).Canonical := by
  unfold ofRat
  split
  case isTrue below => exact canonical_roundMagnitude (by linarith) true
  case isFalse above => exact canonical_roundMagnitude (not_lt.mp above) false

theorem canonical_ofDecimal (negative : Bool) (digits : Nat) (exponent : Int) :
    (ofDecimal negative digits exponent).Canonical :=
  canonical_roundMagnitude (by positivity) negative

/-- A sum that comes to zero has a sign of its own, and any other is rounded. -/
theorem canonical_ofTotal (total : Rat) (negative : Bool) :
    (if total = 0 then zeroOf negative else ofRat total).Canonical := by
  split
  · exact canonical_zeroOf negative
  · exact canonical_ofRat total

theorem canonical_add (first second : Binary64) : (first.add second).Canonical := by
  unfold add
  split
  case h_1 => exact canonical_ofTotal _ _
  case h_2 => split <;> trivial
  all_goals trivial

theorem canonical_sum {numbers : List Binary64} {start : Binary64}
    (canonical : start.Canonical) : (numbers.foldl Binary64.add start).Canonical := by
  induction numbers generalizing start with
  | nil => exact canonical
  | cons first rest ih => exact ih (canonical_add start first)

end ProxyLauncher.Number.Binary64
