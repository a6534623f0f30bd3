import Mathlib.Tactic.FieldSimp
import ProxyLauncher.Proofs.Number.Rounding

/-!
# The shortest decimal rounds to its number

The search for the shortest decimal of a number looks at decimals on ever finer
grids and takes one that lies in the interval of the number, so it rounds to the
number.  Moving zeros into the exponent does not change its value.  Where no
grid has such a decimal the exact one stands, which is the number itself.
-/

namespace ProxyLauncher.Number

namespace Decimal

theorem toRat_strip (bound : Nat) (decimal : Decimal) :
    (decimal.strip bound).toRat = decimal.toRat := by
  induction bound generalizing decimal with
  | zero => rfl
  | succ bound ih =>
      rw [strip]
      split
      case isTrue zeros =>
        have digitsEq : decimal.digits = decimal.digits / 10 * 10 := by omega
        rw [ih, toRat, toRat]
        dsimp only
        rw [zpow_add_one₀ (by norm_num), digitsEq]
        push_cast
        rw [Nat.mul_div_cancel _ (by decide)]
        ring
      case isFalse => rfl

end Decimal

namespace Binary64

theorem within_magnitude {mantissa : Nat} (positive : 0 < mantissa) (exponent : Int) :
    Within mantissa exponent (magnitude mantissa exponent) := by
  have unitPos := two_zpow_pos exponent
  constructor
  · left
    rw [intervalLow_eq positive, magnitude]
    apply mul_lt_mul_of_pos_right _ unitPos
    split <;> linarith
  · left
    rw [intervalHigh_eq, magnitude]
    exact mul_lt_mul_of_pos_right (by linarith) unitPos

theorem toRat_exactDecimal (mantissa : Nat) (exponent : Int) :
    (exactDecimal mantissa exponent).toRat = magnitude mantissa exponent := by
  unfold exactDecimal
  split
  case isTrue nonneg =>
    obtain ⟨power, rfl⟩ := Int.eq_ofNat_of_zero_le nonneg
    simp [Decimal.toRat, magnitude]
  case isFalse negative =>
    obtain ⟨power, powerEq⟩ : ∃ power : Nat, exponent = -(power : Int) :=
      ⟨(-exponent).toNat, by omega⟩
    subst powerEq
    have ten : (10 : Rat) ^ power = 2 ^ power * 5 ^ power := by
      rw [← mul_pow]
      norm_num
    simp only [Decimal.toRat, magnitude, neg_neg, Int.toNat_natCast, zpow_neg, zpow_natCast, ten,
      Nat.pow_eq]
    push_cast
    field_simp

theorem within_of_nearestOnGrid? {mantissa : Nat} {exponent unit : Int} {decimal : Decimal}
    (found : nearestOnGrid? mantissa exponent unit = some decimal) :
    Within mantissa exponent decimal.toRat := by
  rw [← readsBack_iff]
  unfold nearestOnGrid? at found
  dsimp only at found
  split at found
  case h_1 lowerReads upperReads =>
    -- The nearer of both neighbours is taken, and either would do.
    cases found
    split
    · exact upperReads
    · exact lowerReads
  case h_2 lowerReads _ =>
    cases found
    exact lowerReads
  case h_3 _ upperReads =>
    cases found
    exact upperReads
  case h_4 => cases found

/-- The shortest decimal lies in the interval of its number. -/
theorem within_shortestDecimal {mantissa : Nat} (positive : 0 < mantissa) (exponent : Int) :
    Within mantissa exponent (shortestDecimal mantissa exponent).toRat := by
  unfold shortestDecimal
  dsimp only
  split
  case h_1 decimal found =>
    obtain ⟨places, _, hit⟩ := List.exists_of_findSome?_eq_some found
    rw [Decimal.toRat_strip]
    exact within_of_nearestOnGrid? hit
  case h_2 =>
    rw [toRat_exactDecimal]
    exact within_magnitude positive exponent

/-- The shortest decimal of a number rounds to it. -/
theorem roundMagnitude_shortestDecimal {negative : Bool} {mantissa : Nat} {exponent : Int}
    (canonical : Canonical (.finite negative mantissa exponent)) (positive : 0 < mantissa) :
    roundMagnitude negative (shortestDecimal mantissa exponent).toRat =
      .finite negative mantissa exponent :=
  roundMagnitude_of_within canonical positive (within_shortestDecimal positive exponent)

end Binary64

end ProxyLauncher.Number
