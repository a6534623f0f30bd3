import ProxyLauncher.Proofs.Duration.Value
import ProxyLauncher.Proofs.Number.Canonical

/-!
# The range of durations

A sum of groups may come out infinite, but then it is refused, as is one beyond
the longest duration.  What is accepted is a finite number, and the sign that
comes last only turns it over.  So every text that is read as a duration is some
rational number of seconds, and not beyond the longest one in either direction.
-/

namespace ProxyLauncher

open Number

namespace Number.Binary64

/-! ## The order of finite numbers -/

/-- Finite numbers are ordered as the rationals that they stand for. -/
theorem less_eq_decide {first second : Binary64} {left right : Rat}
    (leftEq : first.toRat? = some left) (rightEq : second.toRat? = some right) :
    first.less second = decide (left < right) := by
  cases first with
  | infinite => cases leftEq
  | notANumber => cases leftEq
  | finite negative mantissa exponent =>
      cases second with
      | infinite => cases rightEq
      | notANumber => cases rightEq
      | finite other otherMantissa otherExponent =>
          cases leftEq
          cases rightEq
          rfl

theorem less_eq_false_iff {first second : Binary64} {left right : Rat}
    (leftEq : first.toRat? = some left) (rightEq : second.toRat? = some right) :
    first.less second = false ↔ right ≤ left := by
  rw [less_eq_decide leftEq rightEq, decide_eq_false_iff_not, not_lt]

theorem toRat?_negate (number : Binary64) : number.negate.toRat? = number.toRat?.map (- ·) := by
  cases number with
  | infinite => rfl
  | notANumber => rfl
  | finite negative mantissa exponent => cases negative <;> simp [negate, toRat?]

theorem toRat?_zeroOf (negative : Bool) : (zeroOf negative).toRat? = some 0 := by
  cases negative <;> simp [zeroOf, toRat?, magnitude]

/-- A finite size is a rational that is not negative. -/
theorem IsSize.exists_toRat? {number : Binary64} (isSize : IsSize number)
    (finite : number.isFinite = true) : ∃ value, number.toRat? = some value ∧ 0 ≤ value := by
  cases isSize with
  | infinite => cases finite
  | finite mantissa exponent => exact ⟨_, rfl, magnitude_nonneg mantissa exponent⟩

end Number.Binary64

namespace Duration

open Binary64

/-! ## The longest duration -/

/-- The seconds of the longest duration, some 292 years. -/
def longestSeconds : Rat := 4835703278458517 / 2 ^ 19

/-- To the microsecond, the longest duration has 9223372036.854776 seconds. -/
theorem longest_eq_ofDecimal : longest = .ofDecimal false 9223372036854776 (-6) := by
  decide +kernel

theorem toRat?_longest : longest.toRat? = some longestSeconds := by
  have longestEq : longest = .finite false 4835703278458517 (-19) := by decide +kernel
  rw [longestEq]
  simp only [toRat?, magnitude, longestSeconds, Bool.false_eq_true, if_false, zpow_neg,
    div_eq_mul_inv]
  norm_cast

/-! ## Durations in range -/

/-- A number of seconds that is not beyond the longest duration in either direction. -/
structure InRange (number : Binary64) : Prop where
  canonical : number.Canonical
  exists_seconds : ∃ seconds, number.toRat? = some seconds ∧ |seconds| ≤ longestSeconds

theorem InRange.isFinite {number : Binary64} (inRange : InRange number) :
    number.isFinite = true := by
  obtain ⟨seconds, isSeconds, _⟩ := inRange.exists_seconds
  cases number with
  | finite => rfl
  | infinite => cases isSeconds
  | notANumber => cases isSeconds

theorem InRange.negate {number : Binary64} (inRange : InRange number) :
    InRange number.negate where
  canonical := inRange.canonical.negate
  exists_seconds := by
    obtain ⟨seconds, isSeconds, within⟩ := inRange.exists_seconds
    refine ⟨-seconds, ?_, by rwa [abs_neg]⟩
    rw [toRat?_negate, isSeconds, Option.map_some]

/-- A size is in range unless it is beyond the longest duration. -/
theorem inRange_of_isSize {number : Binary64} (canonical : number.Canonical)
    (isSize : IsSize number) (finite : number.isFinite = true)
    (bounded : longest.less number = false) : InRange number where
  canonical := canonical
  exists_seconds := by
    obtain ⟨seconds, isSeconds, nonneg⟩ := isSize.exists_toRat? finite
    refine ⟨seconds, isSeconds, ?_⟩
    rw [abs_of_nonneg nonneg]
    exact (less_eq_false_iff toRat?_longest isSeconds).mp bounded

theorem inRange_zeroOf (negative : Bool) : InRange (zeroOf negative) where
  canonical := canonical_zeroOf negative
  exists_seconds := ⟨0, toRat?_zeroOf negative, by norm_num [longestSeconds]⟩

theorem canonical_sum (groups : List WrittenGroup) : (sum groups).Canonical :=
  Binary64.canonical_sum (canonical_zeroOf false)

/-- Whatever its groups and its sign, a duration is in range. -/
theorem Denotes.inRange {text : List Char} {seconds : Binary64} (denotes : Denotes text seconds) :
    InRange seconds := by
  cases denotes with
  | zero => exact inRange_zeroOf false
  | @sum negative groups _ _ finite bounded =>
      have inRange := inRange_of_isSize (canonical_sum groups) (isSize_sum groups) finite bounded
      cases negative with
      | false => exact inRange
      | true => exact inRange.negate

/-- The seconds of a number in range are a rational, and not below zero exactly when the number is
not. -/
theorem InRange.exists_of_not_negative {number : Binary64} (inRange : InRange number)
    (notNegative : number.less (.zeroOf false) = false) :
    ∃ seconds, number.toRat? = some seconds ∧ 0 ≤ seconds ∧ seconds ≤ longestSeconds := by
  obtain ⟨seconds, isSeconds, within⟩ := inRange.exists_seconds
  have nonneg := (less_eq_false_iff isSeconds (toRat?_zeroOf false)).mp notNegative
  exact ⟨seconds, isSeconds, nonneg, (abs_le.mp within).2⟩

end Duration

end ProxyLauncher
