import ProxyLauncher.Proofs.Number.Rounding

/-!
# Sizes

A size is a number without a minus sign: a finite one or the positive infinity.
Rounding a rational that is not negative yields a size, and sums of sizes and
multiples of sizes are sizes again.  So a sum of sizes is never the value that
is no number, and it is finite unless it is infinite.
-/

namespace ProxyLauncher.Number.Binary64

/-- A number without a minus sign. -/
inductive IsSize : Binary64 → Prop
  | finite (mantissa : Nat) (exponent : Int) : IsSize (.finite false mantissa exponent)
  | infinite : IsSize (.infinite false)

/-- A size is infinite or finite. -/
theorem IsSize.isFinite_iff {number : Binary64} (isSize : IsSize number) :
    number.isFinite = true ↔ number.isInfinite = false := by
  cases isSize <;> simp [isFinite, isInfinite]

theorem isSize_zeroOf : IsSize (zeroOf false) :=
  .finite 0 leastExponent

theorem isSize_assemble (mantissa : Nat) (exponent : Int) :
    IsSize (assemble false mantissa exponent) := by
  -- Whether the mantissa was carried is of no matter.
  have settled (beyond : Prop) [Decidable beyond] (mantissa : Nat) (exponent : Int) :
      IsSize (if beyond then .infinite false else .finite false mantissa exponent) := by
    split
    · exact .infinite
    · exact .finite mantissa exponent
  exact settled _ _ _

theorem isSize_roundMagnitude (size : Rat) : IsSize (roundMagnitude false size) := by
  unfold roundMagnitude
  split
  · exact isSize_zeroOf
  · exact isSize_assemble _ _

theorem magnitude_nonneg (mantissa : Nat) (exponent : Int) : 0 ≤ magnitude mantissa exponent :=
  mul_nonneg (Nat.cast_nonneg mantissa) (two_zpow_pos exponent).le

theorem IsSize.add {first second : Binary64} (isSize : IsSize first)
    (otherIsSize : IsSize second) : IsSize (first.add second) := by
  cases isSize with
  | infinite =>
      cases otherIsSize with
      | infinite => exact .infinite
      | finite => exact .infinite
  | finite mantissa exponent =>
      cases otherIsSize with
      | infinite => exact .infinite
      | finite otherMantissa otherExponent =>
          have nonneg : 0 ≤ magnitude mantissa exponent +
              magnitude otherMantissa otherExponent :=
            add_nonneg (magnitude_nonneg _ _) (magnitude_nonneg _ _)
          simp only [Binary64.add, Bool.false_eq_true, if_false, Bool.and_false]
          split
          · exact isSize_zeroOf
          · rw [ofRat, if_neg (not_lt.mpr nonneg)]
            exact isSize_roundMagnitude _

/-- An infinite size stays infinite as long as the factor is not zero. -/
theorem IsSize.mul {number : Binary64} (isSize : IsSize number) {mantissa : Nat}
    (positive : 0 < mantissa) (exponent : Int) :
    IsSize (number.mul (.finite false mantissa exponent)) := by
  cases isSize with
  | finite => exact isSize_roundMagnitude _
  | infinite =>
      simp only [Binary64.mul, if_neg positive.ne']
      exact .infinite

/-- Sizes add up to a size. -/
theorem isSize_sum {numbers : List Binary64} (sizes : ∀ number ∈ numbers, IsSize number)
    {start : Binary64} (isSize : IsSize start) : IsSize (numbers.foldl Binary64.add start) := by
  induction numbers generalizing start with
  | nil => exact isSize
  | cons first rest ih =>
      apply ih
      · intro number member
        exact sizes number (List.mem_cons_of_mem first member)
      · exact isSize.add (sizes first List.mem_cons_self)

end ProxyLauncher.Number.Binary64
