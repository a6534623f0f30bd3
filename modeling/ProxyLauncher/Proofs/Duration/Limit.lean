import Mathlib.Tactic.NormNum
import ProxyLauncher.Proofs.Attempt
import ProxyLauncher.Proofs.Duration.Range
import ProxyLauncher.Proofs.Number.RoundingError

/-!
# Durations and their limit

Durations are meant to fit into 63 bits of nanoseconds.  The reader compares
rounded numbers of seconds, though: the amounts, the lengths of the units, their
products, every sum on the way and the limit itself are all rounded.

A single amount next to the limit loses one part in `2 ^ 53` three times, which
is some three microseconds.  Adding up loses at most one microsecond for each
group.  So the limit is kept up to a microsecond for each group and five more,
and so is the value of whatever is read.
-/

namespace ProxyLauncher

open Number

/-- The nanoseconds of a unit. -/
def TimeUnit.nanoseconds : TimeUnit → Nat
  | .nanosecond => 1
  | .microsecond => 1000
  | .millisecond => 1000 ^ 2
  | .second => 1000 ^ 3
  | .minute => 60 * 1000 ^ 3
  | .hour => 3600 * 1000 ^ 3

/-- The exact length of a unit in seconds. -/
def TimeUnit.length (unit : TimeUnit) : Rat :=
  unit.nanoseconds / 10 ^ 9

namespace Duration

open Binary64 Integer

/-! ## Exact durations -/

/-- The exact nanoseconds of a group. -/
def WrittenGroup.nanoseconds (group : WrittenGroup) : Rat :=
  group.amount * group.unit.nanoseconds

/-- The exact nanoseconds of several groups. -/
def nanoseconds (groups : List WrittenGroup) : Rat :=
  (groups.map WrittenGroup.nanoseconds).sum

/-- The most nanoseconds that fit into 63 bits. -/
def limit : Rat := 2 ^ 63 - 1

/-- The nanoseconds by which rounding can miss: a microsecond for each group and five more. -/
def slack (groups : List WrittenGroup) : Rat :=
  1000 * (groups.length + 5)

/-- The exact seconds of a group. -/
def WrittenGroup.exact (group : WrittenGroup) : Rat :=
  group.amount * group.unit.length

/-- The exact seconds of several groups. -/
def exact (groups : List WrittenGroup) : Rat :=
  (groups.map WrittenGroup.exact).sum

theorem nanoseconds_eq (groups : List WrittenGroup) :
    nanoseconds groups = exact groups * 10 ^ 9 := by
  unfold nanoseconds exact
  induction groups with
  | nil => simp
  | cons group rest ih =>
      have groupEq : group.nanoseconds = group.exact * 10 ^ 9 := by
        rw [WrittenGroup.nanoseconds, WrittenGroup.exact, TimeUnit.length]
        ring
      rw [List.map_cons, List.map_cons, List.sum_cons, List.sum_cons, ih, groupEq]
      ring

theorem IsAmount.nonneg {number : List Char} {amount : Rat} (isAmount : IsAmount number amount) :
    0 ≤ amount := by
  cases isAmount <;> positivity

/-! ## The error of one group -/

/-- The exact length of a unit is between a nanosecond and an hour. -/
theorem length_bounds (unit : TimeUnit) : 1 / 10 ^ 9 ≤ unit.length ∧ unit.length ≤ 3600 := by
  cases unit <;> norm_num [TimeUnit.length, TimeUnit.nanoseconds]

theorem seconds_eq_roundMagnitude (unit : TimeUnit) :
    unit.seconds = roundMagnitude false unit.length := by
  cases unit <;> norm_num [TimeUnit.seconds, TimeUnit.length, TimeUnit.nanoseconds, ofDecimal]

section Product

variable {amount length roundedAmount roundedLength product part constant : Rat}
  (amountNonneg : 0 ≤ amount) (lengthNonneg : 0 ≤ length)
  (partNonneg : 0 ≤ part) (partSmall : part ≤ 1 / 10) (constantNonneg : 0 ≤ constant)
  (amountError : |roundedAmount - amount| ≤ amount * part + constant)
  (lengthError : |roundedLength - length| ≤ length * part)
  (error : |product - roundedAmount * roundedLength| ≤
    roundedAmount * roundedLength * part + constant)

include amountNonneg lengthNonneg partNonneg partSmall constantNonneg amountError
  lengthError error

/-- Two factors and their product that each lose one part lose no more than four together. -/
theorem product_error :
    |product - amount * length| ≤
      amount * length * (4 * part) + constant * (2 * length + 1) := by
  rw [abs_le] at amountError lengthError error
  have exactNonneg : 0 ≤ amount * length := mul_nonneg amountNonneg lengthNonneg
  have lossNonneg : 0 ≤ constant * length := mul_nonneg constantNonneg lengthNonneg
  have rest : 0 ≤ 1 - part := by linarith
  have lengthLow : length * (1 - part) ≤ roundedLength := by linarith
  have lengthHigh : roundedLength ≤ length * (1 + part) := by linarith
  have roundedLengthNonneg : 0 ≤ roundedLength :=
    (mul_nonneg lengthNonneg rest).trans lengthLow
  have cube : 3 * part ^ 2 + part ^ 3 ≤ part := by nlinarith
  have square : (1 + part) ^ 2 ≤ 2 := by nlinarith
  rw [abs_le]
  constructor
  · have low : (amount * (1 - part) - constant) * roundedLength ≤ roundedAmount * roundedLength :=
      mul_le_mul_of_nonneg_right (by linarith) roundedLengthNonneg
    have kept : amount * (1 - part) * (length * (1 - part)) ≤
        amount * (1 - part) * roundedLength :=
      mul_le_mul_of_nonneg_left lengthLow (mul_nonneg amountNonneg rest)
    have lost : constant * roundedLength ≤ constant * (length * (1 + part)) :=
      mul_le_mul_of_nonneg_left lengthHigh constantNonneg
    have scaled := mul_le_mul_of_nonneg_right
      (show amount * length * (1 - part) ^ 2 - constant * (length * (1 + part)) ≤
        roundedAmount * roundedLength by nlinarith) rest
    nlinarith
  · have high : roundedAmount * roundedLength ≤
        (amount * (1 + part) + constant) * (length * (1 + part)) :=
      mul_le_mul (by linarith) lengthHigh roundedLengthNonneg (by positivity)
    have scaled := mul_le_mul_of_nonneg_right high (show 0 ≤ 1 + part by linarith)
    nlinarith

end Product

/-- What a group loses next to zero. -/
def groupLoss : Rat := halfSmallest * 7201

/-- A group is off by no more than four parts in `2 ^ 53`, apart from what is lost next to zero. -/
theorem seconds_error (group : WrittenGroup) {value : Rat}
    (isValue : group.seconds.toRat? = some value) :
    |value - group.exact| ≤ group.exact * (4 * unitRoundoff) + groupLoss := by
  have amountNonneg := group.isAmount.nonneg
  obtain ⟨atLeast, atMost⟩ := length_bounds group.unit
  have normal : (2 : Rat) ^ (-1022 : Int) ≤ group.unit.length :=
    calc (2 : Rat) ^ (-1022 : Int)
        ≤ 2 ^ (-30 : Int) := zpow_le_zpow_right₀ one_le_two (by norm_num)
      _ ≤ 1 / 10 ^ 9 := by norm_num
      _ ≤ group.unit.length := atLeast
  have lengthNonneg : 0 ≤ group.unit.length := (two_zpow_pos _).le.trans normal
  have lossNonneg : 0 ≤ halfSmallest := (two_zpow_pos _).le
  have amountIsSize := isSize_roundMagnitude group.amount
  have unitIsSize := isSize_roundMagnitude group.unit.length
  rw [WrittenGroup.seconds, seconds_eq_roundMagnitude] at isValue
  obtain ⟨roundedAmount, roundedLength, isAmount, isLength⟩ :=
    exists_toRat?_of_mul amountIsSize unitIsSize isValue
  have roundedNonneg :=
    mul_nonneg (amountIsSize.nonneg isAmount) (unitIsSize.nonneg isLength)
  rw [toRat?_mul amountIsSize unitIsSize isAmount isLength] at isValue
  have error := product_error amountNonneg lengthNonneg (two_zpow_pos _).le
    (by norm_num [unitRoundoff]) lossNonneg (relative_error amountNonneg isAmount)
    (relative_error_of_normal normal isLength) (relative_error roundedNonneg isValue)
  refine error.trans (add_le_add_right ?_ _)
  exact mul_le_mul_of_nonneg_left (by linarith) lossNonneg

/-- A group that is not too long has some number of seconds. -/
theorem exists_seconds_of_lt (group : WrittenGroup) (short : group.exact < 2 ^ (34 : Int)) :
    ∃ value, group.seconds.toRat? = some value := by
  have amountNonneg := group.isAmount.nonneg
  obtain ⟨atLeast, atMost⟩ := length_bounds group.unit
  have lengthNonneg : 0 ≤ group.unit.length := le_trans (by norm_num) atLeast
  have amountIsSize := isSize_roundMagnitude group.amount
  have unitIsSize := isSize_roundMagnitude group.unit.length
  -- Not even in nanoseconds is the amount large, and no unit is.
  have amountBelow : group.amount < 2 ^ (64 : Int) := by
    have scaled := mul_le_mul_of_nonneg_left atLeast amountNonneg
    rw [WrittenGroup.exact] at short
    norm_num at short scaled ⊢
    linarith
  have lengthBelow : group.unit.length < 2 ^ (12 : Int) := lt_of_le_of_lt atMost (by norm_num)
  obtain ⟨roundedAmount, isAmount⟩ := exists_toRat?_roundMagnitude amountNonneg
    (amountBelow.trans (zpow_lt_zpow_right₀ one_lt_two (by norm_num)))
  obtain ⟨roundedLength, isLength⟩ := exists_toRat?_roundMagnitude lengthNonneg
    (lengthBelow.trans (zpow_lt_zpow_right₀ one_lt_two (by norm_num)))
  have roundedBelow : roundedAmount ≤ 2 ^ (65 : Int) := by
    have error := (abs_le.mp (error_below amountNonneg isAmount amountBelow (by decide))).2
    norm_num at amountBelow error ⊢
    linarith
  have roundedLengthBelow : roundedLength ≤ 2 ^ (13 : Int) := by
    have error := (abs_le.mp (error_below lengthNonneg isLength lengthBelow (by decide))).2
    norm_num at lengthBelow error ⊢
    linarith
  have roundedNonneg := amountIsSize.nonneg isAmount
  have roundedLengthNonneg := unitIsSize.nonneg isLength
  have productBelow : roundedAmount * roundedLength < 2 ^ (1023 : Int) :=
    calc roundedAmount * roundedLength
        ≤ 2 ^ (65 : Int) * 2 ^ (13 : Int) :=
          mul_le_mul roundedBelow roundedLengthBelow roundedLengthNonneg (two_zpow_pos _).le
      _ = 2 ^ (65 + 13 : Int) := (zpow_add₀ two_ne_zero _ _).symm
      _ < 2 ^ (1023 : Int) := zpow_lt_zpow_right₀ one_lt_two (by norm_num)
  rw [WrittenGroup.seconds, seconds_eq_roundMagnitude,
    toRat?_mul amountIsSize unitIsSize isAmount isLength]
  exact exists_toRat?_roundMagnitude (mul_nonneg roundedNonneg roundedLengthNonneg) productBelow

/-! ## The error of several groups -/

theorem values_error {groups : List WrittenGroup} {values : List Rat}
    (haveValues : HaveValues (groups.map WrittenGroup.seconds) values) :
    |values.sum - exact groups| ≤
      exact groups * (4 * unitRoundoff) + groups.length * groupLoss := by
  induction groups generalizing values with
  | nil =>
      cases haveValues
      simp [exact]
  | cons group rest ih =>
      cases haveValues with
      | cons isValue haveValues =>
          have groupError := seconds_error group isValue
          have restError := ih haveValues
          rw [exact] at restError ⊢
          rw [List.map_cons, List.sum_cons, List.sum_cons, List.length_cons]
          push_cast
          rw [abs_le] at groupError restError ⊢
          constructor <;> linarith

theorem isSize_of_mem {groups : List WrittenGroup} :
    ∀ number ∈ groups.map WrittenGroup.seconds, IsSize number := by
  intro number member
  obtain ⟨group, _, rfl⟩ := List.mem_map.mp member
  exact group.isSize_seconds

/-- What a group can lose when it is added up, next to zero and in a sum of up to `2 ^ 34` seconds:
a little less than a microsecond. -/
def stepLoss : Rat := 2 ^ (-20 : Int) + groupLoss

theorem stepLoss_pos : 0 < stepLoss :=
  add_pos (two_zpow_pos _) (mul_pos (two_zpow_pos _) (by norm_num))

theorem stepLoss_le : stepLoss ≤ 96 / 10 ^ 8 := by
  have tiny : halfSmallest ≤ 2 ^ (-60 : Int) := zpow_le_zpow_right₀ one_le_two (by norm_num)
  rw [stepLoss, groupLoss]
  norm_num at tiny ⊢
  linarith

/-- A sum of less than `2 ^ 34` seconds is off by no more than four parts in `2 ^ 53`, and a
microsecond for each group. -/
theorem sum_error {groups : List WrittenGroup} {total : Rat}
    (isTotal : (sum groups).toRat? = some total) (below : total < 2 ^ (34 : Int)) :
    |total - exact groups| ≤ exact groups * (4 * unitRoundoff) + groups.length * stepLoss := by
  obtain ⟨initial, values, isInitial, haveValues, _, additions⟩ :=
    error_of_sum isSize_of_mem isSize_zeroOf isTotal below (by decide)
  rw [toRat?_zeroOf] at isInitial
  cases isInitial
  have products := values_error haveValues
  rw [List.length_map, show (34 : Int) - 54 = -20 from rfl] at additions
  rw [stepLoss]
  rw [abs_le] at additions products ⊢
  constructor <;> linarith

theorem WrittenGroup.exact_nonneg (group : WrittenGroup) : 0 ≤ group.exact :=
  mul_nonneg group.isAmount.nonneg (le_trans (by norm_num) (length_bounds group.unit).1)

theorem exact_nonneg (groups : List WrittenGroup) : 0 ≤ exact groups := by
  apply List.sum_nonneg
  intro value member
  obtain ⟨group, _, rfl⟩ := List.mem_map.mp member
  exact group.exact_nonneg

theorem exists_values_of_lt {groups : List WrittenGroup} (short : exact groups < 2 ^ (34 : Int)) :
    ∃ values, HaveValues (groups.map WrittenGroup.seconds) values := by
  induction groups with
  | nil => exact ⟨[], .nil⟩
  | cons group rest ih =>
      have exactEq : exact (group :: rest) = group.exact + exact rest := List.sum_cons
      have groupNonneg := group.exact_nonneg
      have restNonneg := exact_nonneg rest
      obtain ⟨values, haveValues⟩ := ih (by linarith)
      obtain ⟨value, isValue⟩ := exists_seconds_of_lt group (by linarith)
      exact ⟨value :: values, .cons isValue haveValues⟩

/-- A sum that has room for its error below `2 ^ 34` seconds is some number of them. -/
theorem exists_sum {groups : List WrittenGroup}
    (room : exact groups * (1 + 4 * unitRoundoff) + groups.length * stepLoss < 2 ^ (34 : Int)) :
    ∃ total, (sum groups).toRat? = some total ∧ total < 2 ^ (34 : Int) := by
  have nonneg := exact_nonneg groups
  have relative : 0 ≤ exact groups * (4 * unitRoundoff) :=
    mul_nonneg nonneg (mul_nonneg zero_le_four (two_zpow_pos _).le)
  have steps : 0 ≤ groups.length * stepLoss :=
    mul_nonneg (Nat.cast_nonneg _) stepLoss_pos.le
  have short : exact groups < 2 ^ (34 : Int) := by linarith
  obtain ⟨values, haveValues⟩ := exists_values_of_lt short
  have products := (abs_le.mp (values_error haveValues)).2
  rw [stepLoss] at room
  have below : 0 + values.sum + (groups.map WrittenGroup.seconds).length * 2 ^ (34 - 54 : Int) <
      2 ^ (34 : Int) := by
    rw [List.length_map, show (34 : Int) - 54 = -20 from rfl]
    linarith
  obtain ⟨total, isTotal, additions⟩ := exists_sum_of_lt isSize_of_mem haveValues isSize_zeroOf
    (toRat?_zeroOf false) below (by decide) (by decide)
  exact ⟨total, isTotal, by linarith [(abs_le.mp additions).2]⟩

/-! ## The limit -/

/-- A sum up to the longest duration is off by no more than a microsecond for each group and 4.4
more, which leaves the rest of five to the longest duration: it is itself rounded, upwards. -/
theorem sum_error_of_le_longest {groups : List WrittenGroup} {total : Rat}
    (isTotal : (sum groups).toRat? = some total) (bounded : total ≤ longestSeconds) :
    |total - exact groups| ≤ (groups.length + 22 / 5) / 10 ^ 6 := by
  have below : total < 2 ^ (34 : Int) := lt_of_le_of_lt bounded (by norm_num [longestSeconds])
  have error := sum_error isTotal below
  have steps : groups.length * stepLoss ≤ groups.length * (96 / 10 ^ 8) :=
    mul_le_mul_of_nonneg_left stepLoss_le (Nat.cast_nonneg _)
  have count : (0 : Rat) ≤ groups.length := Nat.cast_nonneg _
  have nonneg := exact_nonneg groups
  generalize exact groups = exactTotal at *
  generalize (groups.length : Rat) = count at *
  norm_num [longestSeconds] at bounded
  norm_num [unitRoundoff] at error
  rw [abs_le] at error ⊢
  constructor <;> linarith

/-- A sum with room for its error below the limit is not beyond the longest duration. -/
theorem exists_sum_of_le_limit {groups : List WrittenGroup}
    (room : exact groups + (groups.length + 5) / 10 ^ 6 ≤ limit / 10 ^ 9) :
    ∃ total, (sum groups).toRat? = some total ∧ total ≤ longestSeconds := by
  have steps : groups.length * stepLoss ≤ groups.length * (96 / 10 ^ 8) :=
    mul_le_mul_of_nonneg_left stepLoss_le (Nat.cast_nonneg _)
  have count : (0 : Rat) ≤ groups.length := Nat.cast_nonneg _
  norm_num [limit] at room
  have short : exact groups * (1 + 4 * unitRoundoff) + groups.length * stepLoss <
      2 ^ (34 : Int) := by
    norm_num [unitRoundoff]
    linarith
  obtain ⟨total, isTotal, below⟩ := exists_sum short
  have error := (abs_le.mp (sum_error isTotal below)).2
  refine ⟨total, isTotal, ?_⟩
  norm_num [unitRoundoff] at error
  norm_num [longestSeconds]
  linarith

theorem withinBounds_sum_iff_le {groups : List WrittenGroup} :
    withinBounds (sum groups) = true ↔
      ∃ total, (sum groups).toRat? = some total ∧ total ≤ longestSeconds := by
  rw [withinBounds_sum_iff]
  constructor
  · rintro ⟨finite, bounded⟩
    obtain ⟨total, isTotal, _⟩ := (isSize_sum groups).exists_toRat? finite
    exact ⟨total, isTotal, (less_eq_false_iff toRat?_longest isTotal).mp bounded⟩
  · rintro ⟨total, isTotal, bounded⟩
    refine ⟨?_, (less_eq_false_iff toRat?_longest isTotal).mpr bounded⟩
    cases sumEq : sum groups with
    | finite => rfl
    | infinite => simp [sumEq, toRat?] at isTotal
    | notANumber => simp [sumEq, toRat?] at isTotal

/-- A text that is made of groups is read as their sum, unless that is beyond the longest
duration. -/
theorem read_of_signed {text : String} {negative : Bool} {groups : List WrittenGroup}
    (isSigned : Signed text.toList negative (written groups)) (nonempty : groups ≠ []) :
    read text =
      if withinBounds (sum groups) then
        .ok (if negative then (sum groups).negate else sum groups)
      else .error (complaint text) := by
  rw [read, read?, readList?_of_signed isSigned nonempty]
  cases withinBounds (sum groups) <;> rfl

/-- The law of a text that is made of groups, next to the limit of durations. -/
structure LimitLaw (text : String) (negative : Bool) (groups : List WrittenGroup) : Prop where
  /-- What is too long, even if rounding is allowed for, is refused. -/
  refuses : limit + slack groups < nanoseconds groups → read text = .error (complaint text)
  /-- What is short enough, even if rounding is allowed for, is read. -/
  reads : nanoseconds groups + slack groups ≤ limit → ∃ seconds, read text = .ok seconds
  /-- What is read is, up to rounding, what is written. -/
  close : ∀ seconds, read text = .ok seconds → ∃ value, seconds.toRat? = some value ∧
    |value * 10 ^ 9 - (if negative then -nanoseconds groups else nanoseconds groups)| ≤
      slack groups

/-- The limit of 63 bits of nanoseconds is kept up to a microsecond for each group and five more,
and so is the length of every duration within it. -/
theorem read_limitLaw {text : String} {negative : Bool} {groups : List WrittenGroup}
    (isSigned : Signed text.toList negative (written groups)) (nonempty : groups ≠ []) :
    LimitLaw text negative groups := by
  have readEq := read_of_signed isSigned nonempty
  constructor
  case refuses =>
    intro beyond
    rw [readEq, if_neg]
    rw [withinBounds_sum_iff_le]
    rintro ⟨total, isTotal, bounded⟩
    have error := (abs_le.mp (sum_error_of_le_longest isTotal bounded)).1
    rw [nanoseconds_eq, limit, slack] at beyond
    norm_num [longestSeconds] at bounded error beyond
    linarith
  case reads =>
    intro room
    rw [nanoseconds_eq, slack] at room
    have short : exact groups + (groups.length + 5) / 10 ^ 6 ≤ limit / 10 ^ 9 := by linarith
    have within := withinBounds_sum_iff_le.mpr (exists_sum_of_le_limit short)
    exact ⟨_, readEq.trans (if_pos within)⟩
  case close =>
    intro seconds reads
    rw [readEq] at reads
    split at reads
    case isFalse => cases reads
    case isTrue within =>
      obtain ⟨total, isTotal, bounded⟩ := withinBounds_sum_iff_le.mp within
      have error := sum_error_of_le_longest isTotal bounded
      rw [nanoseconds_eq, slack]
      cases reads
      cases negative with
      | false =>
          refine ⟨total, isTotal, ?_⟩
          rw [if_neg (by simp)]
          rw [abs_le] at error ⊢
          constructor <;> linarith
      | true =>
          refine ⟨-total, by simp [toRat?_negate, isTotal], ?_⟩
          rw [if_pos rfl]
          rw [abs_le] at error ⊢
          constructor <;> linarith

/-- A group of some number of nanoseconds. -/
def WrittenGroup.ofNanoseconds (count : Nat) : WrittenGroup where
  number := Nat.toDigits 10 count
  amount := count
  spelling := ['n', 's']
  unit := .nanosecond
  isAmount := by
    have isAmount := IsAmount.whole (numeral_toDigits count)
    rw [magnitude_toDigits] at isAmount
    exact isAmount
  isSpelling := List.mem_singleton_self _

theorem nanoseconds_ofNanoseconds (count : Nat) :
    nanoseconds [.ofNanoseconds count] = count := by
  simp [nanoseconds, WrittenGroup.nanoseconds, WrittenGroup.ofNanoseconds, TimeUnit.nanoseconds]

/-- Seven microseconds beyond the limit, one group of nanoseconds is refused. -/
theorem read_limitLaw_beyond :
    Signed "9223372036854782807ns".toList false (written [.ofNanoseconds 9223372036854782807]) ∧
      read "9223372036854782807ns" = .error (complaint "9223372036854782807ns") := by
  have textEq : "9223372036854782807ns".toList =
      written [.ofNanoseconds 9223372036854782807] := by decide +kernel
  have isSigned : Signed "9223372036854782807ns".toList false
      (written [.ofNanoseconds 9223372036854782807]) := textEq ▸ .bare _
  refine ⟨isSigned, (read_limitLaw isSigned (List.cons_ne_nil _ _)).refuses ?_⟩
  rw [nanoseconds_ofNanoseconds]
  norm_num [limit, slack]

/-- A text that is made of groups is refused as soon as it is too long. -/
def KeepsLimit (text : String) : Prop :=
  ∀ negative groups, Signed text.toList negative (written groups) → limit < nanoseconds groups →
    ∃ complaint, read text = .error complaint

/-- One nanosecond too many is rounded to the longest duration, which is read. -/
theorem not_keepsLimit_rounded : ¬ KeepsLimit "9223372036854775808ns" := by
  intro keeps
  have textEq : "9223372036854775808ns".toList =
      written [.ofNanoseconds 9223372036854775808] := by decide +kernel
  have isSigned : Signed "9223372036854775808ns".toList false
      (written [.ofNanoseconds 9223372036854775808]) := textEq ▸ .bare _
  have beyond : limit < nanoseconds [.ofNanoseconds 9223372036854775808] := by
    rw [nanoseconds_ofNanoseconds]
    norm_num [limit]
  have reads : read "9223372036854775808ns" = .ok longest :=
    toOption_eq_some_iff.mp (by decide +kernel)
  obtain ⟨complaint, refused⟩ := keeps false _ isSigned beyond
  rw [reads] at refused
  contradiction

end Duration

end ProxyLauncher
