import ProxyLauncher.Duration
import ProxyLauncher.Proofs.Number.Digits
import ProxyLauncher.Proofs.Number.Sign

/-!
# Written durations

A duration is written as an optional sign and either a lone zero or groups of an
amount and a unit.  `WrittenGroup` is one group as it stands in a text, with the
rational that its amount is, and `Denotes` says which seconds a text is.

An amount consists of digits and points and a unit of letters, so a text can be
taken apart into groups in one way only.
-/

namespace ProxyLauncher

open Number

/-- The spellings of a unit.  Microseconds have three: with a Latin letter, with the micro sign and
with the Greek letter. -/
def TimeUnit.spellings : TimeUnit → List (List Char)
  | .nanosecond => [['n', 's']]
  | .microsecond => [['u', 's'], ['\u00b5', 's'], ['\u03bc', 's']]
  | .millisecond => [['m', 's']]
  | .second => [['s']]
  | .minute => [['m']]
  | .hour => [['h']]

namespace Duration

open Integer

/-! ## Groups as they are written -/

/-- The rational that an amount is: digits, which a point and more digits may follow, or a point and
at least one digit. -/
inductive IsAmount : List Char → Rat → Prop
  | whole {digits : List Char} (numeral : IsNumeral digits) :
      IsAmount digits (magnitude digits)
  | pointed {digits fraction : List Char} (numeral : IsNumeral digits)
      (ascii : ∀ digit ∈ fraction, isAsciiDigit digit = true) :
      IsAmount (digits ++ '.' :: fraction)
        (magnitude digits + magnitude fraction / 10 ^ fraction.length)
  | fractional {fraction : List Char} (numeral : IsNumeral fraction) :
      IsAmount ('.' :: fraction) (magnitude fraction / 10 ^ fraction.length)

/-- A group as it is written: its amount and its unit, each as a text and as what it means. -/
@[ext]
structure WrittenGroup where
  number : List Char
  amount : Rat
  spelling : List Char
  unit : TimeUnit
  isAmount : IsAmount number amount
  isSpelling : spelling ∈ unit.spellings

/-- The text of a group. -/
def WrittenGroup.text (group : WrittenGroup) : List Char :=
  group.number ++ group.spelling

/-- The seconds of a group: the number nearest to the amount, times the length of the unit. -/
def WrittenGroup.seconds (group : WrittenGroup) : Binary64 :=
  (Binary64.roundMagnitude false group.amount).mul group.unit.seconds

/-- The text of several groups. -/
def written (groups : List WrittenGroup) : List Char :=
  groups.flatMap WrittenGroup.text

/-- The seconds of several groups, added up from left to right. -/
def sum (groups : List WrittenGroup) : Binary64 :=
  (groups.map WrittenGroup.seconds).foldl Binary64.add (.zeroOf false)

/-- The seconds that a text is.  The sign comes last, and a lone zero has none. -/
inductive Denotes : List Char → Binary64 → Prop
  | zero {text : List Char} {negative : Bool} (isSigned : Signed text negative ['0']) :
      Denotes text (.zeroOf false)
  | sum {text : List Char} {negative : Bool} {groups : List WrittenGroup}
      (isSigned : Signed text negative (written groups)) (nonempty : groups ≠ [])
      (finite : (sum groups).isFinite = true) (bounded : longest.less (sum groups) = false) :
      Denotes text (if negative then (sum groups).negate else sum groups)

/-! ## Characters -/

/-- The characters of amounts. -/
def isAmountCharacter (character : Char) : Bool :=
  character == '.' || isAsciiDigit character

theorem isAmountCharacter_of_digit {character : Char} (digit : isAsciiDigit character = true) :
    isAmountCharacter character = true := by
  simp [isAmountCharacter, digit]

theorem isSign_of_isAmountCharacter {character : Char}
    (ofAmount : isAmountCharacter character = true) : isSign character = false := by
  simp only [isAmountCharacter, Bool.or_eq_true, beq_iff_eq] at ofAmount
  rcases ofAmount with rfl | digit
  · rfl
  · exact isSign_of_digit digit

theorem IsAmount.ne_nil {number : List Char} {amount : Rat} (isAmount : IsAmount number amount) :
    number ≠ [] := by
  cases isAmount with
  | whole numeral => exact numeral.1
  | pointed => simp
  | fractional => simp

theorem IsAmount.characters {number : List Char} {amount : Rat}
    (isAmount : IsAmount number amount) :
    ∀ character ∈ number, isAmountCharacter character = true := by
  intro character member
  cases isAmount with
  | whole numeral => exact isAmountCharacter_of_digit (numeral.2 character member)
  | pointed numeral ascii =>
      rcases List.mem_append.mp member with front | back
      · exact isAmountCharacter_of_digit (numeral.2 character front)
      · rcases List.mem_cons.mp back with rfl | later
        · rfl
        · exact isAmountCharacter_of_digit (ascii character later)
  | fractional numeral =>
      rcases List.mem_cons.mp member with rfl | later
      · rfl
      · exact isAmountCharacter_of_digit (numeral.2 character later)

theorem spelling_ne_nil {unit : TimeUnit} {spelling : List Char}
    (isSpelling : spelling ∈ unit.spellings) : spelling ≠ [] := by
  rintro rfl
  cases unit <;> simp [TimeUnit.spellings] at isSpelling

theorem spelling_characters {unit : TimeUnit} {spelling : List Char}
    (isSpelling : spelling ∈ unit.spellings) :
    ∀ character ∈ spelling, isAmountCharacter character = false := by
  have letters : ∀ listed ∈ unit.spellings,
      listed.all (fun character => !isAmountCharacter character) = true := by
    cases unit <;> decide
  intro character member
  simpa using List.all_eq_true.mp (letters spelling isSpelling) character member

/-- No two units share a spelling. -/
theorem unit_unique {unit other : TimeUnit} {spelling : List Char}
    (isSpelling : spelling ∈ unit.spellings) (isOther : spelling ∈ other.spellings) :
    unit = other := by
  have apart : ∀ listed ∈ unit.spellings, listed ∈ other.spellings → unit = other := by
    cases unit <;> cases other <;> decide
  exact apart spelling isSpelling isOther

end Duration

end ProxyLauncher
