import ProxyLauncher.Proofs.Number.Digits

/-!
# Integers that are too long

A text can be an integer in plain decimal and still not be converted, because it
has too many digits.  `Overlong` says so of a text.  The plain reader tells such
texts from those that are no integers at all.
-/

namespace ProxyLauncher.Number.Integer

/-- A text is an integer in plain decimal with so many digits that it is not converted. -/
inductive Overlong : List Char → Nat → Prop
  | intro {text digits : List Char} {negative : Bool} (isSigned : Signed text negative digits)
      (numeral : IsNumeral digits) (long : digitLimit < digits.length) :
      Overlong text digits.length

variable {text : List Char}

/-- A text is an integer exactly when it is digits behind at most one sign. -/
theorem exists_spells_iff :
    (∃ value, Spells text value) ↔ ∃ negative digits, Signed text negative digits ∧
      IsNumeral digits := by
  constructor
  · rintro ⟨_, spells⟩
    cases spells with
    | unsigned numeral => exact ⟨false, _, .bare _, numeral⟩
    | positive numeral => exact ⟨false, _, .plus _, numeral⟩
    | negative numeral => exact ⟨true, _, .minus _, numeral⟩
  · rintro ⟨negative, digits, isSigned, numeral⟩
    cases isSigned with
    | bare => exact ⟨_, .unsigned numeral⟩
    | plus => exact ⟨_, .positive numeral⟩
    | minus => exact ⟨_, .negative numeral⟩

/-- The plain reader finds no integer exactly in texts that are none. -/
theorem readPlain_eq_malformed_iff :
    readPlain text = .error .malformed ↔ ∀ value, ¬ Spells text value := by
  rw [← not_exists, exists_spells_iff]
  constructor
  · rintro reads ⟨negative, digits, isSigned, numeral⟩
    rw [readPlain, isSigned.splitSign_eq numeral.unsigned] at reads
    dsimp only at reads
    rw [isNumeral_iff.mp numeral, if_neg Bool.false_ne_true] at reads
    split at reads <;> cases reads
  · intro none
    have plain : ((splitSign text).2.isEmpty || !(splitSign text).2.all isAsciiDigit) = true := by
      rw [← Bool.not_eq_false, ← isNumeral_iff]
      intro numeral
      exact none ⟨_, _, signed_splitSign text, numeral⟩
    unfold readPlain
    dsimp only
    rw [if_pos plain]

/-- The plain reader finds too many digits exactly in texts that are too long. -/
theorem readPlain_eq_tooManyDigits_iff {count : Nat} :
    readPlain text = .error (.tooManyDigits count) ↔ Overlong text count := by
  constructor
  · intro reads
    have isSigned := signed_splitSign text
    unfold readPlain at reads
    dsimp only at reads
    split at reads
    case isTrue => cases reads
    case isFalse plain =>
      split at reads
      case isFalse => cases reads
      case isTrue long =>
        cases reads
        exact .intro isSigned (isNumeral_iff.mpr (Bool.not_eq_true _ ▸ plain)) long
  · rintro ⟨isSigned, numeral, long⟩
    rw [readPlain, isSigned.splitSign_eq numeral.unsigned]
    dsimp only
    rw [isNumeral_iff.mp numeral, if_neg Bool.false_ne_true, if_pos long]

/-- One digit over and over, often enough. -/
theorem overlong_replicate {digit : Char} {count : Nat} (ascii : isAsciiDigit digit = true)
    (long : digitLimit < count) : Overlong (List.replicate count digit) count := by
  have numeral : IsNumeral (List.replicate count digit) := by
    refine ⟨?_, ?_⟩
    · rw [ne_eq, List.replicate_eq_nil_iff]
      omega
    · intro other mem
      rw [List.eq_of_mem_replicate mem]
      exact ascii
  have overlong := Overlong.intro (.bare (List.replicate count digit)) numeral
    (by rwa [List.length_replicate])
  rwa [List.length_replicate] at overlong

end ProxyLauncher.Number.Integer
