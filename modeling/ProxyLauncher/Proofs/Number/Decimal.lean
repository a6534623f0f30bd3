import Mathlib.Data.List.Induction
import Mathlib.Data.Nat.Digits.Defs
import ProxyLauncher.Number.Integer

/-!
# Integers in decimal

`Spells` says which texts are an integer in plain decimal and which integer that
is: digits with an optional sign in front, the last digit counting units.  The
plain reader takes only such texts.
-/

namespace ProxyLauncher.Number.Integer

open ProxyLauncher.Text

/-- The number that ASCII digits spell, the last one counting units. -/
def magnitude (digits : List Char) : Nat :=
  Nat.ofDigits 10 (digits.reverse.map asciiDigitValue)

/-- One or more ASCII digits. -/
def IsNumeral (digits : List Char) : Prop :=
  digits ≠ [] ∧ ∀ digit ∈ digits, isAsciiDigit digit = true

theorem isNumeral_iff {digits : List Char} :
    IsNumeral digits ↔ (digits.isEmpty || !digits.all isAsciiDigit) = false := by
  simp [IsNumeral]

/-- The integer that a text is in plain decimal. -/
inductive Spells : List Char → Int → Prop
  | unsigned {digits : List Char} (numeral : IsNumeral digits) :
      Spells digits (magnitude digits)
  | positive {digits : List Char} (numeral : IsNumeral digits) :
      Spells ('+' :: digits) (magnitude digits)
  | negative {digits : List Char} (numeral : IsNumeral digits) :
      Spells ('-' :: digits) (-(magnitude digits : Int))

/-- Adding up digits from the front is the positional value. -/
theorem numberOfDigits_eq_ofDigits (digits : List Nat) :
    numberOfDigits digits = Nat.ofDigits 10 digits.reverse := by
  induction digits using List.reverseRecOn with
  | nil => rfl
  | append_singleton front last ih =>
      rw [numberOfDigits_concat, List.reverse_append, ih]
      simp [Nat.ofDigits_cons, Nat.add_comm]

theorem numberOfDigits_map_asciiDigitValue (digits : List Char) :
    numberOfDigits (digits.map asciiDigitValue) = magnitude digits := by
  rw [numberOfDigits_eq_ofDigits, ← List.map_reverse, magnitude]

theorem spells_of_splitSign {text : List Char} (numeral : IsNumeral (splitSign text).2) :
    Spells text (signed (splitSign text).1 (magnitude (splitSign text).2)) := by
  unfold splitSign at numeral ⊢
  split at numeral
  · exact .positive numeral
  · exact .negative numeral
  · exact .unsigned numeral

/-- The plain reader takes digits with an optional sign, up to the limit. -/
theorem readPlain_eq_ok_iff {text : List Char} {value : Int} :
    readPlain text = .ok value ↔
      IsNumeral (splitSign text).2 ∧ (splitSign text).2.length ≤ digitLimit ∧
        value = signed (splitSign text).1 (numberOfDigits ((splitSign text).2.map asciiDigitValue)) := by
  unfold readPlain
  dsimp only
  rw [isNumeral_iff]
  cases (splitSign text).2.isEmpty || !(splitSign text).2.all isAsciiDigit with
  | true => simp
  | false =>
      by_cases long : digitLimit < (splitSign text).2.length
      · simp [long]
      · simp [long, Nat.le_of_not_lt long, eq_comm]

/-- The plain reader takes only integers in plain decimal. -/
theorem spells_of_readPlain {text : List Char} {value : Int}
    (reads : readPlain text = .ok value) : Spells text value := by
  rcases readPlain_eq_ok_iff.mp reads with ⟨numeral, _, rfl⟩
  rw [numberOfDigits_map_asciiDigitValue]
  exact spells_of_splitSign numeral

/-! ## The lenient reader -/

theorem isAsciiDigit_iff {character : Char} :
    isAsciiDigit character = true ↔ 0x30 ≤ character.toNat ∧ character.toNat ≤ 0x39 := by
  rw [isAsciiDigit, Bool.and_eq_true, decide_eq_true_iff, decide_eq_true_iff]
  exact Iff.rfl

/-- An ASCII digit is a digit of the first script. -/
theorem digitValue?_of_ascii {digit : Char} (ascii : isAsciiDigit digit = true) :
    digitValue? digit = some (asciiDigitValue digit) := by
  rcases isAsciiDigit_iff.mp ascii with ⟨reached, within⟩
  have below : digit.toNat < 0x30 + 10 := by omega
  unfold digitValue? zeroDigits
  rw [List.find?_cons_of_pos]
  · rfl
  · simp [reached, below]

theorem isBlank_of_ascii {digit : Char} (ascii : isAsciiDigit digit = true) :
    isBlank digit = false := by
  rcases isAsciiDigit_iff.mp ascii with ⟨reached, within⟩
  have apart : ∀ range ∈ blankRanges, range.2 < 0x30 ∨ 0x39 < range.1 := by decide
  rw [← Bool.not_eq_true, isBlank_iff]
  rintro ⟨range, listed, above, below⟩
  have outside := apart range listed
  omega

/-- Digits without underscores between them are read one by one. -/
theorem separatedDigits?_of_numeral {digits : List Char} (numeral : IsNumeral digits) :
    separatedDigits? digits = some (digits.map asciiDigitValue) := by
  rcases numeral with ⟨nonempty, ascii⟩
  induction digits with
  | nil => contradiction
  | cons digit rest ih =>
      have value := digitValue?_of_ascii (ascii digit List.mem_cons_self)
      -- The reader looks one character ahead for an underscore.
      cases rest with
      | nil => simp [separatedDigits?, value]
      | cons next others =>
          have restAscii : ∀ other ∈ next :: others, isAsciiDigit other = true := by
            intro other member
            exact ascii other (List.mem_cons_of_mem digit member)
          have apart : next ≠ '_' := by
            rintro rfl
            exact absurd (restAscii '_' List.mem_cons_self) (by decide)
          have restValues := ih (by simp) restAscii
          rw [separatedDigits?, value, restValues]
          · rfl
          · simp
          · rintro others ⟨⟩
            exact apart rfl

theorem dropWhile_isBlank_eq_self {text : List Char}
    (clean : ∀ character ∈ text, isBlank character = false) :
    text.dropWhile isBlank = text := by
  cases text with
  | nil => rfl
  | cons first rest =>
      have visible := clean first List.mem_cons_self
      rw [List.dropWhile_cons_of_neg (by simp [visible])]

/-- Nothing is trimmed from a text without blanks. -/
theorem trimBlanks_eq_self {text : List Char}
    (clean : ∀ character ∈ text, isBlank character = false) : trimBlanks text = text := by
  have cleanBackwards : ∀ character ∈ text.reverse, isBlank character = false := by
    intro character member
    exact clean character (List.mem_reverse.mp member)
  rw [trimBlanks, dropWhile_isBlank_eq_self clean, dropWhile_isBlank_eq_self cleanBackwards,
    List.reverse_reverse]

/-- An integer in plain decimal has no blanks. -/
theorem Spells.clean {text : List Char} {value : Int} (spells : Spells text value) :
    ∀ character ∈ text, isBlank character = false := by
  intro character member
  cases spells with
  | unsigned numeral => exact isBlank_of_ascii (numeral.2 character member)
  | positive numeral =>
      rcases List.mem_cons.mp member with rfl | later
      · rfl
      · exact isBlank_of_ascii (numeral.2 character later)
  | negative numeral =>
      rcases List.mem_cons.mp member with rfl | later
      · rfl
      · exact isBlank_of_ascii (numeral.2 character later)

/-- What the plain reader takes, the lenient one reads alike. -/
theorem readLenient?_of_readPlain {text : List Char} {value : Int}
    (reads : readPlain text = .ok value) : readLenient? text = some value := by
  have trimmed := trimBlanks_eq_self (spells_of_readPlain reads).clean
  rcases readPlain_eq_ok_iff.mp reads with ⟨numeral, within, rfl⟩
  have short : ¬ digitLimit < (splitSign text).2.length := by omega
  unfold readLenient?
  dsimp only
  rw [trimmed, separatedDigits?_of_numeral numeral]
  simp only [List.length_map, if_neg short]

end ProxyLauncher.Number.Integer
