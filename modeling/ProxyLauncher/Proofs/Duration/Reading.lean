import Mathlib.Data.List.TakeWhile
import Mathlib.Tactic.FieldSimp
import ProxyLauncher.Proofs.Duration.Grammar
import ProxyLauncher.Proofs.Number.ReadBack

/-!
# Reading written groups

The reader takes the longest amount, then the longest unit, and never looks
back.  That is right because the characters of amounts and of units are apart:
where one ends and the other begins can be seen from the text alone.

So the reader takes exactly the texts that are made of groups, and gives each
group the seconds it has.  A text is made of groups in one way at most.
-/

namespace ProxyLauncher.Duration

open Number Integer

/-! ## Amounts -/

theorem toRat_decimalOf (whole fraction : List Char) :
    (decimalOf whole fraction).toRat =
      magnitude whole + magnitude fraction / 10 ^ fraction.length := by
  rw [decimalOf, numberOfDigits_map_asciiDigitValue, magnitude_append, Decimal.toRat,
    zpow_neg, zpow_natCast]
  push_cast
  field_simp

theorem isAmountCharacter_eq_false {character : Char}
    (apart : isAmountCharacter character = false) :
    character ≠ '.' ∧ isAsciiDigit character = false := by
  simpa [isAmountCharacter] using apart

/-- Digits and a point are found at the end of the digits. -/
theorem span_digits {digits rest : List Char}
    (ascii : ∀ digit ∈ digits, isAsciiDigit digit = true)
    (stops : ∀ character, rest.head? = some character → isAsciiDigit character = false) :
    (digits ++ rest).takeWhile isAsciiDigit = digits ∧
      (digits ++ rest).dropWhile isAsciiDigit = rest :=
  Binary64.span_append ascii stops

/-- An amount is read up to where its characters end. -/
theorem readDecimal?_append {number rest : List Char} {amount : Rat}
    (isAmount : IsAmount number amount)
    (stops : ∀ character, rest.head? = some character → isAmountCharacter character = false) :
    ∃ decimal, readDecimal? (number ++ rest) = some (decimal, rest) ∧ decimal.toRat = amount := by
  have digitless : ∀ character, rest.head? = some character →
      isAsciiDigit character = false := by
    intro character first
    exact (isAmountCharacter_eq_false (stops character first)).2
  unfold readDecimal?
  cases isAmount with
  | whole numeral =>
      obtain ⟨front, back⟩ := span_digits numeral.2 digitless
      refine ⟨decimalOf number [], ?_, by simp [toRat_decimalOf, magnitude]⟩
      dsimp only
      rw [front, back]
      split
      · exact absurd rfl (isAmountCharacter_eq_false (stops '.' rfl)).1
      · rw [if_neg (by simpa using numeral.1)]
  | @pointed digits fraction numeral ascii =>
      have atPoint : ∀ character, ('.' :: (fraction ++ rest)).head? = some character →
          isAsciiDigit character = false := by
        rintro character ⟨⟩
        rfl
      obtain ⟨front, back⟩ := span_digits numeral.2 atPoint
      obtain ⟨fractionFront, fractionBack⟩ := span_digits ascii digitless
      refine ⟨decimalOf digits fraction, ?_, toRat_decimalOf digits fraction⟩
      dsimp only
      rw [List.append_assoc, List.cons_append, front, back]
      simp only
      rw [fractionFront, fractionBack, if_neg (by simp [numeral.1])]
  | @fractional fraction numeral =>
      obtain ⟨fractionFront, fractionBack⟩ := span_digits numeral.2 digitless
      refine ⟨decimalOf [] fraction, ?_, by simp [toRat_decimalOf, magnitude]⟩
      have pointless : isAsciiDigit '.' = false := rfl
      rw [List.cons_append, List.takeWhile_cons, List.dropWhile_cons, pointless]
      simp only [Bool.false_eq_true, if_false]
      rw [fractionFront, fractionBack, if_neg (by simp [numeral.1])]

theorem digits_takeWhile (text : List Char) :
    ∀ digit ∈ text.takeWhile isAsciiDigit, isAsciiDigit digit = true :=
  fun _ member => List.mem_takeWhile_imp member

/-- What is read as an amount is one. -/
theorem isAmount_of_readDecimal? {text rest : List Char} {decimal : Decimal}
    (reads : readDecimal? text = some (decimal, rest)) :
    ∃ number, text = number ++ rest ∧ IsAmount number decimal.toRat := by
  have whole := List.takeWhile_append_dropWhile (p := isAsciiDigit) (l := text)
  have wholeDigits := digits_takeWhile text
  unfold readDecimal? at reads
  dsimp only at reads
  generalize text.takeWhile isAsciiDigit = digits at reads whole wholeDigits
  split at reads
  case h_1 afterPoint dropped =>
    rw [dropped] at whole
    have after := List.takeWhile_append_dropWhile (p := isAsciiDigit) (l := afterPoint)
    have fractionDigits := digits_takeWhile afterPoint
    generalize afterPoint.takeWhile isAsciiDigit = fraction at reads after fractionDigits
    split at reads
    · contradiction
    · rename_i present
      cases reads
      rw [toRat_decimalOf]
      by_cases wholeless : digits = []
      · subst wholeless
        have numeral : IsNumeral fraction := ⟨by simpa using present, fractionDigits⟩
        refine ⟨'.' :: fraction, ?_, by simpa [magnitude] using IsAmount.fractional numeral⟩
        rw [List.cons_append, after, ← whole, List.nil_append]
      · refine ⟨digits ++ '.' :: fraction, ?_, .pointed ⟨wholeless, wholeDigits⟩ fractionDigits⟩
        rw [List.append_assoc, List.cons_append, after, whole]
  case h_2 =>
    split at reads
    · contradiction
    · rename_i present
      cases reads
      have numeral : IsNumeral digits := ⟨by simpa using present, wholeDigits⟩
      refine ⟨digits, whole.symm, ?_⟩
      rw [toRat_decimalOf]
      simpa [magnitude] using IsAmount.whole numeral

/-- A text is one amount at most. -/
theorem IsAmount.unique {number : List Char} {amount other : Rat}
    (isAmount : IsAmount number amount) (isOther : IsAmount number other) : amount = other := by
  have ends : ∀ character, ([] : List Char).head? = some character →
      isAmountCharacter character = false := by
    rintro character ⟨⟩
  obtain ⟨decimal, reads, rfl⟩ := readDecimal?_append isAmount ends
  obtain ⟨otherDecimal, otherReads, rfl⟩ := readDecimal?_append isOther ends
  rw [reads] at otherReads
  cases otherReads
  rfl

/-! ## Units -/

/-- A unit is read, unless what follows makes it a longer one. -/
theorem readUnit?_append {spelling rest : List Char} {unit : TimeUnit}
    (isSpelling : spelling ∈ unit.spellings) (stops : rest.head? ≠ some 's') :
    readUnit? (spelling ++ rest) = some (unit, rest) := by
  cases unit with
  | minute =>
      cases List.mem_singleton.mp isSpelling
      cases rest with
      | nil => rfl
      | cons next others =>
          have apart : next ≠ 's' := by
            rintro rfl
            exact stops rfl
          simp [readUnit?, apart]
  | microsecond =>
      simp only [TimeUnit.spellings, List.mem_cons, List.not_mem_nil, or_false] at isSpelling
      rcases isSpelling with rfl | rfl | rfl <;> rfl
  | _ =>
      cases List.mem_singleton.mp isSpelling
      rfl

/-- What is read as a unit is one. -/
theorem isSpelling_of_readUnit? {text rest : List Char} {unit : TimeUnit}
    (reads : readUnit? text = some (unit, rest)) :
    ∃ spelling, text = spelling ++ rest ∧ spelling ∈ unit.spellings := by
  unfold readUnit? at reads
  split at reads
  case h_2 rest =>
    cases reads
    exact ⟨['u', 's'], rfl, by simp [TimeUnit.spellings]⟩
  case h_3 rest =>
    cases reads
    exact ⟨['\u00b5', 's'], rfl, by simp [TimeUnit.spellings]⟩
  case h_4 rest =>
    cases reads
    exact ⟨['\u03bc', 's'], rfl, by simp [TimeUnit.spellings]⟩
  case h_9 => contradiction
  all_goals
    cases reads
    simp [TimeUnit.spellings]

/-! ## Groups -/

/-- The seconds of a group depend on the rational that its amount is, not on how it is kept. -/
theorem seconds_eq_of_amount {group : Group} {written : WrittenGroup}
    (amount : group.amount.toRat = written.amount) (unit : group.unit = written.unit) :
    group.seconds = written.seconds := by
  rw [WrittenGroup.seconds, ← amount, ← unit]
  rfl

theorem WrittenGroup.head?_text (group : WrittenGroup) (rest : List Char) :
    ∀ character, (group.text ++ rest).head? = some character →
      isAmountCharacter character = true := by
  intro character first
  obtain ⟨front, others, numberEq⟩ := List.exists_cons_of_ne_nil group.isAmount.ne_nil
  rw [WrittenGroup.text, numberEq] at first
  cases first
  apply group.isAmount.characters
  rw [numberEq]
  exact List.mem_cons_self

theorem head?_written (groups : List WrittenGroup) :
    ∀ character, (written groups).head? = some character → isAmountCharacter character = true := by
  cases groups with
  | nil =>
      rintro character ⟨⟩
  | cons group rest => exact group.head?_text (written rest)

theorem unsigned_written (groups : List WrittenGroup) :
    ∀ character, (written groups).head? = some character → isSign character = false := by
  intro character first
  exact isSign_of_isAmountCharacter (head?_written groups character first)

/-- The spelling of a unit starts with no character of an amount. -/
theorem head?_spelling {unit : TimeUnit} {spelling : List Char}
    (isSpelling : spelling ∈ unit.spellings) (rest : List Char) :
    ∀ character, (spelling ++ rest).head? = some character →
      isAmountCharacter character = false := by
  intro character first
  obtain ⟨front, others, rfl⟩ := List.exists_cons_of_ne_nil (spelling_ne_nil isSpelling)
  cases first
  exact spelling_characters isSpelling character List.mem_cons_self

/-- A group is read from its text when nothing or another amount follows. -/
theorem readGroup?_append (written : WrittenGroup) {rest : List Char}
    (starts : ∀ character, rest.head? = some character → isAmountCharacter character = true) :
    ∃ group, readGroup? (written.text ++ rest) = some (group, rest) ∧
      group.seconds = written.seconds := by
  obtain ⟨decimal, amountRead, amount⟩ :=
    readDecimal?_append written.isAmount (head?_spelling written.isSpelling rest)
  have alone : rest.head? ≠ some 's' := by
    intro first
    exact absurd (starts 's' first) (by decide)
  have unitRead := readUnit?_append written.isSpelling alone
  refine ⟨⟨decimal, written.unit⟩, ?_, seconds_eq_of_amount amount rfl⟩
  rw [WrittenGroup.text, List.append_assoc, readGroup?, amountRead]
  simp only [unitRead]

/-- What is read as a group is one. -/
theorem exists_written_of_readGroup? {text rest : List Char} {group : Group}
    (reads : readGroup? text = some (group, rest)) :
    ∃ written : WrittenGroup, text = written.text ++ rest ∧ group.seconds = written.seconds := by
  unfold readGroup? at reads
  split at reads
  case h_2 => contradiction
  case h_1 decimal afterAmount amountRead =>
    split at reads
    case h_2 => contradiction
    case h_1 unit afterUnit unitRead =>
      cases reads
      obtain ⟨number, rfl, isAmount⟩ := isAmount_of_readDecimal? amountRead
      obtain ⟨spelling, rfl, isSpelling⟩ := isSpelling_of_readUnit? unitRead
      refine ⟨⟨number, _, spelling, unit, isAmount, isSpelling⟩, ?_, seconds_eq_of_amount rfl rfl⟩
      rw [WrittenGroup.text, List.append_assoc]

/-- Groups are read from their text, one after the other. -/
theorem readGroups?_written (written : List WrittenGroup) :
    ∃ groups, readGroups? (Duration.written written) = some groups ∧
      groups.map Group.seconds = written.map WrittenGroup.seconds := by
  induction written with
  | nil =>
      refine ⟨[], ?_, rfl⟩
      rw [readGroups?]
      rfl
  | cons first rest ih =>
      obtain ⟨groups, restRead, restSeconds⟩ := ih
      obtain ⟨group, firstRead, firstSeconds⟩ := readGroup?_append first (head?_written rest)
      have nonempty : (first.text ++ Duration.written rest).isEmpty = false := by
        simp [WrittenGroup.text, first.isAmount.ne_nil]
      refine ⟨group :: groups, ?_, by rw [List.map_cons, List.map_cons, firstSeconds, restSeconds]⟩
      rw [Duration.written, List.flatMap_cons, ← Duration.written, readGroups?, nonempty]
      simp only [Bool.false_eq_true, if_false]
      split
      · rename_i found
        rw [firstRead] at found
        cases found
        rw [restRead]
        rfl
      · rename_i missed
        rw [firstRead] at missed
        contradiction

/-- What is read as groups is made of groups. -/
theorem exists_written_of_readGroups? {text : List Char} {groups : List Group}
    (reads : readGroups? text = some groups) :
    ∃ written, text = Duration.written written ∧
      groups.map Group.seconds = written.map WrittenGroup.seconds := by
  fun_induction readGroups? text generalizing groups with
  | case1 text empty =>
      cases reads
      exact ⟨[], List.isEmpty_iff.mp empty, rfl⟩
  | case2 text nonempty group rest taken ih =>
      obtain ⟨others, restRead, rfl⟩ := Option.map_eq_some_iff.mp reads
      obtain ⟨written, rfl, secondsEq⟩ := ih restRead
      obtain ⟨first, rfl, firstEq⟩ := exists_written_of_readGroup? taken
      exact ⟨first :: written, rfl, by rw [List.map_cons, List.map_cons, firstEq, secondsEq]⟩
  | case3 => contradiction

/-! ## Taking a text apart -/

/-- The first group of a text ends where its unit does. -/
theorem text_append_injective {first second : WrittenGroup} {rest others : List Char}
    (starts : ∀ character, rest.head? = some character → isAmountCharacter character = true)
    (othersStart : ∀ character, others.head? = some character →
      isAmountCharacter character = true)
    (same : first.text ++ rest = second.text ++ others) : first = second ∧ rest = others := by
  rw [WrittenGroup.text, WrittenGroup.text, List.append_assoc, List.append_assoc] at same
  obtain ⟨number, afterNumber⟩ := Binary64.span_append first.isAmount.characters
    (head?_spelling first.isSpelling rest)
  obtain ⟨otherNumber, afterOther⟩ := Binary64.span_append second.isAmount.characters
    (head?_spelling second.isSpelling others)
  rw [same, otherNumber] at number
  rw [same, afterOther] at afterNumber
  -- The spelling ends where the next amount begins.
  have ends {text : List Char} (starts : ∀ character, text.head? = some character →
      isAmountCharacter character = true) (character : Char)
      (front : text.head? = some character) : (!isAmountCharacter character) = false := by
    rw [starts character front]
    rfl
  have letters (group : WrittenGroup) :
      ∀ character ∈ group.spelling, (!isAmountCharacter character) = true := by
    intro character member
    rw [spelling_characters group.isSpelling character member]
    rfl
  obtain ⟨spelling, afterSpelling⟩ := Binary64.span_append (letters first) (ends starts)
  obtain ⟨otherSpelling, afterOtherSpelling⟩ :=
    Binary64.span_append (letters second) (ends othersStart)
  rw [← afterNumber, otherSpelling] at spelling
  rw [← afterNumber, afterOtherSpelling] at afterSpelling
  refine ⟨?_, afterSpelling.symm⟩
  have amount := first.isAmount
  have isSpelling := first.isSpelling
  rw [← number] at amount
  rw [← spelling] at isSpelling
  exact WrittenGroup.ext number.symm (amount.unique second.isAmount) spelling.symm
    (unit_unique isSpelling second.isSpelling)

/-- A text is made of groups in one way at most. -/
theorem written_injective {groups others : List WrittenGroup}
    (same : written groups = written others) : groups = others := by
  induction groups generalizing others with
  | nil =>
      cases others with
      | nil => rfl
      | cons second rest =>
          have nonempty := second.isAmount.ne_nil
          simp [written, WrittenGroup.text, nonempty] at same
  | cons first rest ih =>
      cases others with
      | nil =>
          have nonempty := first.isAmount.ne_nil
          simp [written, WrittenGroup.text, nonempty] at same
      | cons second more =>
          obtain ⟨rfl, restSame⟩ :=
            text_append_injective (head?_written rest) (head?_written more) same
          rw [ih restSame]

end ProxyLauncher.Duration
