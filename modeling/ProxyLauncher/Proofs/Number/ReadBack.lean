import ProxyLauncher.Proofs.Number.Digits
import ProxyLauncher.Proofs.Number.Shortest

/-!
# Written numbers read back

A number is read from a whole part, a fraction and an exponent, of which only
the whole part must be there, and is the one nearest to the decimal that they
make.  `Spells` says which decimal a text is.

The text of a finite number spells its shortest decimal, which rounds to the
number, so it reads back to exactly that number, also as to the sign of zero.
-/

namespace ProxyLauncher.Number.Binary64

open Integer

/-! ## Reading -/

/-- One or more digits, of which the first is not zero unless it is the only one. -/
def isWhole (digits : List Char) : Bool :=
  !digits.isEmpty && digits.all isAsciiDigit && (digits.length == 1 || digits.head? != some '0')

/-- Nothing, or a point with one or more digits behind it. -/
def isFraction : List Char → Bool
  | [] => true
  | point :: digits => point == '.' && !digits.isEmpty && digits.all isAsciiDigit

/-- The letters in front of an exponent. -/
def isExponentMark (character : Char) : Bool :=
  character == 'e' || character == 'E'

/-- The characters that tell a number from an integer. -/
def isRealMark (character : Char) : Bool :=
  character == '.' || isExponentMark character

/-- The exponent: zero if there is none, and else an integer behind a letter. -/
def exponent? : List Char → Option Int
  | [] => some 0
  | mark :: text =>
    let (negative, digits) := splitSign text
    if isExponentMark mark && !digits.isEmpty && digits.all isAsciiDigit then
      some (signed negative (Integer.magnitude digits))
    else none

/-- Reads a number without a sign, with the sign given. -/
def readSize? (negative : Bool) (text : List Char) : Option Binary64 :=
  let significand := text.takeWhile (!isExponentMark ·)
  let whole := significand.takeWhile (· != '.')
  let fraction := significand.dropWhile (· != '.')
  match exponent? (text.dropWhile (!isExponentMark ·)) with
  | some exponent =>
    if isWhole whole && isFraction fraction then
      some (ofDecimal negative (Integer.magnitude (whole ++ fraction.drop 1))
        (exponent - (fraction.drop 1).length))
    else none
  | none => none

/-- Reads a number. -/
def read? : List Char → Option Binary64
  | '-' :: text => readSize? true text
  | text => readSize? false text

/-! ## What a text spells -/

/-- Digits behind a point, or nothing. -/
def pointed : List Char → List Char
  | [] => []
  | digits => '.' :: digits

/-- The decimal that a text without a sign is.  A point or an exponent tells it from an integer. -/
inductive Spells : List Char → Rat → Prop
  | parts {whole fraction scaling : List Char} {exponent : Int}
      (isWhole : isWhole whole = true) (digits : ∀ digit ∈ fraction, isAsciiDigit digit = true)
      (scaled : exponent? scaling = some exponent) (marked : fraction ≠ [] ∨ scaling ≠ []) :
      Spells (whole ++ pointed fraction ++ scaling)
        (Integer.magnitude (whole ++ fraction) * 10 ^ (exponent - fraction.length))

theorem isExponentMark_of_digit {character : Char} (digit : isAsciiDigit character = true) :
    isExponentMark character = false := by
  by_contra marks
  simp only [Bool.not_eq_false, isExponentMark, Bool.or_eq_true, beq_iff_eq] at marks
  rcases marks with rfl | rfl <;> exact absurd digit (by decide)

theorem ne_point_of_digit {character : Char} (digit : isAsciiDigit character = true) :
    (character != '.') = true := by
  apply bne_iff_ne.mpr
  rintro rfl
  exact absurd digit (by decide)

theorem isRealMark_of_digit {character : Char} (digit : isAsciiDigit character = true) :
    isRealMark character = false := by
  have apart := bne_iff_ne.mp (ne_point_of_digit digit)
  simp [isRealMark, apart, isExponentMark_of_digit digit]

theorem digits_of_isWhole {whole : List Char} (holds : isWhole whole = true) :
    ∀ digit ∈ whole, isAsciiDigit digit = true := by
  simp only [isWhole, Bool.and_eq_true, List.all_eq_true] at holds
  exact holds.1.2

theorem isFraction_pointed {fraction : List Char}
    (digits : ∀ digit ∈ fraction, isAsciiDigit digit = true) :
    isFraction (pointed fraction) = true := by
  cases fraction with
  | nil => rfl
  | cons first rest =>
      rw [pointed, isFraction, List.all_eq_true.mpr digits]
      · rfl
      · simp

theorem drop_pointed (fraction : List Char) : (pointed fraction).drop 1 = fraction := by
  cases fraction <;> rfl

theorem mem_pointed {fraction : List Char} {character : Char}
    (member : character ∈ pointed fraction) : character = '.' ∨ character ∈ fraction := by
  cases fraction with
  | nil => cases member
  | cons first rest => exact List.mem_cons.mp member

theorem point_of_mem_head? {fraction : List Char} {character : Char}
    (first : (pointed fraction).head? = some character) : (character != '.') = false := by
  cases fraction with
  | nil => cases first
  | cons digit rest =>
      cases first
      rfl

theorem mark_of_mem_head? {scaling : List Char} {exponent : Int}
    (scaled : exponent? scaling = some exponent) {character : Char}
    (first : scaling.head? = some character) : (!isExponentMark character) = false := by
  cases scaling with
  | nil => cases first
  | cons mark text =>
      cases first
      by_contra unmarked
      rw [Bool.not_eq_false, Bool.not_eq_true'] at unmarked
      simp [exponent?, unmarked] at scaled

/-- Where all of a text passes a test and what follows it does not, the text is split off. -/
theorem span_append {passes : Char → Bool} {front back : List Char}
    (all : ∀ character ∈ front, passes character = true)
    (stops : ∀ character, back.head? = some character → passes character = false) :
    (front ++ back).takeWhile passes = front ∧ (front ++ back).dropWhile passes = back := by
  rw [List.takeWhile_append_of_pos all, List.dropWhile_append_of_pos all]
  cases back with
  | nil => simp
  | cons first rest => simp [stops first rfl]

theorem unmarked_of_mem_significand {whole fraction : List Char}
    (isWhole : isWhole whole = true) (digits : ∀ digit ∈ fraction, isAsciiDigit digit = true) :
    ∀ character ∈ whole ++ pointed fraction, (!isExponentMark character) = true := by
  intro character member
  rw [Bool.not_eq_true']
  rcases List.mem_append.mp member with early | late
  · exact isExponentMark_of_digit (digits_of_isWhole isWhole character early)
  · rcases mem_pointed late with rfl | digit
    · rfl
    · exact isExponentMark_of_digit (digits character digit)

/-- What a text spells is read, and rounded. -/
theorem readSize?_of_spells {text : List Char} {value : Rat} (spells : Spells text value)
    (negative : Bool) : readSize? negative text = some (roundMagnitude negative value) := by
  cases spells with
  | @parts whole fraction scaling exponent isWhole digits scaled marked =>
      obtain ⟨significand, rest⟩ :=
        span_append (unmarked_of_mem_significand isWhole digits)
          fun character => mark_of_mem_head? scaled
      obtain ⟨front, back⟩ :=
        span_append (fun digit member => ne_point_of_digit (digits_of_isWhole isWhole digit member))
          fun character first => @point_of_mem_head? fraction character first
      unfold readSize?
      dsimp only
      rw [significand, rest, front, back, scaled]
      dsimp only
      rw [isWhole, isFraction_pointed digits, drop_pointed]
      rfl

/-! ## What the layout spells -/

theorem digit_of_mem_zeros {count : Nat} {character : Char} (member : character ∈ zeros count) :
    isAsciiDigit character = true := by
  rw [List.eq_of_mem_replicate member]
  decide

theorem isWhole_of_front {digits : List Char} (numeral : IsNumeral digits)
    (front : digits.head? ≠ some '0') : isWhole digits = true := by
  obtain ⟨nonempty, ascii⟩ := numeral
  simp [isWhole, nonempty, List.all_eq_true.mpr ascii, front]

theorem numeral_zeros_append {digits : List Char} (numeral : IsNumeral digits) (count : Nat) :
    IsNumeral (zeros count ++ digits) := by
  refine ⟨List.append_ne_nil_of_right_ne_nil _ numeral.1, ?_⟩
  intro digit member
  rcases List.mem_append.mp member with zero | later
  · exact digit_of_mem_zeros zero
  · exact numeral.2 digit later

/-- Zeros in front of digits do not count. -/
theorem magnitude_zeros_append (count : Nat) (digits : List Char) :
    Integer.magnitude (zeros count ++ digits) = Integer.magnitude digits := by
  rw [magnitude_append, zeros, magnitude_replicate_zero, Nat.zero_mul, Nat.zero_add]

theorem exponent?_exponentText (exponent : Int) :
    exponent? (exponentText exponent) = some exponent := by
  obtain ⟨nonempty, ascii⟩ := numeral_zeros_append (numeral_toDigits exponent.natAbs)
    (2 - (Nat.toDigits 10 exponent.natAbs).length)
  have valueEq := magnitude_zeros_append (2 - (Nat.toDigits 10 exponent.natAbs).length)
    (Nat.toDigits 10 exponent.natAbs)
  rw [magnitude_toDigits] at valueEq
  unfold exponentText
  dsimp only
  generalize zeros (2 - (Nat.toDigits 10 exponent.natAbs).length) ++
    Nat.toDigits 10 exponent.natAbs = padded at nonempty ascii valueEq ⊢
  have valid : (!padded.isEmpty && padded.all isAsciiDigit) = true := by
    simp [nonempty, List.all_eq_true.mpr ascii]
  have marks : isExponentMark 'e' = true := by decide
  by_cases negative : exponent < 0
  · rw [if_pos negative, exponent?, splitSign]
    dsimp only
    rw [Bool.and_assoc, valid, marks, Bool.and_true, if_pos rfl, signed, if_pos rfl, valueEq]
    congr 1
    omega
  · rw [if_neg negative, exponent?, splitSign]
    dsimp only
    rw [Bool.and_assoc, valid, marks, Bool.and_true, if_pos rfl, signed,
      if_neg Bool.false_ne_true, valueEq]
    congr 1
    omega

theorem pointed_of_ne_nil {fraction : List Char} (nonempty : fraction ≠ []) :
    pointed fraction = '.' :: fraction := by
  cases fraction with
  | nil => contradiction
  | cons first rest => rfl

theorem Spells.of_eq {whole fraction scaling text : List Char} {exponent : Int} {value : Rat}
    (isWhole : isWhole whole = true) (digits : ∀ digit ∈ fraction, isAsciiDigit digit = true)
    (scaled : exponent? scaling = some exponent) (marked : fraction ≠ [] ∨ scaling ≠ [])
    (textEq : text = whole ++ pointed fraction ++ scaling)
    (valueEq : value = Integer.magnitude (whole ++ fraction) * 10 ^ (exponent - fraction.length)) :
    Spells text value := by
  rw [textEq, valueEq]
  exact .parts isWhole digits scaled marked

section Layout

variable {digits : List Char} (numeral : IsNumeral digits) (front : digits.head? ≠ some '0')

include numeral

/-- Small numbers have a zero and the point in front. -/
theorem spells_small {scale : Int} (nonpos : scale ≤ 0) :
    Spells ('0' :: '.' :: (zeros (-scale).toNat ++ digits))
      (Integer.magnitude digits * 10 ^ (scale - digits.length)) := by
  obtain ⟨nonempty, ascii⟩ := numeral_zeros_append numeral (-scale).toNat
  have scaled : exponent? [] = some 0 := rfl
  refine .of_eq (by decide : isWhole ['0'] = true) ascii scaled (.inl nonempty) ?_ ?_
  · rw [pointed_of_ne_nil nonempty]
    simp
  · have valueEq : Integer.magnitude (['0'] ++ (zeros (-scale).toNat ++ digits)) =
        Integer.magnitude digits := by
      change Integer.magnitude (zeros ((-scale).toNat + 1) ++ digits) = _
      exact magnitude_zeros_append _ digits
    have lengthEq : (zeros (-scale).toNat ++ digits).length = (-scale).toNat + digits.length := by
      rw [List.length_append, zeros, List.length_replicate]
    rw [valueEq, lengthEq]
    congr 2
    omega

/-- Very small and very large numbers have an exponent. -/
theorem spells_scientific (scale : Int) :
    Spells (digits.take 1 ++ (if (digits.drop 1).isEmpty then [] else '.' :: digits.drop 1) ++
        exponentText (scale - 1))
      (Integer.magnitude digits * 10 ^ (scale - digits.length)) := by
  obtain ⟨first, rest, rfl⟩ := List.exists_cons_of_ne_nil numeral.1
  have single : isWhole [first] = true := by
    simp [isWhole, numeral.2 first List.mem_cons_self]
  have ascii : ∀ digit ∈ rest, isAsciiDigit digit = true := by
    intro digit member
    exact numeral.2 digit (List.mem_cons_of_mem first member)
  have scaled := exponent?_exponentText (scale - 1)
  refine .of_eq single ascii scaled (.inr (by simp [exponentText])) ?_ ?_
  · cases rest <;> simp [pointed]
  · rw [List.singleton_append, List.length_cons]
    congr 2
    push_cast
    ring

include front

/-- Other numbers have the point between their digits, or behind them and zeros that are added. -/
theorem spells_positional {whole : Nat} (positive : 0 < whole) :
    Spells ((digits ++ zeros (whole + 1 - digits.length)).take whole ++
        '.' :: (digits ++ zeros (whole + 1 - digits.length)).drop whole)
      (Integer.magnitude digits * 10 ^ ((whole : Int) - digits.length)) := by
  generalize countEq : whole + 1 - digits.length = count
  have ascii : ∀ digit ∈ digits ++ zeros count, isAsciiDigit digit = true := by
    intro digit member
    rcases List.mem_append.mp member with early | zero
    · exact numeral.2 digit early
    · exact digit_of_mem_zeros zero
  have lengthEq : (digits ++ zeros count).length = digits.length + count := by
    rw [List.length_append, zeros, List.length_replicate]
  have valueEq : Integer.magnitude (digits ++ zeros count) =
      Integer.magnitude digits * 10 ^ count := by
    rw [magnitude_append, zeros, magnitude_replicate_zero, List.length_replicate, Nat.add_zero]
  have paddedFront : (digits ++ zeros count).head? ≠ some '0' := by
    rwa [List.head?_append, Option.or_of_isSome (List.isSome_head?.mpr numeral.1)]
  generalize digits ++ zeros count = padded at ascii lengthEq valueEq paddedFront ⊢
  have takenNumeral : IsNumeral (padded.take whole) := by
    constructor
    · rw [← List.length_pos_iff, List.length_take]
      omega
    · intro digit member
      exact ascii digit (List.mem_of_mem_take member)
  have takenFront : (padded.take whole).head? ≠ some '0' := by
    rwa [List.head?_take, if_neg positive.ne']
  have behind : padded.drop whole ≠ [] := by
    rw [← List.length_pos_iff, List.length_drop]
    omega
  have behindAscii : ∀ digit ∈ padded.drop whole, isAsciiDigit digit = true := by
    intro digit member
    exact ascii digit (List.mem_of_mem_drop member)
  have scaled : exponent? [] = some 0 := rfl
  refine .of_eq (isWhole_of_front takenNumeral takenFront) behindAscii scaled (.inl behind) ?_ ?_
  · rw [pointed_of_ne_nil behind, List.append_nil]
  · -- The zeros that are added count in the value and among the digits behind the point.
    rw [List.take_append_drop, valueEq, List.length_drop, lengthEq]
    push_cast
    rw [mul_assoc, ← zpow_natCast, ← zpow_add₀ (by norm_num)]
    congr 2
    omega

/-- The layout moves the point, or states an exponent, but spells the same decimal. -/
theorem spells_layout (scale : Int) :
    Spells (layout digits scale) (Integer.magnitude digits * 10 ^ (scale - digits.length)) := by
  unfold layout
  split
  case isTrue positional =>
    split
    case isTrue nonpos => exact spells_small numeral nonpos
    case isFalse positive =>
      obtain ⟨whole, rfl⟩ := Int.eq_ofNat_of_zero_le (show 0 ≤ scale by omega)
      exact spells_positional numeral front (by omega)
  case isFalse scientific => exact spells_scientific numeral scale

end Layout

/-! ## Numbers -/

theorem Within.digits_pos {mantissa : Nat} {exponent : Int} {decimal : Decimal}
    (within : Within mantissa exponent decimal.toRat) (positive : 0 < mantissa) :
    0 < decimal.digits := by
  by_contra none
  have zero : decimal.digits = 0 := by omega
  have sizePos := within.pos positive
  simp [Decimal.toRat, zero] at sizePos

/-- The text of a positive number spells its shortest decimal. -/
theorem spells_magnitudeText {mantissa : Nat} (positive : 0 < mantissa) (exponent : Int) :
    Spells (magnitudeText mantissa exponent) (shortestDecimal mantissa exponent).toRat := by
  have digitsPos := (within_shortestDecimal positive exponent).digits_pos positive
  unfold magnitudeText
  rw [if_neg positive.ne']
  generalize shortestDecimal mantissa exponent = decimal at digitsPos ⊢
  dsimp only
  have spells := spells_layout (numeral_toDigits decimal.digits) (head?_toDigits_ne digitsPos)
    (decimal.exponent + (Nat.toDigits 10 decimal.digits).length)
  rw [magnitude_toDigits, add_sub_cancel_right] at spells
  exact spells

/-- The text of a number spells a decimal that rounds to it. -/
theorem exists_spells {negative : Bool} {mantissa : Nat} {exponent : Int}
    (canonical : Canonical (.finite negative mantissa exponent)) :
    ∃ value, Spells (magnitudeText mantissa exponent) value ∧
      roundMagnitude negative value = .finite negative mantissa exponent := by
  rcases Nat.eq_zero_or_pos mantissa with rfl | positive
  · -- Only the least exponent makes zero canonical.
    obtain ⟨_, _, _, normal⟩ := canonical
    have least := normal.resolve_left (by decide)
    subst least
    have zero : Integer.magnitude (['0'] ++ ['0']) = 0 := rfl
    have spells : Spells (magnitudeText 0 leastExponent) 0 :=
      .of_eq (by decide : isWhole ['0'] = true)
        (List.all_eq_true.mp (by decide) : ∀ digit ∈ ['0'], isAsciiDigit digit = true)
        (rfl : exponent? [] = some 0) (.inl (by decide)) rfl (by rw [zero]; simp)
    exact ⟨0, spells, if_pos rfl⟩
  · exact ⟨_, spells_magnitudeText positive exponent,
      roundMagnitude_shortestDecimal canonical positive⟩

/-- The text of a finite number is a sign and a text that spells a decimal, which rounds to the
number. -/
theorem exists_signed {number : Binary64} (canonical : number.Canonical)
    (finite : number.isFinite = true) (infinity noNumber : String) :
    ∃ negative text value,
      (number.renderWith infinity noNumber).toList = (if negative then ['-'] else []) ++ text ∧
        Spells text value ∧ roundMagnitude negative value = number := by
  cases number with
  | finite negative mantissa exponent =>
      obtain ⟨value, spells, rounded⟩ := exists_spells canonical
      exact ⟨negative, _, value, by rw [renderWith, String.toList_ofList], spells, rounded⟩
  | infinite negative => cases finite
  | notANumber => cases finite

/-- A text that spells a decimal begins with a digit, so the sign in front of it can be told. -/
theorem read?_signed {text : List Char} {value : Rat} (spells : Spells text value)
    (negative : Bool) :
    read? ((if negative then ['-'] else []) ++ text) = some (roundMagnitude negative value) := by
  rw [← readSize?_of_spells spells]
  cases negative with
  | true => rfl
  | false =>
      cases spells with
      | @parts whole fraction scaling exponent isWhole digits scaled marked =>
          have ascii := digits_of_isWhole isWhole
          cases whole with
          | nil => simp [Binary64.isWhole] at isWhole
          | cons first rest =>
              have unsigned : first ≠ '-' := by
                rintro rfl
                exact absurd (ascii '-' List.mem_cons_self) (by decide)
              change read? (first :: _) = readSize? false (first :: _)
              unfold read?
              split
              case h_1 _ signed => exact absurd (List.cons.inj signed).1 unsigned
              case h_2 => rfl

/-- The text of a finite number reads back to that number. -/
theorem read?_renderWith {number : Binary64} (canonical : number.Canonical)
    (finite : number.isFinite = true) (infinity noNumber : String) :
    read? (number.renderWith infinity noNumber).toList = some number := by
  obtain ⟨negative, text, value, written, spells, rounded⟩ :=
    exists_signed canonical finite infinity noNumber
  rw [written, read?_signed spells, rounded]

/-! ## Characters -/

/-- A character of a number. -/
def isNumberCharacter (character : Char) : Bool :=
  isAsciiDigit character || ['+', '-', '.', 'e', 'E'].contains character

theorem isNumberCharacter_of_digit {character : Char} (digit : isAsciiDigit character = true) :
    isNumberCharacter character = true := by
  rw [isNumberCharacter, digit, Bool.true_or]

theorem isNumberCharacter_of_mark {character : Char} (mark : isExponentMark character = true) :
    isNumberCharacter character = true := by
  rw [isExponentMark, Bool.or_eq_true, beq_iff_eq, beq_iff_eq] at mark
  rcases mark with rfl | rfl <;> decide

theorem mem_splitSign {text : List Char} {character : Char} (member : character ∈ text) :
    isNumberCharacter character = true ∨ character ∈ (splitSign text).2 := by
  unfold splitSign
  split
  case h_1 rest =>
    exact (List.mem_cons.mp member).imp (fun sign => by rw [sign]; decide) id
  case h_2 rest =>
    exact (List.mem_cons.mp member).imp (fun sign => by rw [sign]; decide) id
  case h_3 => exact .inr member

theorem numeric_of_exponent? {scaling : List Char} {exponent : Int}
    (scaled : exponent? scaling = some exponent) :
    ∀ character ∈ scaling, isNumberCharacter character = true := by
  cases scaling with
  | nil => simp
  | cons mark text =>
      unfold exponent? at scaled
      dsimp only at scaled
      split at scaled
      case isFalse => cases scaled
      case isTrue valid =>
        simp only [Bool.and_eq_true, List.all_eq_true] at valid
        obtain ⟨⟨isMark, _⟩, digits⟩ := valid
        intro character member
        rcases List.mem_cons.mp member with rfl | later
        · exact isNumberCharacter_of_mark isMark
        · rcases mem_splitSign later with sign | digit
          · exact sign
          · exact isNumberCharacter_of_digit (digits character digit)

section Spells

variable {text : List Char} {value : Rat} (spells : Spells text value)

include spells

theorem Spells.numeric : ∀ character ∈ text, isNumberCharacter character = true := by
  cases spells with
  | @parts whole fraction scaling exponent isWhole digits scaled marked =>
      intro character member
      rcases List.mem_append.mp member with significand | late
      · rcases List.mem_append.mp significand with early | behind
        · exact isNumberCharacter_of_digit (digits_of_isWhole isWhole character early)
        · rcases mem_pointed behind with rfl | digit
          · decide
          · exact isNumberCharacter_of_digit (digits character digit)
      · exact numeric_of_exponent? scaled character late

theorem Spells.any_marked : text.any isRealMark = true := by
  cases spells with
  | @parts whole fraction scaling exponent isWhole digits scaled marked =>
      rcases marked with behind | late
      · rw [pointed_of_ne_nil behind]
        simp [isRealMark]
      · obtain ⟨mark, rest, rfl⟩ := List.exists_cons_of_ne_nil late
        have isMark := mark_of_mem_head? scaled rfl
        rw [Bool.not_eq_false'] at isMark
        simp [isRealMark, isMark]

end Spells

theorem numeric_toString (value : Int) :
    ∀ character ∈ (toString value).toList, isNumberCharacter character = true := by
  intro character member
  rcases digit_or_sign_of_mem_toString member with rfl | digit
  · decide
  · exact isNumberCharacter_of_digit digit

/-- The characters of a written number, and the mark that tells it from an integer. -/
theorem numeric_renderWith {number : Binary64} (canonical : number.Canonical)
    (finite : number.isFinite = true) (infinity noNumber : String) :
    (∀ character ∈ (number.renderWith infinity noNumber).toList,
      isNumberCharacter character = true) ∧
    (number.renderWith infinity noNumber).toList.any isRealMark = true := by
  obtain ⟨negative, text, value, written, spells, _⟩ :=
    exists_signed canonical finite infinity noNumber
  rw [written]
  constructor
  · intro character member
    rcases List.mem_append.mp member with sign | later
    · split at sign
      · rw [List.mem_singleton.mp sign]
        decide
      · cases sign
    · exact spells.numeric character later
  · rw [List.any_append, spells.any_marked, Bool.or_true]

end ProxyLauncher.Number.Binary64
