import Mathlib.Tactic.Ring
import ProxyLauncher.Number.Shortest
import ProxyLauncher.Proofs.Number.Decimal
import ProxyLauncher.Proofs.Number.Sign

/-!
# Written integers

An integer is written in plain decimal: its digits, the first of which is not
zero unless it is the only one, with a minus sign in front if it is negative.
What is written reads back, up to the limit on the number of digits.
-/

namespace ProxyLauncher.Number.Integer

open ProxyLauncher.Text

/-! ## Values of digits -/

theorem magnitude_append (front back : List Char) :
    magnitude (front ++ back) = magnitude front * 10 ^ back.length + magnitude back := by
  rw [magnitude, List.reverse_append, List.map_append, Nat.ofDigits_append, List.length_map,
    List.length_reverse, magnitude, magnitude]
  ring

theorem magnitude_replicate_zero (count : Nat) : magnitude (List.replicate count '0') = 0 := by
  induction count with
  | zero => rfl
  | succ count ih =>
      rw [List.replicate_succ', magnitude_append, ih]
      rfl

/-! ## The digits of a natural number -/

theorem isAsciiDigit_of_isDigit {character : Char} (digit : character.isDigit = true) :
    isAsciiDigit character = true := by
  rw [isAsciiDigit_iff]
  simp only [Char.isDigit, Bool.and_eq_true, decide_eq_true_eq] at digit
  exact digit

theorem numeral_toDigits (value : Nat) : IsNumeral (Nat.toDigits 10 value) := by
  refine ⟨Nat.toDigits_ne_nil, ?_⟩
  intro digit member
  exact isAsciiDigit_of_isDigit (Nat.isDigit_of_mem_toDigits (by decide) (by decide) member)

@[simp]
theorem magnitude_toDigits (value : Nat) : magnitude (Nat.toDigits 10 value) = value := by
  have folded : magnitude (Nat.toDigits 10 value) =
      Nat.ofDigitChars 10 (Nat.toDigits 10 value) 0 := by
    rw [← numberOfDigits_map_asciiDigitValue, numberOfDigits, List.foldl_map,
      Nat.ofDigitChars_eq_foldl]
    rfl
  rw [folded, Nat.ofDigitChars_ten_toDigits]

/-- A positive number is not written with a zero in front. -/
theorem head?_toDigits_ne {value : Nat} (positive : 0 < value) :
    (Nat.toDigits 10 value).head? ≠ some '0' := by
  induction value using Nat.strongRecOn with
  | ind value ih =>
      rw [Nat.toDigits_eq_if (by decide)]
      split
      case isTrue single =>
        simp only [List.head?_cons, ne_eq, Option.some.injEq, Nat.digitChar_eq_zero]
        omega
      case isFalse several =>
        have front := ih (value / 10) (by omega) (by omega)
        obtain ⟨first, others, digitsEq⟩ :=
          List.exists_cons_of_ne_nil (@Nat.toDigits_ne_nil (value / 10) 10)
        rw [digitsEq] at front ⊢
        exact front

/-! ## Reading back -/

theorem IsNumeral.unsigned {digits : List Char} (numeral : IsNumeral digits) :
    ∀ character, digits.head? = some character → isSign character = false := by
  intro character first
  exact isSign_of_digit (numeral.2 character (List.mem_of_mem_head? first))

theorem splitSign_of_numeral {digits : List Char} (numeral : IsNumeral digits) :
    splitSign digits = (false, digits) :=
  splitSign_of_unsigned numeral.unsigned

theorem toList_toString (value : Int) :
    (toString value).toList =
      (if value < 0 then ['-'] else []) ++ Nat.toDigits 10 value.natAbs := by
  change value.repr.toList = _
  rw [Int.repr_eq_if]
  by_cases negative : value < 0
  · have size : (-value).toNat = value.natAbs := by omega
    rw [if_neg (by omega), if_pos negative, size, String.toList_append,
      Nat.repr_eq_ofList_toDigits, String.toList_ofList, String.toList_ofList]
  · have size : value.toNat = value.natAbs := by omega
    rw [if_pos (by omega), if_neg negative, size, Nat.repr_eq_ofList_toDigits,
      String.toList_ofList]
    rfl

/-- The characters of a written integer are digits, but for a sign. -/
theorem digit_or_sign_of_mem_toString {value : Int} {character : Char}
    (member : character ∈ (toString value).toList) :
    character = '-' ∨ isAsciiDigit character = true := by
  rw [toList_toString] at member
  rcases List.mem_append.mp member with sign | digit
  · split at sign
    · exact .inl (List.mem_singleton.mp sign)
    · cases sign
  · exact .inr ((numeral_toDigits value.natAbs).2 character digit)

/-- A written integer has a minus sign exactly when it is negative. -/
theorem splitSign_toString (value : Int) :
    splitSign (toString value).toList = (decide (value < 0), Nat.toDigits 10 value.natAbs) := by
  rw [toList_toString]
  by_cases negative : value < 0
  · rw [if_pos negative, List.singleton_append, splitSign]
    simp [negative]
  · rw [if_neg negative, List.nil_append, splitSign_of_numeral (numeral_toDigits value.natAbs)]
    simp [negative]

theorem signed_natAbs (value : Int) : signed (decide (value < 0)) value.natAbs = value := by
  unfold signed
  split
  case isTrue negative =>
    rw [decide_eq_true_iff] at negative
    omega
  case isFalse positive =>
    rw [decide_eq_true_iff] at positive
    omega

/-- Different integers are written differently. -/
theorem toString_injective : Function.Injective (toString : Int → String) := by
  intro first second same
  have parts := splitSign_toString first
  rw [same, splitSign_toString, Prod.mk.injEq] at parts
  have sizes := congrArg magnitude parts.2
  rw [magnitude_toDigits, magnitude_toDigits] at sizes
  rw [← signed_natAbs first, ← signed_natAbs second, parts.1, sizes]

/-- A written integer reads back, up to the limit. -/
theorem readPlain_toString {value : Int}
    (short : Decimal.digitCount value.natAbs ≤ digitLimit) :
    readPlain (toString value).toList = .ok value := by
  rw [readPlain_eq_ok_iff, splitSign_toString]
  refine ⟨numeral_toDigits value.natAbs, short, ?_⟩
  rw [numberOfDigits_map_asciiDigitValue, magnitude_toDigits, signed_natAbs]

end ProxyLauncher.Number.Integer
