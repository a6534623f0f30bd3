import ProxyLauncher.Number.Integer

/-!
# Signs

A number may have one sign in front.  `Signed` leaves open whether a sign in
front of a text is taken for it; the reader always takes it.  For a rest that
does not itself start with a sign there is no choice, and the reader finds it.
-/

namespace ProxyLauncher.Number.Integer

/-- A text is some rest with at most one sign in front; `true` stands for the minus sign. -/
inductive Signed : List Char → Bool → List Char → Prop
  | bare (rest : List Char) : Signed rest false rest
  | plus (rest : List Char) : Signed ('+' :: rest) false rest
  | minus (rest : List Char) : Signed ('-' :: rest) true rest

/-- The characters of signs. -/
def isSign (character : Char) : Bool :=
  character == '+' || character == '-'

theorem isSign_of_digit {character : Char} (digit : isAsciiDigit character = true) :
    isSign character = false := by
  cases signs : isSign character with
  | false => rfl
  | true =>
      simp only [isSign, Bool.or_eq_true, beq_iff_eq] at signs
      rcases signs with rfl | rfl <;> exact absurd digit (by decide)

theorem signed_splitSign (text : List Char) :
    Signed text (splitSign text).1 (splitSign text).2 := by
  unfold splitSign
  split
  · exact .plus _
  · exact .minus _
  · exact .bare _

theorem splitSign_of_unsigned {text : List Char}
    (unsigned : ∀ character, text.head? = some character → isSign character = false) :
    splitSign text = (false, text) := by
  unfold splitSign
  split
  case h_1 rest => exact absurd (unsigned '+' rfl) (by decide)
  case h_2 rest => exact absurd (unsigned '-' rfl) (by decide)
  case h_3 => rfl

/-- The sign of a rest without one is found. -/
theorem Signed.splitSign_eq {text rest : List Char} {negative : Bool}
    (isSigned : Signed text negative rest)
    (unsigned : ∀ character, rest.head? = some character → isSign character = false) :
    splitSign text = (negative, rest) := by
  cases isSigned with
  | bare => exact splitSign_of_unsigned unsigned
  | plus => rfl
  | minus => rfl

end ProxyLauncher.Number.Integer
