/-!
# Operands

A flag with an operand sets its setting to what the operand says. There is one
operand that says nothing: two dashes attached to a flag are taken as the mark
that ends the flags, and dropped, so that the flag was given and yet leaves an
empty list. Such a setting has no value to check, compare or use.
-/

namespace ProxyLauncher

/-- What a setting was given: a value, or the empty list that a dropped operand leaves. -/
inductive Operand (α : Type) where
  | given (value : α)
  | dropped
  deriving DecidableEq, Repr

namespace Operand

variable {α β : Type}

/-- The value, if there is one. -/
def value? : Operand α → Option α
  | .given value => some value
  | .dropped => none

/-- Shows an operand, given how a value is shown. -/
def render (showValue : α → String) : Operand α → String
  | .given value => showValue value
  | .dropped => "[]"

/-- Compares two operands, given how values are compared. -/
def sameBy (sameValue : α → α → Bool) : Operand α → Operand α → Bool
  | .given left, .given right => sameValue left right
  | .dropped, .dropped => true
  | .given _, .dropped => false
  | .dropped, .given _ => false

@[simp]
theorem render_given (showValue : α → String) (value : α) :
    render showValue (.given value) = showValue value :=
  rfl

end Operand

end ProxyLauncher
