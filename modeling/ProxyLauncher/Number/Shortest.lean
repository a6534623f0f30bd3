import ProxyLauncher.Number.Binary64

/-!
# The shortest decimal of a number

A number is written with the fewest significant digits that read back to it;
of two such decimals with equally many digits the nearer one is taken, and at
a tie the one whose last digit is even.

The reals that round to a finite number form an interval around it, whose ends
belong to it exactly when the mantissa is even. The search walks through the
decimal grids from coarse to fine, and on each grid looks at the two neighbours
of the number: if any point of a grid lies in the interval, one of them does.
-/

namespace ProxyLauncher.Number

/-- A decimal, `digits * 10 ^ exponent`. -/
structure Decimal where
  digits : Nat
  exponent : Int
  deriving DecidableEq, Repr

namespace Decimal

/-- The value of a decimal. -/
def toRat (decimal : Decimal) : Rat :=
  (decimal.digits : Rat) * (10 : Rat) ^ decimal.exponent

/-- How many digits a positive natural number has. -/
def digitCount (value : Nat) : Nat :=
  (Nat.toDigits 10 value).length

/-- Moves the zeros at the end of the digits into the exponent, as many as the bound allows. -/
def strip : Nat → Decimal → Decimal
  | 0, decimal => decimal
  | bound + 1, decimal =>
    if decimal.digits ≠ 0 ∧ decimal.digits % 10 = 0 then
      strip bound ⟨decimal.digits / 10, decimal.exponent + 1⟩
    else decimal

end Decimal

namespace Binary64

/-- The end below of the interval that rounds to a finite number. Below a power of two the numbers
lie twice as dense as above it. -/
def intervalLow (mantissa : Nat) (exponent : Int) : Rat :=
  if mantissa = normalMantissa ∧ leastExponent < exponent then
    magnitude (4 * mantissa - 1) (exponent - 2)
  else magnitude (4 * mantissa - 2) (exponent - 2)

/-- The end above of the interval that rounds to a finite number. -/
def intervalHigh (mantissa : Nat) (exponent : Int) : Rat :=
  magnitude (4 * mantissa + 2) (exponent - 2)

/-- A decimal reads back to a finite number when it lies in the interval. -/
def readsBack (mantissa : Nat) (exponent : Int) (decimal : Decimal) : Bool :=
  let value := decimal.toRat
  let low := intervalLow mantissa exponent
  let high := intervalHigh mantissa exponent
  let even := decide (mantissa % 2 = 0)
  (decide (low < value) || (even && decide (low = value))) &&
    (decide (value < high) || (even && decide (value = high)))

/-- The least power of ten above a positive rational, by its exponent. -/
def decimalScale (size : Rat) : Int :=
  if 1 ≤ size then (Decimal.digitCount size.floor.toNat : Int)
  else 1 - (Decimal.digitCount ((1 / size).ceil.toNat - 1) : Int)

/-- The decimal of the coarser or equal of two neighbours on a grid that reads back, if one does. -/
def nearestOnGrid? (mantissa : Nat) (exponent : Int) (unit : Int) : Option Decimal :=
  let scaled := magnitude mantissa exponent / (10 : Rat) ^ unit
  let below := scaled.floor.toNat
  let lower : Decimal := ⟨below, unit⟩
  let upper : Decimal := ⟨below + 1, unit⟩
  let excess := scaled - (below : Rat)
  let upperIsNearer := decide (mkRat 1 2 < excess) || (excess = mkRat 1 2 && below % 2 = 1)
  match readsBack mantissa exponent lower, readsBack mantissa exponent upper with
  | true, true => some (if upperIsNearer then upper else lower)
  | true, false => some lower
  | false, true => some upper
  | false, false => none

/-- The exact decimal of a finite number. -/
def exactDecimal (mantissa : Nat) (exponent : Int) : Decimal :=
  if 0 ≤ exponent then ⟨mantissa * Nat.pow 2 exponent.toNat, 0⟩
  else ⟨mantissa * Nat.pow 5 (-exponent).toNat, exponent⟩

/-- The shortest decimal that reads back to a positive finite number. Seventeen digits always
suffice; without a hit among them the exact decimal would stand. -/
def shortestDecimal (mantissa : Nat) (exponent : Int) : Decimal :=
  let scale := decimalScale (magnitude mantissa exponent)
  match (List.range 17).findSome? fun (places : Nat) =>
      nearestOnGrid? mantissa exponent (scale - 1 - (places : Int)) with
  | some decimal => decimal.strip 17
  | none => exactDecimal mantissa exponent

/-! ## Layout -/

/-- As many zeros as asked for. -/
def zeros (count : Nat) : List Char :=
  List.replicate count '0'

/-- A decimal exponent is written with its sign and at least two digits. -/
def exponentText (exponent : Int) : List Char :=
  let digits := Nat.toDigits 10 exponent.natAbs
  'e' :: (if exponent < 0 then '-' else '+') :: (zeros (2 - digits.length) ++ digits)

/-- Digits whose first one stands at the power `10 ^ (scale - 1)` are written positionally when that
power is from `10 ^ (-4)` to `10 ^ 15`, and with an exponent otherwise. A positional text has
a digit after its point. -/
def layout (digits : List Char) (scale : Int) : List Char :=
  if -4 < scale ∧ scale ≤ 16 then
    if scale ≤ 0 then '0' :: '.' :: (zeros (-scale).toNat ++ digits)
    else
      let whole := scale.toNat
      let padded := digits ++ zeros (whole + 1 - digits.length)
      padded.take whole ++ '.' :: padded.drop whole
  else
    let fraction := digits.drop 1
    digits.take 1 ++ (if fraction.isEmpty then [] else '.' :: fraction) ++ exponentText (scale - 1)

/-- The text of a magnitude. -/
def magnitudeText (mantissa : Nat) (exponent : Int) : List Char :=
  if mantissa = 0 then ['0', '.', '0']
  else
    let decimal := shortestDecimal mantissa exponent
    let digits := Nat.toDigits 10 decimal.digits
    layout digits (decimal.exponent + (digits.length : Int))

/-- The text of a finite number, with the texts for the two other kinds given. -/
def renderWith (infinity noNumber : String) : Binary64 → String
  | .finite negative mantissa exponent =>
    String.ofList ((if negative then ['-'] else []) ++ magnitudeText mantissa exponent)
  | .infinite negative => (if negative then "-" else "") ++ infinity
  | .notANumber => noNumber

/-- The text of a number. -/
def render : Binary64 → String :=
  renderWith "inf" "nan"

end Binary64

end ProxyLauncher.Number
