/-!
# Binary64 numbers

Times are binary64 numbers: a sign and a mantissa of at most 53 bits scaled by
a power of two, besides the two infinities and the value that is no number.
Every operation is the exact rational result rounded once, to the nearest
number and at a tie to the even mantissa. So `roundMagnitude` is the only place
where precision is lost, and the laws of the operations are laws of rounding.

A finite number is canonical when its mantissa is below `2 ^ 53` and either
reaches `2 ^ 52` or stands at the least exponent. Rounding yields canonical
numbers alone, so equality of values is equality of representations, the two
zeros apart.
-/

namespace ProxyLauncher.Number

/-- A binary64 number. The finite ones are `± mantissa * 2 ^ exponent`. -/
inductive Binary64 where
  | finite (negative : Bool) (mantissa : Nat) (exponent : Int)
  | infinite (negative : Bool)
  | notANumber
  deriving DecidableEq, Repr

namespace Binary64

/-! ## The format -/

/-- The mantissas are below `2 ^ 53`. -/
def mantissaBound : Nat := 9007199254740992

/-- A mantissa that is not at the least exponent is at least `2 ^ 52`. -/
def normalMantissa : Nat := 4503599627370496

/-- The exponent of the smallest numbers. -/
def leastExponent : Int := -1074

/-- The exponent of the largest numbers. -/
def greatestExponent : Int := 971

/-- The magnitude of a finite number. -/
def magnitude (mantissa : Nat) (exponent : Int) : Rat :=
  (mantissa : Rat) * (2 : Rat) ^ exponent

/-- A representation that rounding can yield. -/
def Canonical : Binary64 → Prop
  | .finite _ mantissa exponent =>
    mantissa < mantissaBound ∧ leastExponent ≤ exponent ∧ exponent ≤ greatestExponent ∧
      (normalMantissa ≤ mantissa ∨ exponent = leastExponent)
  | .infinite _ => True
  | .notANumber => True

/-- The zero of a sign. -/
def zeroOf (negative : Bool) : Binary64 :=
  .finite negative 0 leastExponent

/-- The rational that a finite number stands for. -/
def toRat? : Binary64 → Option Rat
  | .finite negative mantissa exponent =>
    some (if negative then -magnitude mantissa exponent else magnitude mantissa exponent)
  | .infinite _ => none
  | .notANumber => none

/-- Neither an infinity nor the value that is no number. -/
def isFinite : Binary64 → Bool
  | .finite _ _ _ => true
  | .infinite _ => false
  | .notANumber => false

/-- One of the two infinities. -/
def isInfinite : Binary64 → Bool
  | .finite _ _ _ => false
  | .infinite _ => true
  | .notANumber => false

/-! ## Rounding -/

/-- The greatest power of two that does not exceed a positive rational, by its exponent. -/
def binaryOrder (size : Rat) : Int :=
  let estimate : Int := (size.num.natAbs.log2 : Int) - (size.den.log2 : Int)
  if (2 : Rat) ^ estimate ≤ size then estimate else estimate - 1

/-- The integer nearest to a rational that is not negative, at a tie the even one. -/
def nearestEven (size : Rat) : Nat :=
  let below := size.floor.toNat
  let excess := size - (below : Rat)
  if excess < mkRat 1 2 then below
  else if mkRat 1 2 < excess then below + 1
  else if below % 2 = 0 then below
  else below + 1

/-- The exponent at which a positive rational is rounded: the mantissa gets 53 bits, or as many as
the least exponent leaves. -/
def roundingExponent (size : Rat) : Int :=
  let exponent := binaryOrder size - 52
  if exponent < leastExponent then leastExponent else exponent

/-- A rounded mantissa at its exponent. One that has grown to 54 bits moves up one exponent, and
what lies beyond the greatest exponent is infinite. -/
def assemble (negative : Bool) (mantissa : Nat) (exponent : Int) : Binary64 :=
  let carried := decide (mantissaBound ≤ mantissa)
  let settledMantissa := if carried then normalMantissa else mantissa
  let settledExponent := if carried then exponent + 1 else exponent
  if greatestExponent < settledExponent then .infinite negative
  else .finite negative settledMantissa settledExponent

/-- The number nearest to a rational that is not negative, with the sign given. -/
def roundMagnitude (negative : Bool) (size : Rat) : Binary64 :=
  if size = 0 then zeroOf negative
  else
    let exponent := roundingExponent size
    assemble negative (nearestEven (size / (2 : Rat) ^ exponent)) exponent

/-- The number nearest to a rational. -/
def ofRat (value : Rat) : Binary64 :=
  if value < 0 then roundMagnitude true (-value) else roundMagnitude false value

/-- The number nearest to a decimal, `digits * 10 ^ exponent` with the sign given. -/
def ofDecimal (negative : Bool) (digits : Nat) (exponent : Int) : Binary64 :=
  roundMagnitude negative ((digits : Rat) * (10 : Rat) ^ exponent)

/-! ## Operations -/

/-- The number of the opposite sign. -/
def negate : Binary64 → Binary64
  | .finite negative mantissa exponent => .finite (!negative) mantissa exponent
  | .infinite negative => .infinite (!negative)
  | .notANumber => .notANumber

/-- The sum. A sum that is exactly zero is the negative zero only when both summands are negative;
infinities of different sign have none. -/
def add : Binary64 → Binary64 → Binary64
  | .finite negative mantissa exponent, .finite negative' mantissa' exponent' =>
    let left := magnitude mantissa exponent
    let right := magnitude mantissa' exponent'
    let total := (if negative then -left else left) + (if negative' then -right else right)
    if total = 0 then zeroOf (negative && negative') else ofRat total
  | .infinite negative, .infinite negative' =>
    if negative = negative' then .infinite negative else .notANumber
  | .infinite negative, .finite _ _ _ => .infinite negative
  | .finite _ _ _, .infinite negative => .infinite negative
  | .notANumber, _ => .notANumber
  | _, .notANumber => .notANumber

/-- The product. An infinity times zero has none. -/
def mul : Binary64 → Binary64 → Binary64
  | .finite negative mantissa exponent, .finite negative' mantissa' exponent' =>
    roundMagnitude (negative != negative')
      (magnitude mantissa exponent * magnitude mantissa' exponent')
  | .infinite negative, .infinite negative' => .infinite (negative != negative')
  | .infinite negative, .finite negative' mantissa _ =>
    if mantissa = 0 then .notANumber else .infinite (negative != negative')
  | .finite negative mantissa _, .infinite negative' =>
    if mantissa = 0 then .notANumber else .infinite (negative != negative')
  | .notANumber, _ => .notANumber
  | _, .notANumber => .notANumber

/-- The order of the numbers, in which the zeros are equal and the value that is no number stands
apart. -/
def less : Binary64 → Binary64 → Bool
  | .finite negative mantissa exponent, .finite negative' mantissa' exponent' =>
    let left := magnitude mantissa exponent
    let right := magnitude mantissa' exponent'
    decide ((if negative then -left else left) < (if negative' then -right else right))
  | .infinite negative, .infinite negative' => negative && !negative'
  | .infinite negative, .finite _ _ _ => negative
  | .finite _ _ _, .infinite negative => !negative
  | .notANumber, _ => false
  | _, .notANumber => false

/-- Two numbers are alike when they are equal in value or both are no number. -/
def alike : Binary64 → Binary64 → Bool
  | .notANumber, .notANumber => true
  | .notANumber, _ => false
  | _, .notANumber => false
  | left, right => !less left right && !less right left

end Binary64

end ProxyLauncher.Number
