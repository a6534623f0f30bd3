import ProxyLauncher.Key.Curve

/-!
# Points of a curve

The public half of a key is a multiple of the generator. Points are added by
the chord and tangent rule, and multiples are built by doubling and adding
along the binary digits of the scalar.

A point has up to three written forms: both coordinates in full, the first one
with the parity of the second, and both with the parity. A stored public point
matches a scalar exactly when it is one of the written forms of the scalar's
multiple of the generator.
-/

namespace ProxyLauncher.Key

/-- A point: the neutral one, or a pair of coordinates. -/
inductive Point where
  | neutral
  | affine (x y : Nat)
  deriving DecidableEq, Repr

/-- The binary digits of a natural number, most significant first. -/
def binaryDigits (value : Nat) : List Bool :=
  (List.range (value.log2 + 1)).reverse.map fun place => value.testBit place

/-- A power modulo a number, by squaring along the digits of the exponent. -/
def powerModulo (base exponent modulus : Nat) : Nat :=
  (binaryDigits exponent).foldl
    (fun power digit =>
      let squared := power * power % modulus
      if digit then squared * base % modulus else squared)
    (1 % modulus)

/-- The inverse of a number that is not zero modulo a prime: the power `prime - 2`. -/
def inverseModulo (value prime : Nat) : Nat :=
  powerModulo value (prime - 2) prime

namespace Curve

/-- The difference of two numbers below the prime. -/
def difference (curve : Curve) (left right : Nat) : Nat :=
  (left + curve.parameters.prime - right) % curve.parameters.prime

/-- The third point on a line through two points, reflected, given the slope of the line. -/
def alongSlope (curve : Curve) (slope x y x' : Nat) : Point :=
  let thirdX := curve.difference (curve.difference (slope * slope % curve.parameters.prime) x) x'
  let rise := slope * curve.difference x thirdX % curve.parameters.prime
  .affine thirdX (curve.difference rise y)

/-- A point added to itself: the tangent decides. -/
def double (curve : Curve) : Point → Point
  | .neutral => .neutral
  | .affine x y =>
    let prime := curve.parameters.prime
    if y = 0 then .neutral
    else
      let slope := (3 * x * x + curve.parameters.a) * inverseModulo (2 * y % prime) prime % prime
      curve.alongSlope slope x y x

/-- The sum of two points: the chord decides. -/
def add (curve : Curve) : Point → Point → Point
  | .neutral, point => point
  | point, .neutral => point
  | .affine x y, .affine x' y' =>
    let prime := curve.parameters.prime
    if x = x' then
      if y = y' then curve.double (.affine x y) else .neutral
    else
      let run := inverseModulo (curve.difference x' x) prime
      curve.alongSlope (curve.difference y' y * run % prime) x y x'

/-- The generator of a curve. -/
def generator (curve : Curve) : Point :=
  .affine curve.parameters.generatorX curve.parameters.generatorY

/-- A multiple of the generator. -/
def multiple (curve : Curve) (scalar : Nat) : Point :=
  (binaryDigits scalar).foldl
    (fun point digit =>
      let doubled := curve.double point
      if digit then curve.add doubled curve.generator else doubled)
    .neutral

/-- The bytes of a number, most significant first, as many as asked for. -/
def bigEndian : Nat → Nat → Bytes
  | 0, _ => []
  | length + 1, value => bigEndian length (value / 256) ++ [UInt8.ofNat (value % 256)]

/-- The written forms of a point. The neutral point has none that a key may store. -/
def writtenForms (curve : Curve) : Point → List Bytes
  | .neutral => []
  | .affine x y =>
    let first := bigEndian curve.byteLength x
    let second := bigEndian curve.byteLength y
    let parity := UInt8.ofNat (y % 2)
    [0x04 :: first ++ second, (0x02 + parity) :: first, (0x06 + parity) :: first ++ second]

/-- A stored public point matches a scalar. -/
def matchesScalar (curve : Curve) (scalar : Nat) (stored : Bytes) : Bool :=
  (curve.writtenForms (curve.multiple scalar)).contains stored

end Curve

end ProxyLauncher.Key
