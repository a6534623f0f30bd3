import ProxyLauncher.Key.Der
import ProxyLauncher.Key.Material
import ProxyLauncher.Key.Point

/-!
# Encoded private keys

A private key on a curve is encoded as a structure of its own, which names the
curve and may store the public point, or wrapped in the general structure for
private keys, which names the algorithm outside. The other kinds of key are
read far enough to tell that they are sound.

A scalar takes exactly as many bytes as its curve prescribes and lies between
zero and the order of the generator, both excluded. A stored public point has
to match it. Where the curve is named twice, both names agree.
-/

namespace ProxyLauncher.Key

open Der

/-- A structure that cannot be read is malformed. -/
def wellFormed {α : Type} : Option α → Except Fault α
  | some value => .ok value
  | none => .error .unreadable

/-- A condition that fails makes the key malformed. -/
def require (condition : Bool) : Except Fault Unit :=
  if condition then .ok () else .error .unreadable

/-! ## Keys on a curve -/

/-- How a key says which curve it is on. -/
inductive CurveReference where
  | named (identifier : Bytes)
  | implicit
  | specified (content : Bytes)
  deriving DecidableEq, Repr

/-- Reads a curve reference that makes up the whole content. -/
def readCurveReference? (bytes : Bytes) : Option CurveReference :=
  match readElement? bytes with
  | some (element, []) =>
    if element.tag = Tag.objectIdentifier then
      if isObjectIdentifier element.content then some (.named element.content) else none
    else if element.tag = Tag.null then
      if element.content.isEmpty then some .implicit else none
    else if element.tag = Tag.sequence then some (.specified element.content)
    else none
  | _ => none

/-- The fields of an encoded key on a curve. -/
structure EllipticKey where
  version : Nat
  scalar : Bytes
  curve : Option CurveReference
  publicPoint : Option Bytes
  deriving DecidableEq, Repr

/-- Applies a reader to a field that may be absent. -/
def optionalField? {α : Type} (read : Bytes → Option α) : Option Bytes → Option (Option α)
  | none => some none
  | some content => (read content).map some

/-- Reads the structure of a key on a curve: its version, the scalar, and two numbered fields that
may be absent. -/
def readEllipticKey? (bytes : Bytes) : Option EllipticKey := do
  let content ← only? Tag.sequence bytes
  let (version, afterVersion) ← readVersion? content
  let (scalar, afterScalar) ← expect? Tag.octetString afterVersion
  let (curveField, afterCurve) ← optional? (Tag.field 0) afterScalar
  let (pointField, rest) ← optional? (Tag.field 1) afterCurve
  finish? rest
  let curve ← optionalField? readCurveReference? curveField
  let publicPoint ← optionalField? (fun field => only? Tag.bitString field >>= bits?) pointField
  return ⟨version, scalar, curve, publicPoint⟩

/-- The curve that a reference stands for. Only named curves are supported. -/
def CurveReference.curve : CurveReference → Except Fault Curve
  | .named identifier =>
    match Curve.ofIdentifier? identifier with
    | some curve => .ok curve
    | none => .error .unsupported
  | .implicit => .error .unsupported
  | .specified _ => .error .unsupported

/-- The one reference that two agree on, of which either may be absent but not both. -/
def agreedReference (outer inner : Option CurveReference) : Except Fault CurveReference :=
  match outer, inner with
  | some outer, some inner => if outer = inner then .ok outer else .error .unreadable
  | some outer, none => .ok outer
  | none, some inner => .ok inner
  | none, none => .error .unreadable

/-- The scalar lies between zero and the order of the curve's generator. -/
def scalarInRange (curve : Curve) (scalar : Nat) : Bool :=
  0 < scalar && scalar < curve.parameters.order

/-- Decodes a key on a curve, given the curve that an outer structure named. -/
def decodeElliptic (outer : Option CurveReference) (bytes : Bytes) : Except Fault Material := do
  let key ← wellFormed (readEllipticKey? bytes)
  require (key.version = 1)
  let reference ← agreedReference outer key.curve
  let curve ← reference.curve
  require (key.scalar.length = curve.byteLength)
  let scalar := naturalOf key.scalar
  require (scalarInRange curve scalar)
  require (key.publicPoint.all (curve.matchesScalar scalar))
  return .elliptic curve scalar

/-! ## Other kinds of key -/

/-- The nine integers of a key made of two primes fit together: the modulus is their product, the two
exponents are inverse to each other, and the stored remainders are right. -/
def isSoundPrimePair : List Nat → Bool
  | [modulus, e, d, p, q, dp, dq, coefficient] =>
    1 < p && 1 < q && modulus = p * q && 1 < e && d * e % (p - 1) = 1 && d * e % (q - 1) = 1 &&
      dp = d % (p - 1) && dq = d % (q - 1) && coefficient * q % p = 1
  | _ => false

/-- Decodes a key made of two primes. -/
def decodePrimePair (bytes : Bytes) : Except Fault Material := do
  let (version, numbers) ← wellFormed do
    let content ← only? Tag.sequence bytes
    let (version, afterVersion) ← readVersion? content
    let (numbers, rest) ← readNaturals? 8 afterVersion
    finish? rest
    return (version, numbers)
  require (version = 0)
  require (isSoundPrimePair numbers)
  return .foreign

/-- Decodes a signature key over a prime field: a version, the three numbers of the group, and the two
halves of the key. -/
def decodeFieldSignature (bytes : Bytes) : Except Fault Material := do
  let version ← wellFormed do
    let content ← only? Tag.sequence bytes
    let (version, afterVersion) ← readVersion? content
    let (_, rest) ← readNaturals? 5 afterVersion
    finish? rest
    return version
  require (version = 0)
  return .foreign

/-- Decodes a key that is one integer. -/
def decodeInteger (bytes : Bytes) : Except Fault Material := do
  let (_, rest) ← wellFormed (readNatural? bytes)
  require rest.isEmpty
  return .foreign

/-- Decodes a key that is a string of bytes of a fixed length. -/
def decodeRaw (length : Nat) (bytes : Bytes) : Except Fault Material := do
  let content ← wellFormed (only? Tag.octetString bytes)
  require (content.length = length)
  return .foreign

/-! ## Wrapped keys -/

/-- The algorithm that a wrapped key is for. -/
inductive Algorithm where
  | elliptic (curve : CurveReference)
  | primePair
  | integer
  | raw (length : Nat)
  | unknown
  deriving DecidableEq, Repr

/-- The content is empty or a null. -/
def nullOrAbsent? (bytes : Bytes) : Option Unit :=
  if bytes.isEmpty then some ()
  else (only? Tag.null bytes).bind fun content => if content.isEmpty then some () else none

/-- The content is empty or a single element. -/
def elementOrAbsent? (bytes : Bytes) : Option Unit :=
  if bytes.isEmpty then some ()
  else (readElement? bytes).bind fun (_, rest) => finish? rest

/-- The content is a structure of at least as many integers as asked for. -/
def integersWithin? (count : Nat) (bytes : Bytes) : Option Unit := do
  let content ← only? Tag.sequence bytes
  let _ ← readNaturals? count content
  return ()

/-- Reads what follows an object identifier in an algorithm, as the identifier prescribes. -/
def readParameters? (identifier parameters : Bytes) : Option Algorithm :=
  if identifier = [0x2A, 0x86, 0x48, 0xCE, 0x3D, 0x02, 0x01] then
    (readCurveReference? parameters).map .elliptic
  else if identifier = [0x2A, 0x86, 0x48, 0x86, 0xF7, 0x0D, 0x01, 0x01, 0x01] then
    (nullOrAbsent? parameters).map fun _ => .primePair
  else if identifier = [0x2A, 0x86, 0x48, 0x86, 0xF7, 0x0D, 0x01, 0x01, 0x0A] then
    (elementOrAbsent? parameters).map fun _ => .primePair
  else if identifier = [0x2A, 0x86, 0x48, 0xCE, 0x38, 0x04, 0x01] then
    (integersWithin? 3 parameters).map fun _ => .integer
  else if identifier = [0x2A, 0x86, 0x48, 0x86, 0xF7, 0x0D, 0x01, 0x03, 0x01] then
    (integersWithin? 2 parameters).map fun _ => .integer
  else if identifier = [0x2A, 0x86, 0x48, 0xCE, 0x3E, 0x02, 0x01] then
    (integersWithin? 3 parameters).map fun _ => .integer
  else if identifier = [0x2B, 0x65, 0x6E] || identifier = [0x2B, 0x65, 0x70] then
    (finish? parameters).map fun _ => .raw 32
  else if identifier = [0x2B, 0x65, 0x6F] then (finish? parameters).map fun _ => .raw 56
  else if identifier = [0x2B, 0x65, 0x71] then (finish? parameters).map fun _ => .raw 57
  else (elementOrAbsent? parameters).map fun _ => .unknown

/-- Reads an algorithm: an object identifier and its parameters. -/
def readAlgorithm? (content : Bytes) : Option Algorithm := do
  let (identifier, parameters) ← readObjectIdentifier? content
  readParameters? identifier parameters

/-- Attributes that follow a wrapped key: structures, each of which names itself. -/
def areAttributes (content : Bytes) : Bool :=
  match allElements? content with
  | some elements =>
    elements.all fun element =>
      element.tag = Tag.sequence && (readObjectIdentifier? element.content).isSome
  | none => false

/-- The fields of a wrapped key. -/
structure WrappedKey where
  version : Nat
  algorithm : Algorithm
  key : Bytes
  deriving DecidableEq, Repr

/-- Reads the structure of a wrapped key. -/
def readWrappedKey? (bytes : Bytes) : Option WrappedKey := do
  let content ← only? Tag.sequence bytes
  let (version, afterVersion) ← readVersion? content
  let (algorithmContent, afterAlgorithm) ← expect? Tag.sequence afterVersion
  let algorithm ← readAlgorithm? algorithmContent
  let (key, afterKey) ← expect? Tag.octetString afterAlgorithm
  let (attributes, rest) ← optional? (Tag.field 0) afterKey
  finish? rest
  guard (attributes.all areAttributes)
  return ⟨version, algorithm, key⟩

/-- Decodes a wrapped key. -/
def decodeWrapped (bytes : Bytes) : Except Fault Material := do
  let wrapped ← wellFormed (readWrappedKey? bytes)
  require (wrapped.version = 0)
  match wrapped.algorithm with
  | .elliptic curve => decodeElliptic (some curve) wrapped.key
  | .primePair => decodePrimePair wrapped.key
  | .integer => decodeInteger wrapped.key
  | .raw length => decodeRaw length wrapped.key
  | .unknown => .error .unsupported

/-- A wrapped key that is encrypted cannot be read without a password. -/
def decodeEncrypted (bytes : Bytes) : Except Fault Material := do
  let algorithmContent ← wellFormed do
    let content ← only? Tag.sequence bytes
    let (algorithmContent, afterAlgorithm) ← expect? Tag.sequence content
    let (_, rest) ← expect? Tag.octetString afterAlgorithm
    finish? rest
    return algorithmContent
  let _ ← wellFormed (readAlgorithm? algorithmContent)
  .error .encrypted

end ProxyLauncher.Key
