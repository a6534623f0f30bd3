import Mathlib.Data.Option.Basic
import ProxyLauncher.Key.Encoding
import ProxyLauncher.Proofs.Attempt
import ProxyLauncher.Proofs.Key.Der

/-!
# Writing keys on a curve

A scalar on a curve is written as a structure of its own or wrapped in the
general structure for private keys.  The first names the curve inside, the
second outside and possibly inside as well, and either may store the public
point.  A wrapped key may be followed by attributes, which mean nothing here.

Whatever is left out or added, both structures decode to the scalar: it takes as
many bytes as its curve prescribes, leading zeros included, and a number below
the order of the curve fits into them.
-/

namespace ProxyLauncher.Key

open Der
open Curve (bigEndian)

/-! ## Curves -/

namespace Curve

theorem byteLength_le (curve : Curve) : curve.byteLength ≤ 66 := by
  cases curve <;> decide

theorem isObjectIdentifier_identifier (curve : Curve) :
    isObjectIdentifier curve.identifier = true := by
  cases curve <;> decide

theorem length_identifier_le (curve : Curve) : curve.identifier.length ≤ 9 := by
  cases curve <;> decide

/-- A scalar fits into the bytes that its curve prescribes. -/
theorem order_le (curve : Curve) : curve.parameters.order ≤ 256 ^ curve.byteLength := by
  cases curve <;> decide +kernel

/-- A written point has two coordinates at most, and one byte in front. -/
theorem length_le_of_mem_writtenForms {curve : Curve} {point : Point} {stored : Bytes}
    (isForm : stored ∈ curve.writtenForms point) : stored.length ≤ 133 := by
  have coordinate := curve.byteLength_le
  cases point with
  | neutral => cases isForm
  | affine x y =>
      simp only [writtenForms, List.mem_cons, List.not_mem_nil, or_false] at isForm
      rcases isForm with rfl | rfl | rfl <;>
        simp only [List.length_cons, List.length_append, length_bigEndian] <;> omega

end Curve

/-! ## A scalar on a curve -/

/-- A scalar on a curve, with or without its public point. -/
structure StoredScalar (curve : Curve) where
  scalar : Nat
  positive : 0 < scalar
  below : scalar < curve.parameters.order
  point : Option Bytes
  isPoint : ∀ stored ∈ point, stored ∈ curve.writtenForms (curve.multiple scalar)

variable {curve : Curve}

/-- The name of a curve. -/
def encodeCurve (curve : Curve) : Bytes :=
  encode Tag.objectIdentifier curve.identifier

/-- A public point as it is stored. -/
def encodePoint (point : Bytes) : Bytes :=
  encode Tag.bitString (0 :: point)

/-- The field that names the curve, if the key does. -/
def curveField (curve : Curve) (named : Bool) : Option Bytes :=
  if named then some (encodeCurve curve) else none

/-- The field of the public point, if the key stores one. -/
def StoredScalar.pointField (stored : StoredScalar curve) : Option Bytes :=
  stored.point.map encodePoint

/-- The fields of a key on a curve, which may name its curve. -/
def ellipticContent (stored : StoredScalar curve) (named : Bool) : Bytes :=
  encode Tag.integer [1] ++
    (encode Tag.octetString (bigEndian curve.byteLength stored.scalar) ++
      (encodeOptional (Tag.field 0) (curveField curve named) ++
        encodeOptional (Tag.field 1) stored.pointField))

/-- A key on a curve. -/
def encodeElliptic (stored : StoredScalar curve) (named : Bool) : Bytes :=
  encode Tag.sequence (ellipticContent stored named)

/-! ## Lengths -/

theorem length_encodeCurve_le (curve : Curve) : (encodeCurve curve).length ≤ 15 := by
  have identifier := curve.length_identifier_le
  have whole : (encodeCurve curve).length ≤ curve.identifier.length + 6 :=
    length_encode_le _ (by omega)
  omega

theorem length_encodePoint_le {stored : StoredScalar curve} {point : Bytes}
    (isStored : point ∈ stored.point) : (encodePoint point).length ≤ 140 := by
  have length := Curve.length_le_of_mem_writtenForms (stored.isPoint point isStored)
  have content : (0 :: point).length = point.length + 1 := rfl
  have whole : (encodePoint point).length ≤ (0 :: point).length + 6 :=
    length_encode_le _ (by omega)
  omega

theorem length_le_of_mem_curveField {named : Bool} :
    ∀ content ∈ curveField curve named, content.length ≤ 15 := by
  cases named with
  | false => simp [curveField]
  | true => simpa [curveField] using length_encodeCurve_le curve

theorem length_le_of_mem_pointField {stored : StoredScalar curve} :
    ∀ content ∈ stored.pointField, content.length ≤ 140 := by
  intro content isField
  obtain ⟨point, isStored, rfl⟩ := Option.map_eq_some_iff.mp isField
  exact length_encodePoint_le isStored

/-- No key on a curve is long. -/
theorem length_ellipticContent_le (stored : StoredScalar curve) (named : Bool) :
    (ellipticContent stored named).length ≤ 246 := by
  have bytes := curve.byteLength_le
  have scalarLength := length_bigEndian curve.byteLength stored.scalar
  have version : (encode Tag.integer [1]).length = 3 := rfl
  have scalar : (encode Tag.octetString (bigEndian curve.byteLength stored.scalar)).length ≤
      (bigEndian curve.byteLength stored.scalar).length + 6 := length_encode_le _ (by omega)
  have curveLength : (encodeOptional (Tag.field 0) (curveField curve named)).length ≤ 15 + 6 :=
    length_encodeOptional_le _ length_le_of_mem_curveField (by decide)
  have pointLength : (encodeOptional (Tag.field 1) stored.pointField).length ≤ 140 + 6 :=
    length_encodeOptional_le _ length_le_of_mem_pointField (by decide)
  rw [ellipticContent, List.length_append, List.length_append, List.length_append]
  omega

/-! ## Reading a key on a curve -/

theorem readCurveReference?_encodeCurve (curve : Curve) :
    readCurveReference? (encodeCurve curve) = some (.named curve.identifier) := by
  have identifier := curve.length_identifier_le
  have read : readElement? (encodeCurve curve ++ []) =
      some (⟨Tag.objectIdentifier, curve.identifier⟩, []) :=
    readElement?_encode (by decide) (by omega) []
  rw [List.append_nil] at read
  rw [readCurveReference?, read]
  simp [curve.isObjectIdentifier_identifier]

/-- The reference by which a key names its curve. -/
def reference (curve : Curve) (named : Bool) : Option CurveReference :=
  if named then some (.named curve.identifier) else none

theorem readCurveField (curve : Curve) (named : Bool) :
    optionalField? readCurveReference? (curveField curve named) =
      some (reference curve named) := by
  cases named with
  | false => rfl
  | true =>
      change (readCurveReference? (encodeCurve curve)).map some = _
      rw [readCurveReference?_encodeCurve]
      rfl

theorem readPointField (stored : StoredScalar curve) :
    optionalField? (fun field => (only? Tag.bitString field).bind bits?) stored.pointField =
      some stored.point := by
  rw [StoredScalar.pointField]
  cases point : stored.point with
  | none => rfl
  | some bytes =>
      have length := Curve.length_le_of_mem_writtenForms (stored.isPoint bytes point)
      have read : only? Tag.bitString (encodePoint bytes) = some (0 :: bytes) :=
        only?_encode (by decide) (by rw [List.length_cons]; omega)
      simp [optionalField?, read, bits?_whole]

theorem finish?_nil : finish? [] = some () :=
  rfl

/-- A key on a curve is read field by field. -/
theorem readEllipticKey?_encodeElliptic (stored : StoredScalar curve) (named : Bool) :
    readEllipticKey? (encodeElliptic stored named) =
      some ⟨1, bigEndian curve.byteLength stored.scalar, reference curve named, stored.point⟩ := by
  have contentLength := length_ellipticContent_le stored named
  have content : only? Tag.sequence (encodeElliptic stored named) =
      some (ellipticContent stored named) := only?_encode (by decide) (by omega)
  have version (rest : Bytes) :
      readVersion? (encode Tag.integer [1] ++ rest) = some (1, rest) :=
    readVersion?_encode (by decide) rest
  have scalar (rest : Bytes) :
      expect? Tag.octetString
          (encode Tag.octetString (bigEndian curve.byteLength stored.scalar) ++ rest) =
        some (bigEndian curve.byteLength stored.scalar, rest) := by
    have bytes := curve.byteLength_le
    exact expect?_encode (by decide) (by rw [length_bigEndian]; omega) rest
  have pointHead : (encodeOptional (Tag.field 1) stored.pointField).head? ≠ some (Tag.field 0) := by
    cases stored.pointField with
    | none => simp [encodeOptional]
    | some point => simp [encodeOptional, encode, Tag.field]
  have curveRead : optional? (Tag.field 0) (encodeOptional (Tag.field 0) (curveField curve named) ++
      encodeOptional (Tag.field 1) stored.pointField) =
        some (curveField curve named, encodeOptional (Tag.field 1) stored.pointField) := by
    refine optional?_encodeOptional (by decide) ?_ pointHead
    intro field isField
    exact Nat.lt_of_le_of_lt (length_le_of_mem_curveField field isField) (by decide)
  have pointRead : optional? (Tag.field 1) (encodeOptional (Tag.field 1) stored.pointField ++ []) =
      some (stored.pointField, []) := by
    refine optional?_encodeOptional (by decide) ?_ (by simp)
    intro field isField
    exact Nat.lt_of_le_of_lt (length_le_of_mem_pointField field isField) (by decide)
  rw [List.append_nil] at pointRead
  rw [ellipticContent] at content
  simp only [readEllipticKey?, content, version, scalar, curveRead, pointRead, readCurveField,
    readPointField, finish?_nil, Option.bind_eq_bind, Option.bind_some]
  rfl

/-! ## Decoding -/

theorem naturalOf_scalar (stored : StoredScalar curve) :
    naturalOf (bigEndian curve.byteLength stored.scalar) = stored.scalar := by
  rw [naturalOf_bigEndian]
  exact Nat.mod_eq_of_lt (Nat.lt_of_lt_of_le stored.below curve.order_le)

theorem curve_named (curve : Curve) :
    (CurveReference.named curve.identifier).curve = .ok curve := by
  rw [CurveReference.curve, Curve.ofIdentifier?_identifier]

/-- A key on a curve decodes to its scalar if the curve is named outside or inside. -/
theorem decodeElliptic_encodeElliptic (stored : StoredScalar curve) {outside inside : Bool}
    (named : outside = true ∨ inside = true) :
    decodeElliptic (reference curve outside) (encodeElliptic stored inside) =
      .ok (.elliptic curve stored.scalar) := by
  have agreed : agreedReference (reference curve outside) (reference curve inside) =
      .ok (.named curve.identifier) := by
    cases outside <;> cases inside <;> simp [agreedReference, reference] at named ⊢
  have inRange : scalarInRange curve stored.scalar = true := by
    simp [scalarInRange, stored.positive, stored.below]
  have isPoint : stored.point.all (curve.matchesScalar stored.scalar) = true := by
    cases point : stored.point with
    | none => rfl
    | some bytes => simpa [Curve.matchesScalar] using stored.isPoint bytes point
  simp [decodeElliptic, readEllipticKey?_encodeElliptic, wellFormed, require, agreed, curve_named,
    length_bigEndian, naturalOf_scalar, inRange, isPoint]

/-! ## Wrapped keys -/

/-- An attribute: what it is about, and its values. -/
structure Attribute where
  identifier : Bytes
  isIdentifier : isObjectIdentifier identifier = true
  values : Bytes

/-- An attribute as an element. -/
def Attribute.element (entry : Attribute) : Element :=
  ⟨Tag.sequence, encode Tag.objectIdentifier entry.identifier ++ entry.values⟩

/-- Attributes, one behind the other. -/
def encodeAttributes (attributes : List Attribute) : Bytes :=
  encodeAll (attributes.map Attribute.element)

/-- What a wrapped key says beyond its scalar: whether the curve is named inside as well, and
attributes of up to two gigabytes, if any. -/
structure Wrapping where
  inside : Bool
  attributes : Option (List Attribute)
  short : ∀ listed ∈ attributes, (encodeAttributes listed).length < 2 ^ 31

/-- The identifier of keys on a curve. -/
def ellipticIdentifier : Bytes :=
  [0x2A, 0x86, 0x48, 0xCE, 0x3D, 0x02, 0x01]

/-- The algorithm of keys on a curve, which names the curve. -/
def algorithmContent (curve : Curve) : Bytes :=
  encode Tag.objectIdentifier ellipticIdentifier ++ encodeCurve curve

/-- The field of the attributes, if there are any. -/
def Wrapping.attributesField (wrapping : Wrapping) : Option Bytes :=
  wrapping.attributes.map encodeAttributes

/-- The fields of a wrapped key. -/
def wrappedContent (stored : StoredScalar curve) (wrapping : Wrapping) : Bytes :=
  encode Tag.integer [0] ++
    (encode Tag.sequence (algorithmContent curve) ++
      (encode Tag.octetString (encodeElliptic stored wrapping.inside) ++
        encodeOptional (Tag.field 0) wrapping.attributesField))

/-- A wrapped key. -/
def encodeWrapped (stored : StoredScalar curve) (wrapping : Wrapping) : Bytes :=
  encode Tag.sequence (wrappedContent stored wrapping)

theorem length_encodeElliptic_le (stored : StoredScalar curve) (named : Bool) :
    (encodeElliptic stored named).length ≤ 252 := by
  have content := length_ellipticContent_le stored named
  have whole : (encodeElliptic stored named).length ≤ (ellipticContent stored named).length + 6 :=
    length_encode_le _ (by omega)
  omega

theorem length_algorithmContent_le (curve : Curve) : (algorithmContent curve).length ≤ 24 := by
  have curveLength := length_encodeCurve_le curve
  have identifier : (encode Tag.objectIdentifier ellipticIdentifier).length = 9 := rfl
  rw [algorithmContent, List.length_append]
  omega

theorem length_le_of_mem_attributesField {wrapping : Wrapping} :
    ∀ content ∈ wrapping.attributesField, content.length ≤ 2 ^ 31 := by
  intro content isField
  obtain ⟨listed, isListed, rfl⟩ := Option.map_eq_some_iff.mp isField
  exact Nat.le_of_lt (wrapping.short listed isListed)

theorem length_wrappedContent_lt (stored : StoredScalar curve) (wrapping : Wrapping) :
    (wrappedContent stored wrapping).length < 2 ^ 32 := by
  have keyLength := length_encodeElliptic_le stored wrapping.inside
  have algorithmLength := length_algorithmContent_le curve
  have version : (encode Tag.integer [0]).length = 3 := rfl
  have algorithm : (encode Tag.sequence (algorithmContent curve)).length ≤
      (algorithmContent curve).length + 6 := length_encode_le _ (by omega)
  have key : (encode Tag.octetString (encodeElliptic stored wrapping.inside)).length ≤
      (encodeElliptic stored wrapping.inside).length + 6 := length_encode_le _ (by omega)
  have attributes : (encodeOptional (Tag.field 0) wrapping.attributesField).length ≤ 2 ^ 31 + 6 :=
    length_encodeOptional_le _ length_le_of_mem_attributesField (by decide)
  rw [wrappedContent, List.length_append, List.length_append, List.length_append]
  omega

/-- Attributes are read as such. -/
theorem areAttributes_encodeAttributes {attributes : List Attribute}
    (short : (encodeAttributes attributes).length < 2 ^ 31) :
    areAttributes (encodeAttributes attributes) = true := by
  have low : ∀ element ∈ attributes.map Attribute.element, IsLow element.tag := by
    intro element member
    obtain ⟨entry, _, rfl⟩ := List.mem_map.mp member
    exact (by decide : IsLow Tag.sequence)
  have read := allElements?_encodeAll low (by rw [← encodeAttributes]; omega)
  rw [areAttributes, encodeAttributes, read]
  simp only [List.all_eq_true]
  intro element member
  have within := length_content_le member
  obtain ⟨entry, _, rfl⟩ := List.mem_map.mp member
  rw [← encodeAttributes, Attribute.element, List.length_append] at within
  have identifier := length_le_encode Tag.objectIdentifier entry.identifier
  have identified := readObjectIdentifier?_encode entry.isIdentifier (by omega) entry.values
  simp [Attribute.element, identified]

theorem readAlgorithm?_algorithmContent (curve : Curve) :
    readAlgorithm? (algorithmContent curve) = some (.elliptic (.named curve.identifier)) := by
  have identified : readObjectIdentifier? (algorithmContent curve) =
      some (ellipticIdentifier, encodeCurve curve) :=
    readObjectIdentifier?_encode (by decide) (by decide) _
  simp only [readAlgorithm?, identified, Option.bind_eq_bind, Option.bind_some, readParameters?]
  have known : ellipticIdentifier = [0x2A, 0x86, 0x48, 0xCE, 0x3D, 0x02, 0x01] := rfl
  rw [if_pos known, readCurveReference?_encodeCurve]
  rfl

/-- A wrapped key is read field by field. -/
theorem readWrappedKey?_encodeWrapped (stored : StoredScalar curve) (wrapping : Wrapping) :
    readWrappedKey? (encodeWrapped stored wrapping) =
      some ⟨0, .elliptic (.named curve.identifier), encodeElliptic stored wrapping.inside⟩ := by
  have keyLength := length_encodeElliptic_le stored wrapping.inside
  have algorithmLength := length_algorithmContent_le curve
  have content : only? Tag.sequence (encodeWrapped stored wrapping) =
      some (wrappedContent stored wrapping) :=
    only?_encode (by decide) (length_wrappedContent_lt stored wrapping)
  have version (rest : Bytes) :
      readVersion? (encode Tag.integer [0] ++ rest) = some (0, rest) :=
    readVersion?_encode (by decide) rest
  have algorithm (rest : Bytes) :
      expect? Tag.sequence (encode Tag.sequence (algorithmContent curve) ++ rest) =
        some (algorithmContent curve, rest) := expect?_encode (by decide) (by omega) rest
  have key (rest : Bytes) :
      expect? Tag.octetString
          (encode Tag.octetString (encodeElliptic stored wrapping.inside) ++ rest) =
        some (encodeElliptic stored wrapping.inside, rest) :=
    expect?_encode (by decide) (by omega) rest
  have attributes : optional? (Tag.field 0)
      (encodeOptional (Tag.field 0) wrapping.attributesField ++ []) =
        some (wrapping.attributesField, []) := by
    refine optional?_encodeOptional (by decide) ?_ (by simp)
    intro field isField
    exact Nat.lt_of_le_of_lt (length_le_of_mem_attributesField field isField) (by decide)
  have sound : wrapping.attributesField.all areAttributes = true := by
    rw [Wrapping.attributesField]
    cases listed : wrapping.attributes with
    | none => rfl
    | some list => exact areAttributes_encodeAttributes (wrapping.short list listed)
  rw [List.append_nil] at attributes
  rw [wrappedContent] at content
  simp only [readWrappedKey?, content, version, algorithm, readAlgorithm?_algorithmContent, key,
    attributes, sound, finish?_nil, Option.bind_eq_bind, Option.bind_some]
  rfl

/-- A wrapped key decodes to its scalar. -/
theorem decodeWrapped_encodeWrapped (stored : StoredScalar curve) (wrapping : Wrapping) :
    decodeWrapped (encodeWrapped stored wrapping) = .ok (.elliptic curve stored.scalar) := by
  have inside : decodeElliptic (some (.named curve.identifier))
      (encodeElliptic stored wrapping.inside) = .ok (.elliptic curve stored.scalar) :=
    decodeElliptic_encodeElliptic stored (.inl rfl)
  simp [decodeWrapped, readWrappedKey?_encodeWrapped, wellFormed, require, inside]

end ProxyLauncher.Key
