import Mathlib.Algebra.Group.Nat.Defs
import Mathlib.Data.List.Induction
import ProxyLauncher.Key.Der
import ProxyLauncher.Key.Point

/-!
# Writing DER elements

An element is written as its tag, its length in as few bytes as possible, and
its content.  Elements stand one behind the other, and each reader takes its own
off the front and leaves the rest as it is.  So structures are read back field
by field, whatever the fields hold, as long as the lengths fit into the four
bytes that the reader allows for.
-/

namespace ProxyLauncher.Key

open Curve (bigEndian)

namespace Der

/-! ## Numbers in bytes -/

theorem length_bigEndian (length value : Nat) : (bigEndian length value).length = length := by
  induction length generalizing value with
  | zero => rfl
  | succ length ih => rw [bigEndian, List.length_append, ih, List.length_singleton]

theorem naturalOf_concat (bytes : Bytes) (byte : UInt8) :
    naturalOf (bytes ++ [byte]) = 256 * naturalOf bytes + byte.toNat := by
  simp [naturalOf]

/-- Written in some number of bytes, a number is read back up to that many bytes. -/
theorem naturalOf_bigEndian (length value : Nat) :
    naturalOf (bigEndian length value) = value % 256 ^ length := by
  induction length generalizing value with
  | zero => simp [bigEndian, naturalOf, Nat.mod_one]
  | succ length ih =>
      have digits : value % 256 ^ (length + 1) =
          value % 256 + 256 * (value / 256 % 256 ^ length) := by
        rw [Nat.pow_succ', Nat.mod_mul]
      rw [bigEndian, naturalOf_concat, ih, UInt8.toNat_ofNat', digits]
      omega

theorem naturalOf_lt (bytes : Bytes) : naturalOf bytes < 256 ^ bytes.length := by
  induction bytes using List.reverseRecOn with
  | nil => decide
  | append_singleton bytes byte ih =>
      have small := byte.toNat_lt
      rw [naturalOf_concat, List.length_append, List.length_singleton, Nat.pow_succ']
      omega

theorem toNat_ofNat {value : Nat} (small : value < 256) : (UInt8.ofNat value).toNat = value := by
  rw [UInt8.toNat_ofNat', Nat.mod_eq_of_lt small]

/-! ## Lengths -/

/-- How many bytes a number takes. -/
def byteCount (value : Nat) : Nat :=
  value.log2 / 8 + 1

/-- A length as it is written. -/
def encodeLength (length : Nat) : Bytes :=
  if length < 0x80 then [UInt8.ofNat length]
  else UInt8.ofNat (0x80 + byteCount length) :: bigEndian (byteCount length) length

/-- A number takes no more bytes than it needs. -/
theorem byteCount_spec {value : Nat} (positive : 0 < value) :
    256 ^ (byteCount value - 1) ≤ value ∧ value < 256 ^ byteCount value := by
  have power (count : Nat) : 256 ^ count = 2 ^ (8 * count) := by rw [Nat.pow_mul]
  rw [byteCount, Nat.add_sub_cancel, power, power]
  constructor
  · calc 2 ^ (8 * (value.log2 / 8))
        ≤ 2 ^ value.log2 := Nat.pow_le_pow_right (by decide) (by omega)
      _ ≤ value := Nat.log2_self_le (by omega)
  · calc value
        < 2 ^ (value.log2 + 1) := Nat.lt_log2_self
      _ ≤ 2 ^ (8 * (value.log2 / 8 + 1)) := Nat.pow_le_pow_right (by decide) (by omega)

theorem byteCount_le {value count : Nat} (positive : 0 < value) (small : value < 256 ^ count) :
    byteCount value ≤ count := by
  have reached := (byteCount_spec positive).1
  have exponents : byteCount value - 1 < count :=
    (Nat.pow_lt_pow_iff_right (by decide)).mp (Nat.lt_of_le_of_lt reached small)
  omega

/-- The first byte of a number that takes no more bytes than it needs is not zero. -/
theorem head?_bigEndian_ne {value : Nat} (positive : 0 < value) :
    (bigEndian (byteCount value) value).head? ≠ some 0 := by
  intro zero
  have bounds := byteCount_spec positive
  have valueEq := naturalOf_bigEndian (byteCount value) value
  have length := length_bigEndian (byteCount value) value
  rw [Nat.mod_eq_of_lt bounds.2] at valueEq
  cases digits : bigEndian (byteCount value) value with
  | nil =>
      rw [digits] at zero
      contradiction
  | cons first others =>
      rw [digits] at zero valueEq length
      cases zero
      have below := naturalOf_lt others
      have same : naturalOf (0 :: others) = naturalOf others := rfl
      rw [same] at valueEq
      rw [List.length_cons] at length
      rw [← length, Nat.add_sub_cancel] at bounds
      omega

theorem readLength?_encodeLength {length : Nat} (fits : length < 2 ^ 32) (rest : Bytes) :
    readLength? (encodeLength length ++ rest) = some (length, rest) := by
  unfold encodeLength
  by_cases short : length < 0x80
  · rw [if_pos short]
    have firstEq : (UInt8.ofNat length).toNat = length := toNat_ofNat (by omega)
    simp [readLength?, firstEq, short]
  · rw [if_neg short]
    have positive : 0 < length := by omega
    have count : byteCount length ≤ 4 := byteCount_le positive fits
    have nonzero : byteCount length ≠ 0 := Nat.succ_ne_zero _
    have firstEq : (UInt8.ofNat (0x80 + byteCount length)).toNat = 0x80 + byteCount length :=
      toNat_ofNat (by omega)
    have digitsLength := length_bigEndian (byteCount length) length
    have valueEq := naturalOf_bigEndian (byteCount length) length
    have first := head?_bigEndian_ne positive
    rw [Nat.mod_eq_of_lt (byteCount_spec positive).2] at valueEq
    generalize bigEndian (byteCount length) length = digits at *
    have taken : (digits ++ rest).take (byteCount length) = digits := by
      rw [← digitsLength, List.take_left]
    have dropped : (digits ++ rest).drop (byteCount length) = rest := by
      rw [← digitsLength, List.drop_left]
    rw [List.cons_append, readLength?]
    simp only [firstEq, Nat.add_sub_cancel_left, taken, dropped, valueEq]
    rw [if_neg (by omega), if_neg]
    simp [nonzero, count, digitsLength, first, short]

/-! ## Elements -/

/-- An element as it is written. -/
def encode (tag : Tag) (content : Bytes) : Bytes :=
  tag :: (encodeLength content.length ++ content)

/-- An element that may be absent. -/
def encodeOptional (tag : Tag) : Option Bytes → Bytes
  | none => []
  | some content => encode tag content

theorem length_le_encode (tag : Tag) (content : Bytes) :
    content.length ≤ (encode tag content).length := by
  rw [encode, List.length_cons, List.length_append]
  omega

/-- A tag and a length take six bytes at most. -/
theorem length_encode_le (tag : Tag) {content : Bytes} (fits : content.length < 2 ^ 32) :
    (encode tag content).length ≤ content.length + 6 := by
  rw [encode, List.length_cons, List.length_append, encodeLength]
  split
  case isTrue =>
    rw [List.length_singleton]
    omega
  case isFalse long =>
    have count : byteCount content.length ≤ 4 := byteCount_le (by omega) fits
    rw [List.length_cons, length_bigEndian]
    omega

theorem length_encodeOptional_le (tag : Tag) {field : Option Bytes} {bound : Nat}
    (fits : ∀ content ∈ field, content.length ≤ bound) (small : bound < 2 ^ 32) :
    (encodeOptional tag field).length ≤ bound + 6 := by
  cases field with
  | none => exact Nat.zero_le _
  | some content =>
      have within := fits content rfl
      have whole := length_encode_le tag (Nat.lt_of_le_of_lt within small)
      rw [encodeOptional]
      omega

/-- The tag fits into one byte. -/
def IsLow (tag : Tag) : Prop :=
  tag.toNat % 0x20 ≠ 0x1F

instance (tag : Tag) : Decidable (IsLow tag) :=
  inferInstanceAs (Decidable (_ ≠ _))

section Element

variable {tag : Tag} (low : IsLow tag) {content : Bytes} (fits : content.length < 2 ^ 32)

include low fits

theorem readElement?_encode (rest : Bytes) :
    readElement? (encode tag content ++ rest) = some (⟨tag, content⟩, rest) := by
  rw [encode, List.cons_append, readElement?, if_neg low, List.append_assoc,
    readLength?_encodeLength fits]
  simp

theorem expect?_encode (rest : Bytes) :
    expect? tag (encode tag content ++ rest) = some (content, rest) := by
  rw [expect?, readElement?_encode low fits]
  simp

theorem only?_encode : only? tag (encode tag content) = some content := by
  have read := expect?_encode low fits []
  rw [List.append_nil] at read
  rw [only?, read]

end Element

/-- A field is found where it is written, and not where something else comes next. -/
theorem optional?_encodeOptional {tag : Tag} (low : IsLow tag) {field : Option Bytes}
    (fits : ∀ content ∈ field, content.length < 2 ^ 32) {rest : Bytes}
    (apart : rest.head? ≠ some tag) :
    optional? tag (encodeOptional tag field ++ rest) = some (field, rest) := by
  cases field with
  | none => simp [encodeOptional, optional?, apart]
  | some content =>
      have read := expect?_encode low (fits content rfl) rest
      have head : (encodeOptional tag (some content) ++ rest).head? = some tag := rfl
      rw [optional?, if_pos head, encodeOptional, read]
      rfl

/-- Elements that stand one behind the other. -/
def encodeAll (elements : List Element) : Bytes :=
  elements.flatMap fun element => encode element.tag element.content

theorem elements?_encodeAll {elements : List Element}
    (low : ∀ element ∈ elements, IsLow element.tag)
    (fits : ∀ element ∈ elements, element.content.length < 2 ^ 32) {bound : Nat}
    (enough : elements.length ≤ bound) : elements? bound (encodeAll elements) = some elements := by
  induction elements generalizing bound with
  | nil =>
      rw [encodeAll, List.flatMap_nil]
      cases bound <;> rfl
  | cons first rest ih =>
      obtain ⟨bound, rfl⟩ := Nat.exists_eq_add_of_le' (Nat.lt_of_lt_of_le (Nat.succ_pos _) enough)
      have read := readElement?_encode (low first List.mem_cons_self)
        (fits first List.mem_cons_self) (encodeAll rest)
      have restRead := ih (fun element member => low element (List.mem_cons_of_mem first member))
        (fun element member => fits element (List.mem_cons_of_mem first member))
        (Nat.le_of_succ_le_succ enough)
      have written : encodeAll (first :: rest) =
          encode first.tag first.content ++ encodeAll rest := List.flatMap_cons
      rw [written, elements?, read]
      · dsimp only
        rw [restRead]
        rfl
      · simp [encode]

/-- Elements are as many bytes as there are of them, or more. -/
theorem length_le_encodeAll (elements : List Element) :
    elements.length ≤ (encodeAll elements).length := by
  induction elements with
  | nil => exact Nat.zero_le _
  | cons first rest ih =>
      rw [encodeAll, List.flatMap_cons, List.length_append, ← encodeAll, encode]
      simp only [List.length_cons]
      omega

/-- No element has a longer content than all of them take together. -/
theorem length_content_le {elements : List Element} {element : Element}
    (member : element ∈ elements) : element.content.length ≤ (encodeAll elements).length := by
  induction elements with
  | nil => contradiction
  | cons first rest ih =>
      rw [encodeAll, List.flatMap_cons, List.length_append, ← encodeAll]
      rcases List.mem_cons.mp member with rfl | later
      · have within := length_le_encode element.tag element.content
        omega
      · have within := ih later
        omega

theorem allElements?_encodeAll {elements : List Element}
    (low : ∀ element ∈ elements, IsLow element.tag)
    (fits : (encodeAll elements).length < 2 ^ 32) :
    allElements? (encodeAll elements) = some elements := by
  refine elements?_encodeAll low ?_ (length_le_encodeAll elements)
  intro element member
  exact Nat.lt_of_le_of_lt (length_content_le member) fits

/-! ## Contents -/

theorem readVersion?_encode {value : UInt8} (small : value.toNat < 0x80) (rest : Bytes) :
    readVersion? (encode Tag.integer [value] ++ rest) = some (value.toNat, rest) := by
  have short : [value].length < 2 ^ 32 := Nat.one_lt_two_pow (by decide)
  have within : value.toNat < 256 := value.toNat_lt
  rw [readVersion?, readNatural?, expect?_encode (by decide) short]
  simp [natural?, small, within]

theorem readObjectIdentifier?_encode {identifier : Bytes}
    (isIdentifier : isObjectIdentifier identifier = true) (fits : identifier.length < 2 ^ 32)
    (rest : Bytes) :
    readObjectIdentifier? (encode Tag.objectIdentifier identifier ++ rest) =
      some (identifier, rest) := by
  rw [readObjectIdentifier?, expect?_encode (by decide) fits]
  simp [isIdentifier]

/-- A bit string of whole bytes. -/
theorem bits?_whole (bytes : Bytes) : bits? (0 :: bytes) = some bytes := by
  simp [bits?, Nat.mod_one]

end Der

end ProxyLauncher.Key
