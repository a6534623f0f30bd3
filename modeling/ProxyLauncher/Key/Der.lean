import ProxyLauncher.Text.Utf8

/-!
# DER elements

Key structures are nested elements of a tag, a length and a content. The
reading is strict: a length is written in as few bytes as possible and never
left open, an integer has no superfluous leading byte, and where a structure
ends nothing may follow.
-/

namespace ProxyLauncher.Key.Der

/-- The tags that keys use. -/
abbrev Tag := UInt8

namespace Tag

def integer : Tag := 0x02
def bitString : Tag := 0x03
def octetString : Tag := 0x04
def null : Tag := 0x05
def objectIdentifier : Tag := 0x06
def sequence : Tag := 0x30
def set : Tag := 0x31

/-- The tag of a numbered constructed field. -/
def field (number : UInt8) : Tag := 0xA0 + number

end Tag

/-- A tag and its content. -/
structure Element where
  tag : Tag
  content : Bytes
  deriving DecidableEq, Repr

/-- The natural number of bytes, most significant first. -/
def naturalOf (bytes : Bytes) : Nat :=
  bytes.foldl (fun value byte => 256 * value + byte.toNat) 0

/-! ## Elements -/

/-- Reads a length. Lengths below 128 take one byte; longer ones say first how many bytes they take,
at most four. -/
def readLength? : Bytes → Option (Nat × Bytes)
  | [] => none
  | first :: rest =>
    if first.toNat < 0x80 then some (first.toNat, rest)
    else
      let count := first.toNat - 0x80
      let digits := rest.take count
      let length := naturalOf digits
      if count = 0 || 4 < count || rest.length < count || digits.head? = some 0 || length < 0x80 then
        none
      else some (length, rest.drop count)

/-- Reads one element. Tags of more than one byte are not used by keys. -/
def readElement? : Bytes → Option (Element × Bytes)
  | [] => none
  | tag :: rest =>
    if tag.toNat % 0x20 = 0x1F then none
    else
      match readLength? rest with
      | some (length, body) =>
        if body.length < length then none else some (⟨tag, body.take length⟩, body.drop length)
      | none => none

/-- Reads an element of a certain tag. -/
def expect? (tag : Tag) (bytes : Bytes) : Option (Bytes × Bytes) :=
  match readElement? bytes with
  | some (element, rest) => if element.tag = tag then some (element.content, rest) else none
  | none => none

/-- Reads an element of a certain tag if one comes next. -/
def optional? (tag : Tag) (bytes : Bytes) : Option (Option Bytes × Bytes) :=
  if bytes.head? = some tag then
    (expect? tag bytes).map fun (content, rest) => (some content, rest)
  else some (none, bytes)

/-- Reads an element of a certain tag that is followed by nothing. -/
def only? (tag : Tag) (bytes : Bytes) : Option Bytes :=
  match expect? tag bytes with
  | some (content, []) => some content
  | _ => none

/-- Succeeds where nothing is left. -/
def finish? (bytes : Bytes) : Option Unit :=
  if bytes.isEmpty then some () else none

/-- Reads elements until nothing is left, at most as many as there are bytes. -/
def elements? : Nat → Bytes → Option (List Element)
  | _, [] => some []
  | 0, _ :: _ => none
  | bound + 1, bytes =>
    match readElement? bytes with
    | some (element, rest) => (elements? bound rest).map (element :: ·)
    | none => none

/-- Every element of a content. -/
def allElements? (bytes : Bytes) : Option (List Element) :=
  elements? bytes.length bytes

/-! ## Contents -/

/-- The content of an integer that is not negative: no superfluous zero byte, no sign bit. -/
def natural? (content : Bytes) : Option Nat :=
  match content with
  | [] => none
  | [byte] => if byte.toNat < 0x80 then some byte.toNat else none
  | first :: second :: _ =>
    if first.toNat < 0x80 && !(first = 0 && second.toNat < 0x80) then some (naturalOf content)
    else none

/-- Reads an integer that is not negative. -/
def readNatural? (bytes : Bytes) : Option (Nat × Bytes) :=
  match expect? Tag.integer bytes with
  | some (content, rest) => (natural? content).map (·, rest)
  | none => none

/-- Reads a version number, an integer of one byte. -/
def readVersion? (bytes : Bytes) : Option (Nat × Bytes) :=
  (readNatural? bytes).filter (·.1 < 256)

/-- Reads as many integers as asked for. -/
def readNaturals? : Nat → Bytes → Option (List Nat × Bytes)
  | 0, bytes => some ([], bytes)
  | count + 1, bytes =>
    match readNatural? bytes with
    | some (value, rest) =>
      (readNaturals? count rest).map fun (values, left) => (value :: values, left)
    | none => none

/-- The content of an object identifier: arcs of seven bits a byte, each without a leading zero and
each finished. -/
def isObjectIdentifier (content : Bytes) : Bool :=
  let starts := content.zip (0 :: content)
  !content.isEmpty && content.getLast?.all (·.toNat < 0x80) &&
    starts.all fun (byte, previous) => !(previous.toNat < 0x80 && byte = 0x80)

/-- Reads an object identifier. -/
def readObjectIdentifier? (bytes : Bytes) : Option (Bytes × Bytes) :=
  (expect? Tag.objectIdentifier bytes).filter fun (content, _) => isObjectIdentifier content

/-- The content of a bit string: the count of unused bits, which are zero, and the bytes. -/
def bits? (content : Bytes) : Option Bytes :=
  match content with
  | [] => none
  | unused :: bytes =>
    let lowest := (bytes.getLast?.map UInt8.toNat).getD 0
    if 7 < unused.toNat || (bytes.isEmpty && unused ≠ 0) || lowest % Nat.pow 2 unused.toNat ≠ 0 then
      none
    else some bytes

end ProxyLauncher.Key.Der
