/-!
# UTF-8

Bytes decode to characters when they are well-formed UTF-8: no stray or missing
continuation byte, no character in more bytes than it needs, no surrogate and
nothing beyond the last code point.
-/

namespace ProxyLauncher

/-- A sequence of bytes. -/
abbrev Bytes := List UInt8

namespace Text

/-- The payload of a continuation byte. -/
def continuation? (byte : UInt8) : Option Nat :=
  if 0x80 ≤ byte.toNat && byte.toNat < 0xC0 then some (byte.toNat - 0x80) else none

/-- The character of a code point that needs at least the given bound. Surrogates are no
characters. -/
def characterAbove? (bound point : Nat) : Option Char :=
  if bound ≤ point && (point < 0xD800 || (0xE000 ≤ point && point < 0x110000)) then
    some (Char.ofNat point)
  else none

/-- The character of a two-byte sequence. -/
def decodeTwo? (first second : UInt8) : Option Char :=
  match continuation? second with
  | some low =>
    if 0xC0 ≤ first.toNat && first.toNat < 0xE0 then
      characterAbove? 0x80 ((first.toNat - 0xC0) * 0x40 + low)
    else none
  | none => none

/-- The character of a three-byte sequence. -/
def decodeThree? (first second third : UInt8) : Option Char :=
  match continuation? second, continuation? third with
  | some middle, some low =>
    if 0xE0 ≤ first.toNat && first.toNat < 0xF0 then
      characterAbove? 0x800 ((first.toNat - 0xE0) * 0x1000 + middle * 0x40 + low)
    else none
  | _, _ => none

/-- The character of a four-byte sequence. -/
def decodeFour? (first second third fourth : UInt8) : Option Char :=
  match continuation? second, continuation? third, continuation? fourth with
  | some high, some middle, some low =>
    if 0xF0 ≤ first.toNat && first.toNat < 0xF8 then
      characterAbove? 0x10000
        ((first.toNat - 0xF0) * 0x40000 + high * 0x1000 + middle * 0x40 + low)
    else none
  | _, _, _ => none

/-- Decodes bytes to characters. The first byte of a character tells its length. -/
def decodeUtf8? : Bytes → Option (List Char)
  | [] => some []
  | first :: rest =>
    if first.toNat < 0x80 then (decodeUtf8? rest).map (Char.ofNat first.toNat :: ·)
    else
      match rest with
      | [] => none
      | second :: rest =>
        match decodeTwo? first second with
        | some character => (decodeUtf8? rest).map (character :: ·)
        | none =>
          match rest with
          | [] => none
          | third :: rest =>
            match decodeThree? first second third with
            | some character => (decodeUtf8? rest).map (character :: ·)
            | none =>
              match rest with
              | [] => none
              | fourth :: rest =>
                match decodeFour? first second third fourth with
                | some character => (decodeUtf8? rest).map (character :: ·)
                | none => none

/-- The UTF-8 bytes of a character. -/
def encodeCharacter (character : Char) : Bytes :=
  let point := character.toNat
  let continuation (rest : Nat) : UInt8 := UInt8.ofNat (0x80 + rest % 0x40)
  if point < 0x80 then [UInt8.ofNat point]
  else if point < 0x800 then [UInt8.ofNat (0xC0 + point / 0x40), continuation point]
  else if point < 0x10000 then
    [UInt8.ofNat (0xE0 + point / 0x1000), continuation (point / 0x40), continuation point]
  else
    [UInt8.ofNat (0xF0 + point / 0x40000), continuation (point / 0x1000),
      continuation (point / 0x40), continuation point]

/-- The UTF-8 bytes of a string. -/
def encodeUtf8 (text : String) : Bytes :=
  text.toList.flatMap encodeCharacter

end Text

end ProxyLauncher
