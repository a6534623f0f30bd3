import ProxyLauncher.Text.Utf8

/-!
# Base64

Four characters of the alphabet stand for three bytes. The last group may stand
for two bytes or one, and is then padded to four characters; the bits that the
padding leaves unused are zero. So every sequence of bytes has exactly one
written form, and nothing else is read.
-/

namespace ProxyLauncher.Key.Base64

/-- The value of a character of the alphabet, below 64. -/
def sextet? (character : Char) : Option Nat :=
  if 'A' ≤ character && character ≤ 'Z' then some (character.toNat - 0x41)
  else if 'a' ≤ character && character ≤ 'z' then some (character.toNat - 0x61 + 26)
  else if '0' ≤ character && character ≤ '9' then some (character.toNat - 0x30 + 52)
  else if character = '+' then some 62
  else if character = '/' then some 63
  else none

/-- The padding character. -/
def pad : Char := '='

/-- The three bytes of a full group. -/
def fullGroup? (a b c d : Char) : Option Bytes :=
  match sextet? a, sextet? b, sextet? c, sextet? d with
  | some a, some b, some c, some d =>
    some [UInt8.ofNat (a * 4 + b / 16), UInt8.ofNat (b % 16 * 16 + c / 4),
      UInt8.ofNat (c % 4 * 64 + d)]
  | _, _, _, _ => none

/-- The bytes of the last group, which may be padded. -/
def lastGroup? (a b c d : Char) : Option Bytes :=
  if d = pad then
    if c = pad then
      match sextet? a, sextet? b with
      | some a, some b => if b % 16 = 0 then some [UInt8.ofNat (a * 4 + b / 16)] else none
      | _, _ => none
    else
      match sextet? a, sextet? b, sextet? c with
      | some a, some b, some c =>
        if c % 4 = 0 then
          some [UInt8.ofNat (a * 4 + b / 16), UInt8.ofNat (b % 16 * 16 + c / 4)]
        else none
      | _, _, _ => none
  else fullGroup? a b c d

/-- Decodes groups of four characters. -/
def decode? : List Char → Option Bytes
  | [] => some []
  | [a, b, c, d] => lastGroup? a b c d
  | a :: b :: c :: d :: rest =>
    match fullGroup? a b c d, decode? rest with
    | some group, some bytes => some (group ++ bytes)
    | _, _ => none
  | _ => none

end ProxyLauncher.Key.Base64
