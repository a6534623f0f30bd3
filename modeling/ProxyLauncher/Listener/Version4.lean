/-!
# Numeric addresses of the fourth version

An address is a number of thirty-two bits. It is written as four decimal bytes.
It is read more liberally, from one to four parts: all but the last part are
bytes, and the last part fills what is left. A part is decimal, octal after a
zero, or hexadecimal after a zero and an x.
-/

namespace ProxyLauncher.Listener.Version4

/-- The value of a hexadecimal digit. -/
def digitValue? (character : Char) : Option Nat :=
  if '0' ≤ character && character ≤ '9' then some (character.toNat - 48)
  else if 'a' ≤ character && character ≤ 'f' then some (character.toNat - 87)
  else if 'A' ≤ character && character ≤ 'F' then some (character.toNat - 55)
  else none

/-- Reads the digits of a number in some base on top of what was read before. -/
def readDigits? (base : Nat) : Nat → List Char → Option Nat
  | value, [] => some value
  | value, character :: rest =>
    match digitValue? character with
    | some digit => if digit < base then readDigits? base (base * value + digit) rest else none
    | none => none

/-- Reads one part of an address. -/
def readPart? : List Char → Option Nat
  | [] => none
  | '0' :: mark :: digits =>
    if mark = 'x' || mark = 'X' then
      if digits.isEmpty then none else readDigits? 16 0 digits
    else readDigits? 8 0 (mark :: digits)
  | digits => readDigits? 10 0 digits

/-- Puts parts together: bytes, and a last part below the given bound. -/
def combine? (bound : Nat) : Nat → List Nat → Option Nat
  | _, [] => none
  | value, [last] => if last < bound then some (value * bound + last) else none
  | value, part :: rest => if part < 256 then combine? (bound / 256) (value * 256 + part) rest else none

/-- Reads a numeric address in any of its forms. -/
def read? (text : List Char) : Option Nat := do
  let parts ← (text.splitOnP (· = '.')).mapM readPart?
  if parts.length ≤ 4 then combine? 4294967296 0 parts else none

/-- Reads a decimal byte without superfluous zeros. -/
def readByte? (digits : List Char) : Option Nat :=
  if digits = [] || (digits.head? = some '0' && digits.length ≠ 1) then none
  else (readDigits? 10 0 digits).filter (· < 256)

/-- Reads four decimal bytes. -/
def readBytes? (text : List Char) : Option Nat := do
  let bytes ← (text.splitOnP (· = '.')).mapM readByte?
  if bytes.length = 4 then combine? 4294967296 0 bytes else none

/-- Writes an address as four decimal bytes. -/
def render (address : Nat) : String :=
  ".".intercalate
    ([address / 16777216, address / 65536 % 256, address / 256 % 256, address % 256].map toString)

end ProxyLauncher.Listener.Version4
