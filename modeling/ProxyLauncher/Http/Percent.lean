import ProxyLauncher.Text.Utf8

/-!
# Percent encoding

A character that may not stand in a part of an address is written as the bytes
of its UTF-8 form, each as a percent sign and two hexadecimal digits. Letters,
digits and four marks always stand for themselves; which other marks do depends
on the part.
-/

namespace ProxyLauncher.Http.Percent

/-- The upper-case hexadecimal digit of a value below sixteen. -/
def upperHexDigit (value : Nat) : Char :=
  if value < 10 then Char.ofNat (48 + value) else Char.ofNat (55 + value)

/-- A byte as a percent sign and two digits. -/
def encodeByte (byte : UInt8) : List Char :=
  ['%', upperHexDigit (byte.toNat / 16), upperHexDigit (byte.toNat % 16)]

/-- The characters that stand for themselves everywhere. -/
def isUnreserved (character : Char) : Bool :=
  character.isAlphanum || "_.-~".toList.contains character

/-- A character, encoded unless it is unreserved or one of the given marks. -/
def encodeCharacter (marks : List Char) (character : Char) : List Char :=
  if isUnreserved character || marks.contains character then [character]
  else (Text.encodeCharacter character).flatMap encodeByte

/-- A text, encoded but for unreserved characters and the given marks. -/
def encode (marks : List Char) (text : List Char) : List Char :=
  text.flatMap (encodeCharacter marks)

/-- The marks that stand for themselves in a path. -/
def pathMarks : List Char := "!$&\x27()*+,/:;=@".toList

/-- The marks that stand for themselves in a query that may hold encoded bytes already. -/
def queryMarks : List Char := "%?#".toList ++ pathMarks

end ProxyLauncher.Http.Percent
