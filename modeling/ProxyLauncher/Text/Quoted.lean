import ProxyLauncher.Text.Printable

/-!
# Quoted text

Messages show a text between quotation marks so that it can be read back
without doubt. The mark is the single one, unless the text holds a single mark
and no double one. The mark in use, the backslash and what is not printable
are written with a backslash; all else stands as it is.
-/

namespace ProxyLauncher.Text

/-- The single quotation mark. -/
def singleMark : Char := '\x27'

/-- The double quotation mark. -/
def doubleMark : Char := '"'

/-- The mark that a text is written between. -/
def quotationMark (text : List Char) : Char :=
  if text.contains singleMark && !text.contains doubleMark then doubleMark else singleMark

/-- The lower-case hexadecimal digit of a value below sixteen. -/
def hexDigit (value : Nat) : Char :=
  if value < 10 then Char.ofNat (0x30 + value) else Char.ofNat (0x57 + value)

/-- The lowest hexadecimal digits of a number, as many as asked for. -/
def hexDigits : Nat → Nat → List Char
  | 0, _ => []
  | width + 1, value => hexDigits width (value / 16) ++ [hexDigit (value % 16)]

/-- A character that cannot stand for itself is written by its code point, in two, four or eight
hexadecimal digits. -/
def escapedPoint (character : Char) : List Char :=
  if character.toNat < 0x100 then '\\' :: 'x' :: hexDigits 2 character.toNat
  else if character.toNat < 0x10000 then '\\' :: 'u' :: hexDigits 4 character.toNat
  else '\\' :: 'U' :: hexDigits 8 character.toNat

/-- How one character is written between two marks. -/
def quotedCharacter (mark character : Char) : List Char :=
  if character = mark || character = '\\' then ['\\', character]
  else if character = '\n' then ['\\', 'n']
  else if character = '\r' then ['\\', 'r']
  else if character = '\t' then ['\\', 't']
  else if isPrintable character then [character]
  else escapedPoint character

/-- The written form of a text: its characters, escaped where needed, between two marks. -/
def quotedList (text : List Char) : List Char :=
  let mark := quotationMark text
  mark :: text.flatMap (quotedCharacter mark) ++ [mark]

/-- The written form of a string. -/
def quoted (text : String) : String :=
  String.ofList (quotedList text.toList)

theorem hexDigits_length (width value : Nat) : (hexDigits width value).length = width := by
  induction width generalizing value with
  | zero => rfl
  | succ width ih => simp [hexDigits, ih]

end ProxyLauncher.Text
