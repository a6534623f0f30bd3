import ProxyLauncher.Text.Blank
import ProxyLauncher.Text.DecimalDigit

/-!
# Reading and writing integers

Two grammars of integer texts. The plain one is an optional sign and ASCII
digits over the whole text. The lenient one also admits blanks around the
number, digits of every script and single underscores between digits. Both
refuse to convert a text with more than 4300 digits, where leading zeros count
and underscores do not.  Nor is an integer written that has more digits.
-/

namespace ProxyLauncher.Number.Integer

open ProxyLauncher.Text

/-- The greatest number of digits that are converted. -/
def digitLimit : Nat := 4300

/-- Splits an optional sign off; `true` stands for the minus sign. -/
def splitSign : List Char → Bool × List Char
  | '+' :: rest => (false, rest)
  | '-' :: rest => (true, rest)
  | text => (false, text)

/-- An integer of a sign and a magnitude. -/
def signed (negative : Bool) (size : Nat) : Int :=
  if negative then -(size : Int) else (size : Int)

/-- A character is an ASCII digit. -/
def isAsciiDigit (character : Char) : Bool :=
  '0' ≤ character && character ≤ '9'

/-! ## The plain grammar -/

/-- Why a plain text is not converted. -/
inductive PlainFault where
  | malformed
  | tooManyDigits (count : Nat)
  deriving DecidableEq, Repr

/-- Reads an optional sign and one or more ASCII digits that make up the whole text. -/
def readPlain (text : List Char) : Except PlainFault Int :=
  let (negative, digits) := splitSign text
  if digits.isEmpty || !digits.all isAsciiDigit then .error .malformed
  else if digitLimit < digits.length then .error (.tooManyDigits digits.length)
  else .ok (signed negative (numberOfDigits (digits.map asciiDigitValue)))

/-! ## The lenient grammar -/

/-- The values of digits of any script, of which two may have one underscore between them. -/
def separatedDigits? : List Char → Option (List Nat)
  | [] => none
  | [digit] => (digitValue? digit).map ([·])
  | digit :: '_' :: rest =>
    match digitValue? digit, separatedDigits? rest with
    | some value, some values => some (value :: values)
    | _, _ => none
  | digit :: rest =>
    match digitValue? digit, separatedDigits? rest with
    | some value, some values => some (value :: values)
    | _, _ => none

/-- Reads an integer with blanks around it, digits of any script and underscores between them. -/
def readLenient? (text : List Char) : Option Int :=
  let (negative, digits) := splitSign (trimBlanks text)
  match separatedDigits? digits with
  | some values =>
    if digitLimit < values.length then none else some (signed negative (numberOfDigits values))
  | none => none

/-! ## Writing -/

/-- The text of an integer, unless it has too many digits to be converted. -/
def write? (value : Int) : Option String :=
  if (Nat.toDigits 10 value.natAbs).length ≤ digitLimit then some (toString value) else none

/-- What is said of an integer that is not written. -/
def unwritten : String :=
  "Exceeds the limit (4300 digits) for integer string conversion; " ++
    "use sys.set_int_max_str_digits() to increase the limit"

end ProxyLauncher.Number.Integer
