import ProxyLauncher.Number.Integer
import ProxyLauncher.Number.Shortest
import ProxyLauncher.Text.Quoted

/-!
# Durations

A duration is an optional sign and either a lone `0` or one or more groups of
an ASCII decimal and a unit, such as `1m30.5s`. Its value in seconds is the sum
of the groups from left to right, each group the rounded decimal times the
length of its unit; the sign is applied last. A sum beyond the greatest number
of nanoseconds that fits 63 bits is refused.

The reader takes one group at a time: the longest decimal, then the longest
unit. No shorter choice could ever succeed, because a unit starts with no digit
and no point, and no group starts with a letter.
-/

namespace ProxyLauncher

open Number

/-- The units of time that a group may carry. -/
inductive TimeUnit where
  | nanosecond
  | microsecond
  | millisecond
  | second
  | minute
  | hour
  deriving DecidableEq, Repr

/-- The length of a unit in seconds. -/
def TimeUnit.seconds : TimeUnit → Binary64
  | .nanosecond => .ofDecimal false 1 (-9)
  | .microsecond => .ofDecimal false 1 (-6)
  | .millisecond => .ofDecimal false 1 (-3)
  | .second => .ofDecimal false 1 0
  | .minute => .ofDecimal false 60 0
  | .hour => .ofDecimal false 3600 0

namespace Duration

/-- One group of a duration: an amount and its unit. -/
structure Group where
  amount : Decimal
  unit : TimeUnit
  deriving DecidableEq, Repr

/-- The seconds of one group: the amount rounded, times the unit, rounded again. -/
def Group.seconds (group : Group) : Binary64 :=
  (Binary64.ofDecimal false group.amount.digits group.amount.exponent).mul group.unit.seconds

/-- The seconds of several groups, added up from left to right. -/
def total (groups : List Group) : Binary64 :=
  groups.foldl (fun sum group => sum.add group.seconds) (.zeroOf false)

/-- The longest duration: the number nearest to `2 ^ 63 - 1` nanoseconds. -/
def longest : Binary64 :=
  .ofDecimal false 9223372036854775807 (-9)

/-! ## Reading one group -/

/-- The decimal of the digits before and after a point. -/
def decimalOf (whole fraction : List Char) : Decimal :=
  ⟨Text.numberOfDigits ((whole ++ fraction).map Text.asciiDigitValue), -(fraction.length : Int)⟩

/-- Reads the longest decimal at the start of a text. A point may stand before or after the digits,
but not alone. -/
def readDecimal? (text : List Char) : Option (Decimal × List Char) :=
  let whole := text.takeWhile Integer.isAsciiDigit
  match text.dropWhile Integer.isAsciiDigit with
  | '.' :: rest =>
    let fraction := rest.takeWhile Integer.isAsciiDigit
    if whole.isEmpty && fraction.isEmpty then none
    else some (decimalOf whole fraction, rest.dropWhile Integer.isAsciiDigit)
  | rest => if whole.isEmpty then none else some (decimalOf whole [], rest)

/-- Reads the longest unit at the start of a text. Microseconds have three spellings: with a Latin
letter, with the micro sign and with the Greek letter. -/
def readUnit? : List Char → Option (TimeUnit × List Char)
  | 'n' :: 's' :: rest => some (.nanosecond, rest)
  | 'u' :: 's' :: rest => some (.microsecond, rest)
  | '\u00b5' :: 's' :: rest => some (.microsecond, rest)
  | '\u03bc' :: 's' :: rest => some (.microsecond, rest)
  | 'm' :: 's' :: rest => some (.millisecond, rest)
  | 's' :: rest => some (.second, rest)
  | 'm' :: rest => some (.minute, rest)
  | 'h' :: rest => some (.hour, rest)
  | _ => none

/-- Reads one group at the start of a text. -/
def readGroup? (text : List Char) : Option (Group × List Char) :=
  match readDecimal? text with
  | some (amount, afterAmount) =>
    match readUnit? afterAmount with
    | some (unit, rest) => some (⟨amount, unit⟩, rest)
    | none => none
  | none => none

theorem length_dropWhile_le (test : Char → Bool) (text : List Char) :
    (text.dropWhile test).length ≤ text.length := by
  induction text with
  | nil => simp
  | cons first rest ih =>
    by_cases holds : test first
    · simpa [holds] using Nat.le_succ_of_le ih
    · simp [holds]

/-- What a decimal leaves is not longer than the text. -/
theorem length_of_readDecimal? {text rest : List Char} {amount : Decimal}
    (read : readDecimal? text = some (amount, rest)) : rest.length ≤ text.length := by
  have shorter := length_dropWhile_le Integer.isAsciiDigit text
  simp only [readDecimal?] at read
  split at read
  · rename_i afterPoint dropped
    split at read
    · simp at read
    · simp only [Option.some.injEq, Prod.mk.injEq] at read
      have fractionDropped := length_dropWhile_le Integer.isAsciiDigit afterPoint
      rw [dropped] at shorter
      simp only [List.length_cons] at shorter
      rw [← read.2]
      omega
  · split at read
    · simp at read
    · simp only [Option.some.injEq, Prod.mk.injEq] at read
      rw [← read.2]
      exact shorter

/-- A unit takes at least one character. -/
theorem length_of_readUnit? {text rest : List Char} {unit : TimeUnit}
    (read : readUnit? text = some (unit, rest)) : rest.length < text.length := by
  unfold readUnit? at read
  split at read <;>
    simp only [Option.some.injEq, Prod.mk.injEq, reduceCtorEq] at read <;>
    simp only [← read.2, List.length_cons, Nat.lt_add_right, Nat.lt_add_one]

/-- A group takes at least one character. -/
theorem length_of_readGroup? {text rest : List Char} {group : Group}
    (read : readGroup? text = some (group, rest)) : rest.length < text.length := by
  unfold readGroup? at read
  split at read
  · rename_i amount afterAmount amountRead
    split at read
    · rename_i unit afterUnit unitRead
      have amountLength := length_of_readDecimal? amountRead
      have unitLength := length_of_readUnit? unitRead
      simp only [Option.some.injEq, Prod.mk.injEq] at read
      rw [← read.2]
      omega
    · simp at read
  · simp at read

/-! ## Reading a duration -/

/-- Reads groups until the text is used up. -/
def readGroups? (text : List Char) : Option (List Group) :=
  if text.isEmpty then some []
  else
    match _taken : readGroup? text with
    | some (group, rest) => (readGroups? rest).map (group :: ·)
    | none => none
termination_by text.length
decreasing_by exact length_of_readGroup? _taken

/-- A sum of groups is usable when it is finite and not beyond the longest duration. -/
def withinBounds (sum : Binary64) : Bool :=
  !sum.isInfinite && !longest.less sum

/-- Reads the characters of a duration as seconds. A lone zero is the positive zero whatever its
sign. -/
def readList? (text : List Char) : Option Binary64 :=
  let (negative, unsigned) := Integer.splitSign text
  if unsigned = ['0'] then some (.zeroOf false)
  else if unsigned.isEmpty then none
  else
    match readGroups? unsigned with
    | some groups =>
      let sum := total groups
      if withinBounds sum then some (if negative then sum.negate else sum) else none
    | none => none

/-- Reads a duration as seconds. -/
def read? (text : String) : Option Binary64 :=
  readList? text.toList

/-- The complaint about a text that is no duration. -/
def complaint (text : String) : String :=
  "invalid duration " ++ Text.quoted text

/-- Reads a duration as seconds, or complains about the text. -/
def read (text : String) : Except String Binary64 :=
  match read? text with
  | some seconds => .ok seconds
  | none => .error (complaint text)

end Duration

end ProxyLauncher
