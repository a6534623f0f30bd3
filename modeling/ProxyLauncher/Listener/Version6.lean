import ProxyLauncher.Listener.Version4
import ProxyLauncher.Text.Quoted

/-!
# Numeric addresses of the sixth version

An address is a row of eight groups of sixteen bits. It is written in lower-case
hexadecimal with the longest run of zero groups, the first of several, left out;
where such a run leaves only the last two groups, and these hold an address of
the fourth version, they are written like one.
-/

namespace ProxyLauncher.Listener.Version6

/-- Reads a group: one to four hexadecimal digits. -/
def readGroup? (digits : List Char) : Option Nat :=
  if digits = [] || 4 < digits.length then none else Version4.readDigits? 16 0 digits

/-- Reads groups with colons between. The last field may be an address of the fourth version, if
that is allowed; it makes two groups. -/
def readFields? (allowBytes : Bool) : List (List Char) → Option (List Nat)
  | [] => none
  | [field] =>
    match readGroup? field with
    | some group => some [group]
    | none =>
      if allowBytes then
        (Version4.readBytes? field).map fun address => [address / 65536, address % 65536]
      else none
  | field :: rest => do
    let group ← readGroup? field
    let groups ← readFields? allowBytes rest
    return group :: groups

/-- Reads one side of a gap, which may be empty. -/
def readSide? (allowBytes : Bool) (text : List Char) : Option (List Nat) :=
  if text.isEmpty then some [] else readFields? allowBytes (text.splitOnP (· = ':'))

/-- Splits a text at its first pair of colons. -/
def splitAtGap? : List Char → Option (List Char × List Char)
  | ':' :: ':' :: rest => some ([], rest)
  | character :: rest => (splitAtGap? rest).map fun (before, after) => (character :: before, after)
  | [] => none

/-- Reads an address: eight groups, or fewer with a gap that stands for at least one. -/
def read? (text : List Char) : Option (List Nat) :=
  match splitAtGap? text with
  | none => (readFields? true (text.splitOnP (· = ':'))).filter (·.length = 8)
  | some (before, after) => do
    let front ← readSide? false before
    let back ← readSide? true after
    if front.length + back.length < 8 then
      return front ++ List.replicate (8 - (front.length + back.length)) 0 ++ back
    else none

/-! ## Writing -/

/-- The number of zero groups in front. -/
def zerosInFront (groups : List Nat) : Nat :=
  (groups.takeWhile (· = 0)).length

/-- The longest run of zero groups, by where it begins and how long it is; the first of several. A
single zero group is no run. -/
def longestRun? (groups : List Nat) : Option (Nat × Nat) :=
  let runs := (List.range groups.length).map fun start => (start, zerosInFront (groups.drop start))
  let longest := runs.foldl (fun best run => if best.2 < run.2 then run else best) (0, 0)
  if 2 ≤ longest.2 then some longest else none

/-- The hexadecimal digits of a group, without zeros in front. -/
def groupDigits (group : Nat) : String :=
  String.ofList
    (match (Text.hexDigits 4 group).dropWhile (· = '0') with
      | [] => ['0']
      | digits => digits)

/-- Groups with colons between. -/
def joined (groups : List Nat) : String :=
  ":".intercalate (groups.map groupDigits)

/-- The last two groups hold an address of the fourth version. -/
def endsInBytes (groups : List Nat) : Option (Nat × Nat) → Bool
  | some (0, length) => length = 6 || (length = 5 && groups[5]? = some 0xffff)
  | _ => false

/-- Writes an address. -/
def render (groups : List Nat) : String :=
  match longestRun? groups with
  | none => joined groups
  | some (start, length) =>
    let back := groups.drop (start + length)
    joined (groups.take start) ++ "::" ++
      if endsInBytes groups (some (start, length)) then
        ":".intercalate ((back.dropLast.dropLast).map groupDigits ++
          [Version4.render (65536 * (groups[6]?.getD 0) + groups[7]?.getD 0)])
      else joined back

end ProxyLauncher.Listener.Version6
