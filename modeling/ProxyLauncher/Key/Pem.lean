import ProxyLauncher.Key.Base64
import ProxyLauncher.Text.Blank

/-!
# PEM blocks

A key file holds blocks between a line that begins with a label and a line that
ends with the same label. Between the two stand header lines, if an empty line
follows them, and the Base64 form of the contents, in which white space means
nothing. What stands before, between and after blocks is skipped, and so is a
block that never ends. But a block that ends and is faulty spoils the file.

The marks around a label are looked for in one pass: where a mark breaks off,
the search starts over with the next byte and does not look back. So a dash
right before a mark hides it.
-/

namespace ProxyLauncher.Key.Pem

open ProxyLauncher.Text

/-- What begins a block, before its label. -/
def beginMark : Bytes := encodeUtf8 "-----BEGIN "

/-- What ends the contents of a block, before its label. -/
def endMark : Bytes := encodeUtf8 "-----END "

/-- What follows a label. -/
def labelMark : Bytes := encodeUtf8 "-----"

/-! ## Looking for marks -/

/-- Reads until a mark is complete, of which the given part is still to come, and returns how many
bytes are passed by then, those passed before included, and what follows. A byte that does not fit
starts the mark over. -/
def passMark? (mark : Bytes) : Nat → Bytes → Bytes → Option (Nat × Bytes)
  | _, _, [] => none
  | passed, [], _ :: rest => passMark? mark (passed + 1) mark rest
  | passed, [last], byte :: rest =>
    if byte = last then some (passed + 1, rest) else passMark? mark (passed + 1) mark rest
  | passed, expected :: next :: more, byte :: rest =>
    if byte = expected then passMark? mark (passed + 1) (next :: more) rest
    else passMark? mark (passed + 1) mark rest

/-- Cuts the input at a mark: what stands before it and what follows it. -/
def cutAt? (mark input : Bytes) : Option (Bytes × Bytes) :=
  (passMark? mark 0 mark input).map fun (passed, rest) =>
    (input.take (passed - mark.length), rest)

/-- The input without the spaces, tabs and line breaks at its start. -/
def skipSpace (input : Bytes) : Bytes :=
  input.dropWhile fun byte => byte = 0x20 || byte = 0x09 || byte = 0x0A || byte = 0x0D

theorem length_of_passMark? {mark left input rest : Bytes} {before passed : Nat}
    (found : passMark? mark before left input = some (passed, rest)) :
    rest.length < input.length := by
  fun_induction passMark? mark before left input with
  | case1 => simp at found
  | case2 _ _ _ ih =>
    have shorter := ih found
    simp only [List.length_cons]
    omega
  | case3 =>
    simp only [Option.some.injEq, Prod.mk.injEq] at found
    simp [found.2]
  | case4 _ _ _ _ _ ih =>
    have shorter := ih found
    simp only [List.length_cons]
    omega
  | case5 _ _ _ _ _ ih =>
    have shorter := ih found
    simp only [List.length_cons]
    omega
  | case6 _ _ _ _ _ _ _ ih =>
    have shorter := ih found
    simp only [List.length_cons]
    omega

theorem length_of_cutAt? {mark input before rest : Bytes}
    (cut : cutAt? mark input = some (before, rest)) : rest.length < input.length := by
  simp only [cutAt?, Option.map_eq_some_iff, Prod.exists, Prod.mk.injEq] at cut
  obtain ⟨_, found, foundAt, _, equal⟩ := cut
  subst equal
  exact length_of_passMark? foundAt

theorem length_skipSpace_le (input : Bytes) : (skipSpace input).length ≤ input.length := by
  unfold skipSpace
  induction input with
  | nil => simp
  | cons byte rest ih =>
    simp only [List.dropWhile_cons]
    split
    · simp only [List.length_cons]
      omega
    · simp

/-! ## Framing -/

/-- The parts of a block before they are looked into. -/
structure Frame where
  beginLabel : Bytes
  payload : Bytes
  endLabel : Bytes
  deriving DecidableEq, Repr

/-- Finds the first block of the input. -/
def nextFrame? (input : Bytes) : Option (Frame × Bytes) :=
  (cutAt? beginMark input).bind fun (_, afterBegin) =>
    (cutAt? labelMark afterBegin).bind fun (beginLabel, afterLabel) =>
      (cutAt? endMark (skipSpace afterLabel)).bind fun (payload, afterPayload) =>
        (cutAt? labelMark afterPayload).map fun (endLabel, rest) =>
          (⟨beginLabel, payload, endLabel⟩, skipSpace rest)

theorem length_of_nextFrame? {input rest : Bytes} {frame : Frame}
    (found : nextFrame? input = some (frame, rest)) : rest.length < input.length := by
  simp only [nextFrame?, Option.bind_eq_some_iff, Option.map_eq_some_iff, Prod.exists,
    Prod.mk.injEq] at found
  obtain ⟨_, afterBegin, beginCut, _, afterLabel, labelCut, _, afterPayload, endCut, _, afterEnd,
    lastCut, _, equal⟩ := found
  have beginLength := length_of_cutAt? beginCut
  have labelLength := length_of_cutAt? labelCut
  have endLength := length_of_cutAt? endCut
  have lastLength := length_of_cutAt? lastCut
  have payloadLength := length_skipSpace_le afterLabel
  have restLength := length_skipSpace_le afterEnd
  rw [← equal]
  omega

/-- The blocks of the input, in order. -/
def frames (input : Bytes) : List Frame :=
  match _found : nextFrame? input with
  | some (frame, rest) => frame :: frames rest
  | none => []
termination_by input.length
decreasing_by exact length_of_nextFrame? _found

/-! ## Blocks -/

/-- A block: its label, its headers and its contents. -/
structure Block where
  label : List Char
  headers : List (List Char × List Char)
  contents : Bytes
  deriving DecidableEq, Repr

/-- Splits a text at the first character that fits. -/
def splitAtFirst? (isSeparator : Char → Bool) (text : List Char) :
    Option (List Char × List Char) :=
  match text.dropWhile fun character => !isSeparator character with
  | _ :: rest => some (text.takeWhile fun character => !isSeparator character, rest)
  | [] => none

/-- The lines of a text. A carriage return before a line break belongs to the break, and a break at
the very end starts no further line. -/
def linesOf (text : List Char) : List (List Char) :=
  let raw := text.splitOnP (· = '\n')
  let kept := if raw.getLast? = some [] then raw.dropLast else raw
  kept.map fun line => if line.getLast? = some '\r' then line.dropLast else line

/-- A header line: a name and a value with a colon between. -/
def readHeader? (line : List Char) : Option (List Char × List Char) :=
  (splitAtFirst? (· = ':') line).map fun (name, value) => (trimBlanks name, trimBlanks value)

/-- Splits the headers off a payload, if an empty line stands in it. -/
def splitHeaders (payload : Bytes) : Bytes × Bytes :=
  match cutAt? [0x0A, 0x0A] payload with
  | some parts => parts
  | none =>
    match cutAt? [0x0D, 0x0A, 0x0D, 0x0A] payload with
    | some parts => parts
    | none => ([], payload)

/-- Looks into a frame. The labels have to agree, every header needs its colon, and the contents
their Base64 form. -/
def Frame.block? (frame : Frame) : Option Block := do
  let label ← decodeUtf8? frame.beginLabel
  let endLabel ← decodeUtf8? frame.endLabel
  guard (label ≠ [] ∧ label = endLabel)
  let (headerBytes, bodyBytes) := splitHeaders frame.payload
  let body ← decodeUtf8? bodyBytes
  let contents ← Base64.decode? (body.filter fun character => !isBlank character)
  let headerText ← decodeUtf8? headerBytes
  let headers ← (linesOf headerText).mapM readHeader?
  return ⟨label, headers, contents⟩

/-- Every block of a file, unless one of them is faulty. -/
def blocks? (input : Bytes) : Option (List Block) :=
  (frames input).mapM Frame.block?

/-- The value of a header; of several with one name the last one counts. -/
def Block.header? (block : Block) (name : List Char) : Option (List Char) :=
  block.headers.reverse.lookup name

end ProxyLauncher.Key.Pem
