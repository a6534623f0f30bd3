import Mathlib.Algebra.Group.Nat.Defs
import ProxyLauncher.Text.Quoted

/-!
# Quoted text reads back

Between its marks a quoted text is a sequence of codes, one for each character.
`readCharacter?` takes one code off the front and gives the character and the
rest, so the codes cannot run into each other, and the text is determined by
them.  The reader need not know the mark, which stands on both sides of the
codes.

No code has a character that is not printable: whatever the text holds, its
quoted form stays on one line.
-/

namespace ProxyLauncher.Text

/-! ## Hexadecimal digits -/

/-- The value of a lower-case hexadecimal digit. -/
def hexValue (digit : Char) : Nat :=
  if digit.toNat < 0x57 then digit.toNat - 0x30 else digit.toNat - 0x57

/-- The number that hexadecimal digits spell, most significant first. -/
def numberOfHex (digits : List Char) : Nat :=
  digits.foldl (fun value digit => 16 * value + hexValue digit) 0

theorem hexValue_hexDigit {value : Nat} (small : value < 16) : hexValue (hexDigit value) = value := by
  have every : ∀ value < 16, hexValue (hexDigit value) = value := by decide
  exact every value small

/-- The digits that are written are the lowest ones. -/
theorem numberOfHex_hexDigits (width value : Nat) :
    numberOfHex (hexDigits width value) = value % 16 ^ width := by
  induction width generalizing value with
  | zero => simp [hexDigits, numberOfHex, Nat.mod_one]
  | succ width ih =>
      have small : value % 16 < 16 := Nat.mod_lt value (by decide)
      have front : numberOfHex (hexDigits width (value / 16)) = value / 16 % 16 ^ width := ih _
      unfold numberOfHex at front ⊢
      rw [hexDigits, List.foldl_append, front, List.foldl_cons, List.foldl_nil,
        hexValue_hexDigit small, Nat.pow_succ', Nat.mod_mul, Nat.add_comm]

/-! ## Reading one code -/

/-- Reads a code point in so many hexadecimal digits. -/
def readPoint (width : Nat) (text : List Char) : Char × List Char :=
  (Char.ofNat (numberOfHex (text.take width)), text.drop width)

/-- Reads what stands behind a backslash. -/
def readEscape? : List Char → Option (Char × List Char)
  | [] => none
  | 'n' :: rest => some ('\n', rest)
  | 'r' :: rest => some ('\r', rest)
  | 't' :: rest => some ('\t', rest)
  | 'x' :: rest => some (readPoint 2 rest)
  | 'u' :: rest => some (readPoint 4 rest)
  | 'U' :: rest => some (readPoint 8 rest)
  | character :: rest => some (character, rest)

/-- Reads the code of one character. -/
def readCharacter? : List Char → Option (Char × List Char)
  | [] => none
  | first :: rest => if first = '\\' then readEscape? rest else some (first, rest)

theorem readPoint_hexDigits {width : Nat} {character : Char}
    (fits : character.toNat < 16 ^ width) (rest : List Char) :
    readPoint width (hexDigits width character.toNat ++ rest) = (character, rest) := by
  have size := hexDigits_length width character.toNat
  have front : (hexDigits width character.toNat ++ rest).take width =
      hexDigits width character.toNat := List.take_left' size
  have back : (hexDigits width character.toNat ++ rest).drop width = rest := List.drop_left' size
  rw [readPoint, front, back, numberOfHex_hexDigits, Nat.mod_eq_of_lt fits, Char.ofNat_toNat]

theorem readCharacter?_escapedPoint (character : Char) (rest : List Char) :
    readCharacter? (escapedPoint character ++ rest) = some (character, rest) := by
  unfold escapedPoint
  split
  · rename_i fits
    exact congrArg some (readPoint_hexDigits (show character.toNat < 16 ^ 2 from fits) rest)
  · split
    · rename_i fits
      exact congrArg some (readPoint_hexDigits (show character.toNat < 16 ^ 4 from fits) rest)
    · have fits : character.toNat < 16 ^ 8 := character.val.toNat_lt
      exact congrArg some (readPoint_hexDigits fits rest)

/-- The marks that a text can be written between. -/
theorem quotationMark_eq (text : List Char) :
    quotationMark text = singleMark ∨ quotationMark text = doubleMark := by
  unfold quotationMark
  split
  · exact .inr rfl
  · exact .inl rfl

/-- The codes that a character can have between two marks. -/
inductive Code (mark : Char) : Char → List Char → Prop
  | special {character : Char} (special : character = mark ∨ character = '\\') :
      Code mark character ['\\', character]
  | newline : Code mark '\n' ['\\', 'n']
  | carriageReturn : Code mark '\r' ['\\', 'r']
  | tabulator : Code mark '\t' ['\\', 't']
  | plain {character : Char} (unescaped : character ≠ '\\')
      (printable : isPrintable character = true) : Code mark character [character]
  | point (character : Char) : Code mark character (escapedPoint character)

theorem code_quotedCharacter (mark character : Char) :
    Code mark character (quotedCharacter mark character) := by
  unfold quotedCharacter
  split
  · rename_i special
    apply Code.special
    simpa using special
  · rename_i plain
    simp only [Bool.or_eq_true, decide_eq_true_iff, not_or] at plain
    split
    · rename_i newline
      rw [newline]
      exact .newline
    · split
      · rename_i carriageReturn
        rw [carriageReturn]
        exact .carriageReturn
      · split
        · rename_i tabulator
          rw [tabulator]
          exact .tabulator
        · split
          · rename_i printable
            exact .plain plain.2 printable
          · exact .point character

section Marked

variable {mark : Char} (marks : mark = singleMark ∨ mark = doubleMark)

include marks

/-- The code of a character is read as the character, whatever stands behind it. -/
theorem readCharacter?_code {character : Char} {code : List Char} (codes : Code mark character code)
    (rest : List Char) : readCharacter? (code ++ rest) = some (character, rest) := by
  cases codes with
  | special special =>
      rcases special with rfl | rfl
      · rcases marks with rfl | rfl <;> rfl
      · rfl
  | newline => rfl
  | carriageReturn => rfl
  | tabulator => rfl
  | plain unescaped => exact if_neg unescaped
  | point => exact readCharacter?_escapedPoint character rest

/-- Codes one behind the other are told apart. -/
theorem flatMap_quotedCharacter_inj {first second : List Char}
    (same : first.flatMap (quotedCharacter mark) = second.flatMap (quotedCharacter mark)) :
    first = second := by
  have step (character : Char) (text : List Char) :
      readCharacter? ((character :: text).flatMap (quotedCharacter mark)) =
        some (character, text.flatMap (quotedCharacter mark)) :=
    readCharacter?_code marks (code_quotedCharacter mark character) _
  induction first generalizing second with
  | nil =>
      cases second with
      | nil => rfl
      | cons other others =>
          have reads := step other others
          rw [← same] at reads
          cases reads
  | cons character text ih =>
      cases second with
      | nil =>
          have reads := step character text
          rw [same] at reads
          cases reads
      | cons other others =>
          have reads := step other others
          rw [← same, step character text] at reads
          simp only [Option.some.injEq, Prod.mk.injEq] at reads
          rw [reads.1, ih reads.2]

end Marked

/-! ## The whole form -/

theorem quotedList_injective {first second : List Char}
    (same : quotedList first = quotedList second) : first = second := by
  unfold quotedList at same
  simp only [List.cons_append, List.cons.injEq] at same
  rw [same.1] at same
  exact flatMap_quotedCharacter_inj (quotationMark_eq second) (List.append_cancel_right same.2)

/-- Different texts are quoted differently. -/
theorem quoted_injective {first second : String} (same : quoted first = quoted second) :
    first = second := by
  apply String.toList_inj.mp
  apply quotedList_injective
  exact String.ofList_inj.mp same

/-- A quoted text begins with a quotation mark. -/
theorem head?_quoted (text : String) :
    (quoted text).toList.head? = some (quotationMark text.toList) := by
  simp [quoted, quotedList]

/-! ## Printable characters -/

theorem isPrintable_of_ascii {character : Char} (visible : 0x20 ≤ character.toNat)
    (ascii : character.toNat < 0x7F) : isPrintable character = true := by
  have apart : unprintableRanges.all (fun range => range.2 < 0x20 || 0x7F ≤ range.1) = true := by
    decide +kernel
  rw [isPrintable_iff]
  rintro range listed ⟨above, below⟩
  have outside := List.all_eq_true.mp apart range listed
  simp only [Bool.or_eq_true, decide_eq_true_eq] at outside
  omega

theorem isPrintable_hexDigits (width value : Nat) :
    ∀ digit ∈ hexDigits width value, isPrintable digit = true := by
  have every : ∀ value < 16, isPrintable (hexDigit value) = true := by decide
  induction width generalizing value with
  | zero => simp [hexDigits]
  | succ width ih =>
      intro digit member
      rcases List.mem_append.mp member with front | last
      · exact ih _ digit front
      · rw [List.mem_singleton.mp last]
        exact every _ (Nat.mod_lt value (by decide))

theorem isPrintable_escapedPoint (character : Char) :
    ∀ code ∈ escapedPoint character, isPrintable code = true := by
  have introduced {kind : Char} (width : Nat) (printable : isPrintable kind = true) :
      ∀ code ∈ '\\' :: kind :: hexDigits width character.toNat, isPrintable code = true := by
    rw [List.forall_mem_cons, List.forall_mem_cons]
    exact ⟨by decide, printable, isPrintable_hexDigits width character.toNat⟩
  unfold escapedPoint
  split
  · exact introduced 2 (by decide)
  · split
    · exact introduced 4 (by decide)
    · exact introduced 8 (by decide)

theorem isPrintable_code {mark character : Char} {code : List Char}
    (printable : isPrintable mark = true) (codes : Code mark character code) :
    ∀ written ∈ code, isPrintable written = true := by
  cases codes with
  | special special =>
      rw [List.forall_mem_cons, List.forall_mem_singleton]
      refine ⟨by decide, ?_⟩
      rcases special with rfl | rfl
      · exact printable
      · decide
  | newline => exact List.all_eq_true.mp (by decide)
  | carriageReturn => exact List.all_eq_true.mp (by decide)
  | tabulator => exact List.all_eq_true.mp (by decide)
  | plain _ own => simpa using own
  | point => exact isPrintable_escapedPoint character

/-- Whatever a text holds, its quoted form is printable. -/
theorem isPrintable_quoted (text : String) :
    ∀ character ∈ (quoted text).toList, isPrintable character = true := by
  have printable : isPrintable (quotationMark text.toList) = true := by
    rcases quotationMark_eq text.toList with single | double
    · rw [single]
      decide
    · rw [double]
      decide
  intro character member
  simp only [quoted, quotedList, String.toList_ofList, List.cons_append, List.mem_cons,
    List.mem_append, List.mem_flatMap, List.not_mem_nil, or_false] at member
  rcases member with rfl | ⟨original, _, coded⟩ | rfl
  · exact printable
  · exact isPrintable_code printable (code_quotedCharacter _ original) character coded
  · exact printable

end ProxyLauncher.Text
