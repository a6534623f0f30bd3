import ProxyLauncher.Key.Base64
import ProxyLauncher.Text.Blank

/-!
# Writing Base64

Bytes are written three at a time as four characters of the alphabet.  What is
left over at the end is padded, with zero bits and with padding characters.  The
reader takes back what was written, and the characters are of the kind that
mean something in a key file: none of them is blank.
-/

namespace ProxyLauncher.Key.Base64

/-! ## Characters -/

/-- The characters of the alphabet, in the order of their values. -/
def alphabet : List Char :=
  "ABCDEFGHIJKLMNOPQRSTUVWXYZabcdefghijklmnopqrstuvwxyz0123456789+/".toList

/-- The character of a value below 64. -/
def symbol (value : Nat) : Char :=
  alphabet.getD value pad

/-- Every value is read back from its character, which is not the padding. -/
theorem sextet?_symbol {value : Nat} (small : value < 64) :
    sextet? (symbol value) = some value ∧ symbol value ≠ pad := by
  have every : ∀ value < 64, sextet? (symbol value) = some value ∧ symbol value ≠ pad := by
    decide +kernel
  exact every value small

/-- A character of written Base64. -/
def isWritten (character : Char) : Bool :=
  character == pad || alphabet.contains character

theorem isWritten_pad : isWritten pad = true := rfl

theorem isWritten_symbol (value : Nat) : isWritten (symbol value) = true := by
  rw [symbol, List.getD_eq_getElem?_getD]
  cases found : alphabet[value]? with
  | none => rfl
  | some character => simp [isWritten, List.mem_of_getElem? found]

/-- Written characters take one byte, and none of them is blank. -/
theorem plain_of_isWritten {character : Char} (written : isWritten character = true) :
    character.toNat < 0x80 ∧ Text.isBlank character = false := by
  have every : (pad :: alphabet).all fun character =>
      character.toNat < 0x80 && !Text.isBlank character := by
    decide +kernel
  have member : character ∈ pad :: alphabet := by simpa [isWritten] using written
  simpa using List.all_eq_true.mp every character member

/-! ## Groups -/

/-- The characters of three bytes. -/
def fullGroup (a b c : UInt8) : List Char :=
  [symbol (a.toNat / 4), symbol (a.toNat % 4 * 16 + b.toNat / 16),
    symbol (b.toNat % 16 * 4 + c.toNat / 64), symbol (c.toNat % 64)]

/-- The characters of bytes. -/
def encode : Bytes → List Char
  | [] => []
  | [a] => [symbol (a.toNat / 4), symbol (a.toNat % 4 * 16), pad, pad]
  | [a, b] =>
    [symbol (a.toNat / 4), symbol (a.toNat % 4 * 16 + b.toNat / 16), symbol (b.toNat % 16 * 4), pad]
  | a :: b :: c :: rest => fullGroup a b c ++ encode rest

theorem fullGroup?_symbols (a b c : UInt8) :
    fullGroup? (symbol (a.toNat / 4)) (symbol (a.toNat % 4 * 16 + b.toNat / 16))
      (symbol (b.toNat % 16 * 4 + c.toNat / 64)) (symbol (c.toNat % 64)) = some [a, b, c] := by
  have aSmall := a.toNat_lt
  have bSmall := b.toNat_lt
  have cSmall := c.toNat_lt
  have first : a.toNat / 4 * 4 + (a.toNat % 4 * 16 + b.toNat / 16) / 16 = a.toNat := by omega
  have second : (a.toNat % 4 * 16 + b.toNat / 16) % 16 * 16 +
      (b.toNat % 16 * 4 + c.toNat / 64) / 4 = b.toNat := by omega
  have third : (b.toNat % 16 * 4 + c.toNat / 64) % 4 * 64 + c.toNat % 64 = c.toNat := by omega
  rw [fullGroup?, (sextet?_symbol (by omega)).1, (sextet?_symbol (by omega)).1,
    (sextet?_symbol (by omega)).1, (sextet?_symbol (by omega)).1]
  dsimp only
  rw [first, second, third, UInt8.ofNat_toNat, UInt8.ofNat_toNat, UInt8.ofNat_toNat]

theorem lastGroup?_one (a : UInt8) :
    lastGroup? (symbol (a.toNat / 4)) (symbol (a.toNat % 4 * 16)) pad pad = some [a] := by
  have aSmall := a.toNat_lt
  have unused : a.toNat % 4 * 16 % 16 = 0 := by omega
  have first : a.toNat / 4 * 4 + a.toNat % 4 * 16 / 16 = a.toNat := by omega
  rw [lastGroup?, if_pos rfl, if_pos rfl, (sextet?_symbol (by omega)).1,
    (sextet?_symbol (by omega)).1]
  dsimp only
  rw [if_pos unused, first, UInt8.ofNat_toNat]

theorem lastGroup?_two (a b : UInt8) :
    lastGroup? (symbol (a.toNat / 4)) (symbol (a.toNat % 4 * 16 + b.toNat / 16))
      (symbol (b.toNat % 16 * 4)) pad = some [a, b] := by
  have aSmall := a.toNat_lt
  have bSmall := b.toNat_lt
  have unused : b.toNat % 16 * 4 % 4 = 0 := by omega
  have first : a.toNat / 4 * 4 + (a.toNat % 4 * 16 + b.toNat / 16) / 16 = a.toNat := by omega
  have second : (a.toNat % 4 * 16 + b.toNat / 16) % 16 * 16 + b.toNat % 16 * 4 / 4 =
      b.toNat := by omega
  rw [lastGroup?, if_pos rfl, if_neg (sextet?_symbol (by omega)).2,
    (sextet?_symbol (by omega)).1, (sextet?_symbol (by omega)).1, (sextet?_symbol (by omega)).1]
  dsimp only
  rw [if_pos unused, first, second, UInt8.ofNat_toNat, UInt8.ofNat_toNat]

/-! ## Bytes -/

/-- What was written is read back. -/
theorem decode?_encode (bytes : Bytes) : decode? (encode bytes) = some bytes := by
  fun_induction encode bytes with
  | case1 => rfl
  | case2 a => exact lastGroup?_one a
  | case3 a b => exact lastGroup?_two a b
  | case4 a b c rest ih =>
      have cSmall := c.toNat_lt
      rw [fullGroup]
      cases written : encode rest with
      | nil =>
          rw [written] at ih
          cases ih
          simp only [List.append_nil]
          rw [decode?, lastGroup?, if_neg (sextet?_symbol (by omega)).2, fullGroup?_symbols]
      | cons first others =>
          rw [written] at ih
          simp only [List.cons_append, List.nil_append]
          rw [decode?, fullGroup?_symbols, ih]
          · rfl
          · simp

theorem isWritten_of_mem_encode {bytes : Bytes} :
    ∀ character ∈ encode bytes, isWritten character = true := by
  fun_induction encode bytes with
  | case1 => simp
  | case2 a => simp [isWritten_symbol, isWritten_pad]
  | case3 a b => simp [isWritten_symbol, isWritten_pad]
  | case4 a b c rest ih =>
      intro character member
      rcases List.mem_append.mp member with here | later
      · simp only [fullGroup, List.mem_cons, List.not_mem_nil, or_false] at here
        rcases here with rfl | rfl | rfl | rfl <;> exact isWritten_symbol _
      · exact ih character later

end ProxyLauncher.Key.Base64
