import Mathlib.Data.List.TakeWhile
import ProxyLauncher.Proofs.CommandLine.FlagTable
import ProxyLauncher.Proofs.CommandLine.Progress

/-!
# Operands behind an equals sign

A declared spelling with an equals sign and any text behind it is the flag of
that spelling, and the text is its operand, whatever stands in it: no declared
spelling has an equals sign, so the first one ends the spelling, and nothing that
follows makes the argument a different word.

A command line of one such argument does what its flag makes of the operand.
-/

namespace ProxyLauncher.CommandLine

open Progress

/-! ## Classification -/

/-- Declared spellings begin with a dash and have no equals sign. -/
theorem dash_of_mem_declared {spelling : String} {flag : Flag}
    (known : (spelling, flag) ∈ declared) :
    (∃ rest, spelling.toList = '-' :: rest) ∧ '=' ∉ spelling.toList := by
  have every : ∀ entry ∈ declared,
      entry.1.toList.head? = some '-' ∧ '=' ∉ entry.1.toList := by decide
  rcases every (spelling, flag) known with ⟨first, clean⟩
  exact ⟨List.head?_eq_some_iff.mp first, clean⟩

theorem flagOf?_of_mem_declared {spelling : String} {flag : Flag}
    (known : (spelling, flag) ∈ declared) : flagOf? spelling = some flag := by
  have every : ∀ entry ∈ declared, flagOf? entry.1 = some entry.2 := by decide
  exact every (spelling, flag) known

theorem flagOf?_of_undeclared {text : String} (undeclared : ∀ entry ∈ declared, text ≠ entry.1) :
    flagOf? text = none := by
  apply List.lookup_eq_none_iff.mpr
  intro entry known
  exact bne_iff_ne.mpr (undeclared entry known)

/-- A text with an equals sign is no declared spelling. -/
theorem flagOf?_eq_none {text : String} (sign : '=' ∈ text.toList) : flagOf? text = none := by
  apply flagOf?_of_undeclared
  rintro ⟨spelling, flag⟩ known rfl
  exact (dash_of_mem_declared known).2 sign

theorem passes_of_unsigned {text : List Char} (clean : '=' ∉ text) :
    ∀ character ∈ text, (character != '=') = true := by
  intro character member
  apply bne_iff_ne.mpr
  rintro rfl
  exact clean member

/-- Where a name has no equals sign, the text splits right behind it. -/
theorem splitAtEquals?_append {name : List Char} (clean : '=' ∉ name) (value : List Char) :
    splitAtEquals? (name ++ '=' :: value) = some (name, value) := by
  have passes := passes_of_unsigned clean
  unfold splitAtEquals?
  rw [List.dropWhile_append_of_pos passes, List.takeWhile_append_of_pos passes]
  simp

/-- Without an equals sign nothing is attached by one. -/
theorem attachedFlag?_eq_none {text : List Char} (clean : '=' ∉ text) :
    attachedFlag? text = none := by
  have whole := List.dropWhile_eq_nil_iff.mpr (passes_of_unsigned clean)
  simp [attachedFlag?, splitAtEquals?, whole]

/-- A declared spelling with an operand attached is a flag with that operand. -/
theorem classify_attached {spelling : String} {flag : Flag} (known : (spelling, flag) ∈ declared)
    (operand : String) :
    classify (spelling ++ "=" ++ operand) = .ok (.flag flag spelling (some operand)) := by
  rcases dash_of_mem_declared known with ⟨⟨rest, dash⟩, clean⟩
  have textEq : (spelling ++ "=" ++ operand).toList = spelling.toList ++ '=' :: operand.toList := by
    simp
  have signed : '=' ∈ (spelling ++ "=" ++ operand).toList := by simp
  have attached : attachedFlag? (spelling ++ "=" ++ operand).toList =
      some (.flag flag spelling (some operand)) := by
    rw [textEq, attachedFlag?, splitAtEquals?_append clean]
    simp [flagOf?_of_mem_declared known]
  have dashed : (spelling ++ "=" ++ operand).toList = '-' :: (rest ++ '=' :: operand.toList) := by
    rw [textEq, dash, List.cons_append]
  -- The equals sign keeps the text from being the separator or a spelling on its own.
  have inside : rest ++ '=' :: operand.toList ≠ ['-'] := by
    intro same
    have member : '=' ∈ rest ++ '=' :: operand.toList := by simp
    rw [same] at member
    simp at member
  have nonempty : (rest ++ '=' :: operand.toList).isEmpty = false := by simp
  rw [classify, dashed]
  simp only [inside, if_false, flagOf?_eq_none signed, nonempty, Bool.false_eq_true]
  rw [← dashed, classifyDashed, attached]

/-! ## Reading -/

/-- A command line of one flag with an attached operand does what the flag makes of it. -/
theorem read_attached {spelling : String} {flag : Flag} (known : (spelling, flag) ∈ declared)
    (operand : String) :
    read [spelling ++ "=" ++ operand] = (useFlag flag spelling (some operand)).map ([·]) := by
  have classified := classify_attached known operand
  unfold read
  rw [classifyAll_cons [] classified (by simp)]
  change readArguments [_] start >>= finish = _
  rw [readArguments_cons, step_of_idle rfl, begin_attached, use_eq]
  cases useFlag flag spelling (some operand) with
  | error stop => rfl
  | ok assignment => rfl

end ProxyLauncher.CommandLine
