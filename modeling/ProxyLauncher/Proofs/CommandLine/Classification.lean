import ProxyLauncher.CommandLine.Word
import ProxyLauncher.Proofs.Attempt

/-!
# What the class of an argument says about its text

An argument becomes a flag in one of four ways, and `FlagText` lists them: it is
a declared spelling, a declared spelling with an operand behind an equals sign,
the beginning of a declared spelling, or the short spelling of the help flag
with more characters behind it.  The last way is open to the help flag alone,
since every other spelling is longer than two characters.

The separator is the one argument that changes how later arguments are
classified.  In front of it each argument is classified by its own text.
-/

namespace ProxyLauncher.CommandLine

/-! ## Flags -/

/-- How the text of an argument makes it a flag with a spelling and an attached operand. -/
inductive FlagText : String → Flag → String → Option String → Prop
  | exact {flag : Flag} {spelling : String} (known : (spelling, flag) ∈ declared) :
      FlagText spelling flag spelling none
  | attached {flag : Flag} {spelling : String} (operand : String)
      (known : (spelling, flag) ∈ declared) :
      FlagText (spelling ++ "=" ++ operand) flag spelling (some operand)
  | abbreviated {flag : Flag} {text spelling : String} (known : (spelling, flag) ∈ declared)
      (begins : text.toList <+: spelling.toList) : FlagText text flag spelling none
  | clustered (operand : String) : FlagText ("-h" ++ operand) .help "-h" (some operand)

theorem mem_declared_of_flagOf? {spelling : String} {flag : Flag}
    (found : flagOf? spelling = some flag) : (spelling, flag) ∈ declared := by
  rcases List.lookup_eq_some_iff.mp found with ⟨before, after, equal, _⟩
  rw [equal]
  exact List.mem_append_right before List.mem_cons_self

/-- Only the help flag has a spelling of two characters. -/
theorem eq_help_of_short {spelling : String} {flag : Flag} (known : (spelling, flag) ∈ declared)
    (short : spelling.toList.length ≤ 2) : flag = .help ∧ spelling = "-h" := by
  have every : ∀ entry ∈ declared,
      entry.1.toList.length ≤ 2 → entry.2 = .help ∧ entry.1 = "-h" := by decide
  exact every (spelling, flag) known short

/-- A text splits at its first equals sign into what stands before and after it. -/
theorem eq_of_splitAtEquals? {text name value : List Char}
    (split : splitAtEquals? text = some (name, value)) : text = name ++ '=' :: value := by
  have whole := List.takeWhile_append_dropWhile (p := (· != '=')) (l := text)
  simp only [splitAtEquals?] at split
  split at split
  · rename_i sign after dropped
    have signEq : sign = '=' := by
      have stopped := List.head?_dropWhile_not (· != '=') text
      rw [dropped] at stopped
      simpa using stopped
    simp only [Option.some.injEq, Prod.mk.injEq] at split
    rw [dropped, signEq, split.1, split.2] at whole
    exact whole.symm
  · contradiction

/-- What the class of an argument says about its text. -/
inductive WordText (text : String) : Word → Prop
  | plain : WordText text .plain
  | separator (dashes : text = "--") : WordText text .separator
  | flag {flag : Flag} {spelling : String} {attached : Option String}
      (reads : FlagText text flag spelling attached) : WordText text (.flag flag spelling attached)
  | unknown : WordText text .unknown

theorem wordText_of_attachedFlag? {text : List Char} {word : Word}
    (found : attachedFlag? text = some word) : WordText (String.ofList text) word := by
  simp only [attachedFlag?] at found
  split at found
  · rename_i name value split
    rcases Option.map_eq_some_iff.mp found with ⟨flag, known, rfl⟩
    have textEq : String.ofList text = String.ofList name ++ "=" ++ String.ofList value := by
      apply String.toList_inj.mp
      simp [eq_of_splitAtEquals? split]
    rw [textEq]
    exact .flag (.attached _ (mem_declared_of_flagOf? known))
  · contradiction

theorem wordText_of_mem_hints {text : List Char} {hint : String} {word : Word}
    (hinted : (hint, word) ∈ hints text) : WordText (String.ofList text) word := by
  rcases List.mem_filterMap.mp hinted with ⟨⟨spelling, flag⟩, known, found⟩
  dsimp only at found
  split at found
  · rename_i spellingEq
    simp only [Option.some.injEq, Prod.mk.injEq] at found
    have short : spelling.toList.length ≤ 2 := by
      rw [spellingEq, List.length_take]
      exact Nat.min_le_left 2 _
    rcases eq_help_of_short known short with ⟨rfl, rfl⟩
    have textEq : String.ofList text = "-h" ++ String.ofList (text.drop 2) := by
      apply String.toList_inj.mp
      rw [String.toList_append, spellingEq]
      simp
    rw [textEq, ← found.2]
    exact .flag (.clustered _)
  · split at found
    · rename_i begins
      simp only [Option.some.injEq, Prod.mk.injEq] at found
      rw [← found.2]
      exact .flag (.abbreviated known (by simpa using begins))
    · contradiction

theorem wordText_of_classifyDashed {text : List Char} {word : Word}
    (classified : classifyDashed text = .ok word) : WordText (String.ofList text) word := by
  unfold classifyDashed at classified
  split at classified
  · rename_i found
    cases classified
    exact wordText_of_attachedFlag? found
  · dsimp only at classified
    split at classified
    · rename_i hint only sole
      cases classified
      have hinted : (hint, word) ∈ hints text := by
        split at sole
        · contradiction
        · rw [sole]
          exact List.mem_singleton_self _
      exact wordText_of_mem_hints hinted
    · split at classified <;> cases classified
      · exact .plain
      · exact .unknown
    · contradiction

/-- An argument has the class that its own text gives it. -/
theorem wordText_of_classify {text : String} {word : Word}
    (classified : classify text = .ok word) : WordText text word := by
  unfold classify at classified
  split at classified
  · rename_i rest textEq
    split at classified
    · rename_i dash
      cases classified
      apply WordText.separator
      apply String.toList_inj.mp
      rw [textEq, dash]
      rfl
    · split at classified
      · rename_i known
        cases classified
        exact .flag (.exact (mem_declared_of_flagOf? known))
      · split at classified
        · cases classified
          exact .plain
        · rw [← String.ofList_toList (s := text), textEq]
          exact wordText_of_classifyDashed classified
  · cases classified
    exact .plain

/-- An operand behind an equals sign is all that a flag other than help can carry in its own
argument. -/
theorem eq_of_classify_attached {text spelling operand : String} {flag : Flag}
    (classified : classify text = .ok (.flag flag spelling (some operand)))
    (useful : flag ≠ .help) :
    (spelling, flag) ∈ declared ∧ text = spelling ++ "=" ++ operand := by
  cases wordText_of_classify classified with
  | flag reads =>
      cases reads with
      | attached _ known => exact ⟨known, rfl⟩
      | clustered _ => contradiction

/-! ## The separator -/

/-- In front of the separator an argument is classified by its own text. -/
theorem classifyAll_cons {text : String} {word : Word} (rest : List String)
    (classified : classify text = .ok word) (inside : word ≠ .separator) :
    classifyAll (text :: rest) = (classifyAll rest).map (⟨text, word⟩ :: ·) := by
  rw [classifyAll, classified]
  cases word with
  | separator => contradiction
  | plain => rfl
  | flag flag spelling attached => rfl
  | unknown => rfl

/-- The first argument always has the class of its own text. -/
theorem classifyAll_cons_cases {text : String} {rest : List String} {classified : List Argument}
    (classifies : classifyAll (text :: rest) = .ok classified) :
    ∃ word others, classify text = .ok word ∧ classified = ⟨text, word⟩ :: others ∧
      ((word = .separator ∧ others = rest.map (⟨·, .plain⟩)) ∨ classifyAll rest = .ok others) := by
  cases own : classify text with
  | error ambiguity => simp [classifyAll, own] at classifies
  | ok word =>
      by_cases separates : word = .separator
      · subst separates
        rw [classifyAll, own] at classifies
        cases classifies
        exact ⟨_, _, rfl, rfl, .inl ⟨rfl, rfl⟩⟩
      · rw [classifyAll_cons rest own separates] at classifies
        rcases map_eq_ok_iff.mp classifies with ⟨others, restClassifies, rfl⟩
        exact ⟨word, others, rfl, rfl, .inr restClassifies⟩

/-- A flag among the classified arguments is a flag by its own text. -/
theorem classify_of_mem_classifyAll {arguments : List String} {classified : List Argument}
    (classifies : classifyAll arguments = .ok classified) {argument : Argument}
    (member : argument ∈ classified) (special : argument.word ≠ .plain) :
    argument.text ∈ arguments ∧ classify argument.text = .ok argument.word := by
  induction arguments generalizing classified with
  | nil =>
      cases classifies
      contradiction
  | cons text rest ih =>
      rcases classifyAll_cons_cases classifies with ⟨word, others, own, rfl, tail⟩
      rcases List.mem_cons.mp member with rfl | later
      · exact ⟨List.mem_cons_self, own⟩
      · rcases tail with ⟨_, rfl⟩ | restClassifies
        · rcases List.mem_map.mp later with ⟨_, _, rfl⟩
          exact absurd rfl special
        · rcases ih restClassifies later with ⟨among, ownClass⟩
          exact ⟨List.mem_cons_of_mem text among, ownClass⟩

end ProxyLauncher.CommandLine
