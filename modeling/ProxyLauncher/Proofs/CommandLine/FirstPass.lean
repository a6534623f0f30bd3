import ProxyLauncher.Proofs.CommandLine.Abbreviation
import ProxyLauncher.Proofs.CommandLine.Objections

/-!
# The first pass over a command line

All arguments in front of the separator are classified before any of them takes
effect, and the first ambiguous one ends the reading there.  Only two texts are
ambiguous: they begin the spelling of the host and, read as a cluster of short
flags, that of the help flag.

The second part of the theory says which texts show the help text when the
reading comes to them.
-/

namespace ProxyLauncher.CommandLine

/-! ## Ambiguous arguments -/

/-- The argument hints at several spellings. -/
def Ambiguous (argument : String) : Prop :=
  ∃ ambiguity, classify argument = .error ambiguity

/-- No argument in front of the separator is ambiguous. -/
def Clear (arguments : List String) : Prop :=
  ∀ argument ∈ arguments.takeWhile (· != "--"), ¬ Ambiguous argument

/-- What begins like the short help flag hints at it, and also at the host if it begins that
spelling. -/
theorem hints_short (rest : List Char) :
    hints ('-' :: 'h' :: rest) =
      ("-h", .flag .help "-h" (some (String.ofList rest))) ::
        if rest <+: ['o', 's', 't'] then [("-host", .flag .host "-host" none)] else [] := by
  by_cases begins : rest <+: ['o', 's', 't'] <;>
    simp [hints, declared, Flag.all, Flag.spellings, begins]

theorem hints_of_classifyDashed {text : List Char} {ambiguity : Ambiguity}
    (ambiguous : classifyDashed text = .error ambiguity) :
    hints text ≠ [] ∧ ∀ hint, hints text ≠ [hint] := by
  unfold classifyDashed at ambiguous
  split at ambiguous
  · contradiction
  · dsimp only at ambiguous
    split at ambiguous
    · contradiction
    · split at ambiguous <;> contradiction
    · rename_i several given
      split at given
      · exact absurd rfl given
      · rename_i single
        rw [if_neg single] at several
        exact ⟨given, fun hint => several hint.1 hint.2⟩

/-- Several hints mean that the text begins a declared spelling. -/
theorem begins_of_hints {text : List Char} (given : hints text ≠ [])
    (several : ∀ hint, hints text ≠ [hint]) : ∃ entry ∈ declared, text <+: entry.1.toList := by
  by_cases short : text.take 2 = ['-', 'h']
  · have textEq : text = '-' :: 'h' :: text.drop 2 := by
      rw [← List.take_append_drop 2 text, short]
      simp
    have begins : text.drop 2 <+: ['o', 's', 't'] := by
      apply Decidable.byContradiction
      intro apart
      rw [textEq, hints_short, if_neg apart] at several
      exact several _ rfl
    refine ⟨("-host", .host), by decide, ?_⟩
    rw [textEq]
    exact List.cons_prefix_cons.mpr ⟨rfl, List.cons_prefix_cons.mpr ⟨rfl, begins⟩⟩
  · rcases List.exists_mem_of_ne_nil _ given with ⟨hint, hinted⟩
    rcases List.mem_filterMap.mp hinted with ⟨⟨spelling, flag⟩, known, found⟩
    dsimp only at found
    split at found
    · rename_i spellingEq
      have shortSpelling : spelling.toList.length ≤ 2 := by
        rw [spellingEq, List.length_take]
        exact Nat.min_le_left 2 _
      rw [(eq_help_of_short known shortSpelling).2] at spellingEq
      exact absurd spellingEq.symm short
    · split at found
      · rename_i begins
        exact ⟨_, known, by simpa using begins⟩
      · contradiction

theorem begins_of_ambiguous {argument : String} {ambiguity : Ambiguity}
    (ambiguous : classify argument = .error ambiguity) :
    ∃ entry ∈ declared, argument.toList <+: entry.1.toList := by
  unfold classify at ambiguous
  split at ambiguous
  · rename_i rest argumentEq
    split at ambiguous
    · contradiction
    · split at ambiguous
      · contradiction
      · split at ambiguous
        · contradiction
        · rcases hints_of_classifyDashed ambiguous with ⟨given, several⟩
          rw [argumentEq]
          exact begins_of_hints given several
  · contradiction

/-- An argument is ambiguous exactly when it is one of two texts. -/
theorem classify_eq_error_iff {argument : String} {ambiguity : Ambiguity} :
    classify argument = .error ambiguity ↔
      (argument = "-ho" ∨ argument = "-hos") ∧ ambiguity = ⟨argument, ["-h", "-host"]⟩ := by
  constructor
  · intro ambiguous
    have every : ∀ entry ∈ declared, ∀ count < entry.1.toList.length + 1,
        ∀ ambiguity ∈ reason? (classify (String.ofList (entry.1.toList.take count))),
          (entry.1.toList.take count = "-ho".toList ∨
              entry.1.toList.take count = "-hos".toList) ∧
            ambiguity = ⟨String.ofList (entry.1.toList.take count), ["-h", "-host"]⟩ := by
      decide +kernel
    rcases begins_of_ambiguous ambiguous with ⟨entry, known, begins⟩
    have here := every entry known argument.toList.length (Nat.lt_succ_of_le begins.length_le)
      ambiguity
    rw [← List.prefix_iff_eq_take.mp begins, String.ofList_toList, String.toList_inj,
      String.toList_inj] at here
    exact here (reason?_eq_some_iff.mpr ambiguous)
  · rintro ⟨rfl | rfl, rfl⟩ <;> rfl

theorem ambiguous_iff {argument : String} :
    Ambiguous argument ↔ argument = "-ho" ∨ argument = "-hos" := by
  simp [Ambiguous, classify_eq_error_iff]

/-! ## Classifying in order -/

theorem exists_classify {argument : String} (plain : ¬ Ambiguous argument) :
    ∃ word, classify argument = .ok word := by
  cases classified : classify argument with
  | ok word => exact ⟨word, rfl⟩
  | error ambiguity => exact absurd ⟨ambiguity, classified⟩ plain

theorem eq_dashes_of_classify {argument : String} (separates : classify argument = .ok .separator) :
    argument = "--" := by
  cases wordText_of_classify separates with
  | separator dashes => exact dashes

section Classified

variable {text : String} {word : Word} (classified : classify text = .ok word)

include classified

theorem not_ambiguous_of_classify : ¬ Ambiguous text := by
  rintro ⟨ambiguity, ambiguous⟩
  rw [classified] at ambiguous
  contradiction

theorem ne_dashes_of_classify (inside : word ≠ .separator) : text ≠ "--" := by
  rintro rfl
  cases classified
  exact inside rfl

theorem clear_cons_iff (inside : word ≠ .separator) {rest : List String} :
    Clear (text :: rest) ↔ Clear rest := by
  simp [Clear, ne_dashes_of_classify classified inside, not_ambiguous_of_classify classified]

end Classified

theorem clear_dashes (rest : List String) : Clear ("--" :: rest) := by
  simp [Clear]

theorem Clear.exists_classify {text : String} {rest : List String}
    (clear : Clear (text :: rest)) : ∃ word, classify text = .ok word := by
  by_cases dashes : text = "--"
  · subst dashes
    exact ⟨.separator, rfl⟩
  · apply CommandLine.exists_classify
    apply clear
    simp [dashes]

/-- The arguments up to the first ambiguous one, which stands in front of the separator. -/
def FirstAmbiguous (arguments : List String) (ambiguity : Ambiguity) : Prop :=
  ∃ before argument after, arguments = before ++ argument :: after ∧
    (∀ earlier ∈ before, earlier ≠ "--" ∧ ¬ Ambiguous earlier) ∧
    classify argument = .error ambiguity

theorem firstAmbiguous_cons_iff {text : String} {rest : List String} {ambiguity : Ambiguity} :
    FirstAmbiguous (text :: rest) ambiguity ↔
      classify text = .error ambiguity ∨
        text ≠ "--" ∧ ¬ Ambiguous text ∧ FirstAmbiguous rest ambiguity := by
  constructor
  · rintro ⟨before, argument, after, split, clean, ambiguous⟩
    cases before with
    | nil =>
        rcases List.cons.inj split with ⟨rfl, _⟩
        exact .inl ambiguous
    | cons earlier before =>
        rcases List.cons.inj split with ⟨rfl, rfl⟩
        rcases List.forall_mem_cons.mp clean with ⟨⟨inside, plain⟩, others⟩
        exact .inr ⟨inside, plain, before, argument, after, rfl, others, ambiguous⟩
  · rintro (ambiguous | ⟨inside, plain, before, argument, after, rfl, clean, ambiguous⟩)
    · exact ⟨[], text, rest, rfl, by simp, ambiguous⟩
    · exact ⟨text :: before, argument, after, rfl,
        List.forall_mem_cons.mpr ⟨⟨inside, plain⟩, clean⟩, ambiguous⟩

/-- The first ambiguous argument decides. -/
theorem classifyAll_eq_error_iff {arguments : List String} {ambiguity : Ambiguity} :
    classifyAll arguments = .error ambiguity ↔ FirstAmbiguous arguments ambiguity := by
  induction arguments with
  | nil => simp [classifyAll, FirstAmbiguous]
  | cons text rest ih =>
      rw [firstAmbiguous_cons_iff]
      cases classified : classify text with
      | error found =>
          have ambiguous : Ambiguous text := ⟨found, classified⟩
          simp [classifyAll, classified, ambiguous]
      | ok word =>
          have plain : ¬ Ambiguous text := not_ambiguous_of_classify classified
          by_cases separates : word = .separator
          · subst separates
            obtain rfl := eq_dashes_of_classify classified
            simp [classifyAll, classified]
          · have inside : text ≠ "--" := ne_dashes_of_classify classified separates
            rw [classifyAll_cons rest classified separates, map_eq_error_iff, ih]
            simp [inside, plain]

/-- Every argument has a class exactly when none in front of the separator is ambiguous. -/
theorem exists_classifyAll_iff {arguments : List String} :
    (∃ classified, classifyAll arguments = .ok classified) ↔ Clear arguments := by
  induction arguments with
  | nil => simp [classifyAll, Clear]
  | cons text rest ih =>
      constructor
      · rintro ⟨classified, classifies⟩
        rcases classifyAll_cons_cases classifies with ⟨word, others, own, rfl, tail⟩
        by_cases separates : word = .separator
        · subst separates
          rw [eq_dashes_of_classify own]
          exact clear_dashes rest
        · rw [clear_cons_iff own separates]
          rcases tail with ⟨isSeparator, _⟩ | restClassifies
          · exact absurd isSeparator separates
          · exact ih.mp ⟨others, restClassifies⟩
      · intro clear
        rcases clear.exists_classify with ⟨word, own⟩
        by_cases separates : word = .separator
        · subst separates
          rw [classifyAll, own]
          exact ⟨_, rfl⟩
        · rcases ih.mpr ((clear_cons_iff own separates).mp clear) with ⟨others, classifies⟩
          rw [classifyAll_cons rest own separates, classifies]
          exact ⟨_, rfl⟩

/-! ## Help options -/

/-- The argument is the help flag.  The short spelling may have itself attached, once or more often,
also behind an equals sign. -/
inductive HelpOption : String → Prop
  | short : HelpOption "-h"
  | long : HelpOption "--help"
  | attached {letters : String} (given : letters ≠ "")
      (repeated : ∀ letter ∈ letters.toList, letter = 'h') : HelpOption ("-h" ++ letters)
  | signed {letters : String} (given : letters ≠ "")
      (repeated : ∀ letter ∈ letters.toList, letter = 'h') : HelpOption ("-h=" ++ letters)

/-- The short help flag repeated is read as a cluster. -/
theorem classify_repeated {letters : String} (given : letters ≠ "")
    (repeated : ∀ letter ∈ letters.toList, letter = 'h') :
    classify ("-h" ++ letters) = .ok (.flag .help "-h" (some letters)) := by
  rcases lettersEq : letters.toList with _ | ⟨letter, rest⟩
  · exact absurd (String.toList_inj.mp lettersEq) given
  rw [lettersEq] at repeated
  rcases List.forall_mem_cons.mp repeated with ⟨rfl, others⟩
  have textEq : ("-h" ++ letters).toList = '-' :: 'h' :: 'h' :: rest := by
    rw [String.toList_append, lettersEq]
    rfl
  have undeclared : flagOf? ("-h" ++ letters) = none := by
    have every : ∀ entry ∈ declared, entry.1.toList.take 3 ≠ ['-', 'h', 'h'] := by decide
    apply flagOf?_of_undeclared
    intro entry known same
    apply every entry known
    rw [← same, textEq]
    rfl
  have unsigned : attachedFlag? ('-' :: 'h' :: 'h' :: rest) = none := by
    apply attachedFlag?_eq_none
    intro signed
    simp only [List.mem_cons, Char.reduceEq, false_or] at signed
    exact absurd (others '=' signed) (by decide)
  have only : hints ('-' :: 'h' :: 'h' :: rest) = [("-h", .flag .help "-h" (some letters))] := by
    have lettersBack : String.ofList ('h' :: rest) = letters := by
      rw [← lettersEq, String.ofList_toList]
    rw [← lettersBack]
    rfl
  rw [classify, textEq]
  simp [undeclared, classifyDashed, unsigned, only]

theorem helpOption_of_mem_declared {spelling : String} (known : (spelling, .help) ∈ declared) :
    HelpOption spelling := by
  have every : ∀ entry ∈ declared, entry.2 = .help → entry.1 = "-h" ∨ entry.1 = "--help" := by
    decide
  rcases every _ known rfl with short | long
  · rw [show spelling = "-h" from short]
    exact .short
  · rw [show spelling = "--help" from long]
    exact .long

/-- The help text is shown at the help options and nowhere else. -/
theorem helpOption_iff {argument : String} :
    HelpOption argument ↔ ∃ spelling attached,
      classify argument = .ok (.flag .help spelling attached) ∧
        stopForHelp spelling attached = .help := by
  constructor
  · intro asks
    cases asks with
    | short => exact ⟨_, none, classify_of_mem_declared (by decide), rfl⟩
    | long => exact ⟨_, none, classify_of_mem_declared (by decide), rfl⟩
    | @attached letters given repeated =>
        refine ⟨_, some letters, classify_repeated given repeated, ?_⟩
        apply stopForHelp_eq_help_iff.mpr
        rintro _ ⟨⟩
        exact ⟨rfl, given, repeated⟩
    | @signed letters given repeated =>
        have known : ("-h", Flag.help) ∈ declared := by decide
        refine ⟨_, some letters, classify_attached known letters, ?_⟩
        apply stopForHelp_eq_help_iff.mpr
        rintro _ ⟨⟩
        exact ⟨rfl, given, repeated⟩
  · rintro ⟨spelling, attached, classified, shown⟩
    have refuses := stopForHelp_eq_help_iff.mp shown
    cases wordText_of_classify classified with
    | flag reads =>
        cases reads with
        | exact known => exact helpOption_of_mem_declared known
        | abbreviated known begins =>
            rw [eq_of_classify_help known begins classified]
            exact helpOption_of_mem_declared known
        | attached operand known =>
            rcases refuses operand rfl with ⟨rfl, given, repeated⟩
            exact .signed given repeated
        | clustered operand =>
            rcases refuses operand rfl with ⟨_, given, repeated⟩
            exact .attached given repeated

end ProxyLauncher.CommandLine
