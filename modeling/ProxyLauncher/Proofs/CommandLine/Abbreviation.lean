import ProxyLauncher.Proofs.CommandLine.Help
import ProxyLauncher.Proofs.CommandLine.Naming
import ProxyLauncher.Proofs.CommandLine.Spelling

/-!
# Abbreviated flags

A flag can be declared, and it can be abbreviated.  With two dashes only a
declared spelling is read.  With a single dash the first letters of a name are
read as the whole name, and no two names begin with the same letter, so that one
letter is enough.  The one exception is `-h`, which is the help flag: it takes
what follows it as its operand, so nothing abbreviates the name of the host.

An argument sets something in these two ways alone.  Every other argument that
looks like a flag is unknown, ambiguous or a help flag, and none of these is part
of a command line that is accepted.
-/

namespace ProxyLauncher.CommandLine

/-! ## Arguments by their text -/

/-- The argument is a declared spelling of the setting, or one with an operand behind an equals
sign. -/
def Spells (argument : String) (setting : Setting) : Prop :=
  ∃ spelling flag, (spelling, flag) ∈ declared ∧ flag.setting? = some setting ∧
    (argument = spelling ∨ ∃ operand, argument = spelling ++ "=" ++ operand)

/-- The argument is a single dash and the first letters of the setting's name, but not all of it.
The name of the host has no abbreviation. -/
def Abbreviates (argument : String) (setting : Setting) : Prop :=
  setting ≠ .host ∧ ∃ letters : List Char, letters ≠ [] ∧
    letters <+: setting.flagName.toList ∧ letters ≠ setting.flagName.toList ∧
    argument.toList = '-' :: letters

/-- The argument looks like a flag: it begins with a dash that is not all of it, it is not the
separator, and it is neither a negative number nor a text with a space. -/
def OptionLike (argument : String) : Prop :=
  ∃ rest, argument.toList = '-' :: rest ∧ rest ≠ [] ∧ rest ≠ ['-'] ∧
    isNegativeNumber argument.toList = false ∧ ' ' ∉ argument.toList

/-- The argument is the help flag.  The short one can be repeated, also behind an equals sign. -/
inductive AsksHelp : String → Prop
  | long : AsksHelp "--help"
  | short {letters : String} (repeated : ∀ letter ∈ letters.toList, letter = 'h') :
      AsksHelp ("-h" ++ letters)
  | signed {letters : String} (repeated : ∀ letter ∈ letters.toList, letter = 'h') :
      AsksHelp ("-h=" ++ letters)

/-! ## Beginnings of declared spellings -/

/-- A beginning of a declared spelling is read as that spelling when it is all of it, or when it has
a single dash and a letter that is not the help flag's. -/
theorem classify_beginning {spelling : String} {flag : Flag} (known : (spelling, flag) ∈ declared)
    {text : String} (begins : text.toList <+: spelling.toList) :
    classify text = .ok (.flag flag spelling none) ↔
      text = spelling ∨
        2 ≤ text.toList.length ∧ text.toList.take 2 ≠ ['-', '-'] ∧
          text.toList.take 2 ≠ ['-', 'h'] := by
  have every : ∀ entry ∈ declared, ∀ count < entry.1.toList.length + 1,
      (classify (String.ofList (entry.1.toList.take count))).toOption =
          some (.flag entry.2 entry.1 none) ↔
        entry.1.toList.take count = entry.1.toList ∨
          2 ≤ (entry.1.toList.take count).length ∧
            (entry.1.toList.take count).take 2 ≠ ['-', '-'] ∧
            (entry.1.toList.take count).take 2 ≠ ['-', 'h'] := by
    decide +kernel
  have here := every (spelling, flag) known text.toList.length
    (Nat.lt_succ_of_le begins.length_le)
  dsimp only at here
  rw [toOption_eq_some_iff, ← List.prefix_iff_eq_take.mp begins, String.ofList_toList,
    String.toList_inj] at here
  exact here

theorem take_two_of_beginning {text spelling : List Char} (begins : text <+: spelling)
    (long : 2 ≤ text.length) : text.take 2 = spelling.take 2 := by
  rw [List.prefix_iff_eq_take.mp begins, List.take_take, Nat.min_eq_left long]

/-- A declared spelling of a setting has two dashes, or it is a single dash and the setting's
name. -/
theorem spelling_of_mem_declared {spelling : String} {flag : Flag} {setting : Setting}
    (known : (spelling, flag) ∈ declared) (isSetting : flag.setting? = some setting) :
    spelling.toList.take 2 = ['-', '-'] ∨ spelling.toList = '-' :: setting.flagName.toList := by
  have every : ∀ entry ∈ declared, ∀ setting ∈ entry.2.setting?,
      entry.1.toList.take 2 = ['-', '-'] ∨
        entry.1.toList = '-' :: setting.flagName.toList := by
    decide +kernel
  exact every (spelling, flag) known setting isSetting

/-- No name of a setting begins with a dash, and only that of the host begins as the help flag
does. -/
theorem take_two_of_flagName {setting : Setting} (other : setting ≠ .host) {letters : List Char}
    (some : letters ≠ []) (begins : letters <+: setting.flagName.toList) :
    ('-' :: letters).take 2 ≠ ['-', '-'] ∧ ('-' :: letters).take 2 ≠ ['-', 'h'] := by
  have first : setting.flagName.toList.head? ≠ '-' ∧ setting.flagName.toList.head? ≠ 'h' := by
    cases setting with
    | host => contradiction
    | verbose => decide
    | port => decide
    | timeout => decide
    | keyFile => decide
  cases letters with
  | nil => contradiction
  | cons letter _ =>
      rcases begins with ⟨_, nameEq⟩
      rw [← nameEq] at first
      simpa using first

/-! ## Flags of settings -/

theorem setting?_flag (setting : Setting) : setting.flag.setting? = some setting := by
  cases setting <;> rfl

/-- A proper beginning of a declared spelling is read as it exactly when it abbreviates the
setting. -/
theorem abbreviates_of_beginning {argument spelling : String} {flag : Flag} {setting : Setting}
    (known : (spelling, flag) ∈ declared) (isSetting : flag.setting? = some setting)
    (begins : argument.toList <+: spelling.toList) (proper : argument ≠ spelling)
    (long : 2 ≤ argument.toList.length) (single : argument.toList.take 2 ≠ ['-', '-'])
    (useful : argument.toList.take 2 ≠ ['-', 'h']) : Abbreviates argument setting := by
  have sameStart := take_two_of_beginning begins long
  rcases spelling_of_mem_declared known isSetting with double | spellingEq
  · rw [sameStart] at single
    exact absurd double single
  · rw [spellingEq] at begins sameStart
    rcases argumentEq : argument.toList with _ | ⟨dash, letters⟩
    · simp [argumentEq] at long
    rw [argumentEq] at begins sameStart
    rcases List.cons_prefix_cons.mp begins with ⟨rfl, lettersBegin⟩
    refine ⟨?_, letters, ?_, lettersBegin, ?_, argumentEq⟩
    · rintro rfl
      rw [argumentEq, sameStart] at useful
      contradiction
    · rintro rfl
      simp [argumentEq] at long
    · rintro rfl
      exact proper (String.toList_inj.mp (argumentEq.trans spellingEq.symm))

/-- An argument is a flag of a setting exactly when it is a declared spelling, possibly with an
operand behind an equals sign, or an abbreviation. -/
theorem names_iff {argument : String} {setting : Setting} :
    Names argument setting ↔ Spells argument setting ∨ Abbreviates argument setting := by
  constructor
  · rintro ⟨flag, spelling, attached, classified, isSetting⟩
    cases wordText_of_classify classified with
    | flag reads =>
        cases reads with
        | exact known => exact .inl ⟨_, _, known, isSetting, .inl rfl⟩
        | attached operand known => exact .inl ⟨_, _, known, isSetting, .inr ⟨operand, rfl⟩⟩
        | abbreviated known begins =>
            rcases (classify_beginning known begins).mp classified with rfl | ⟨long, single, useful⟩
            · exact .inl ⟨_, _, known, isSetting, .inl rfl⟩
            · by_cases whole : argument = spelling
              · exact .inl ⟨_, _, known, isSetting, .inl whole⟩
              · exact .inr
                  (abbreviates_of_beginning known isSetting begins whole long single useful)
        | clustered _ => contradiction
  · rintro (⟨spelling, flag, known, isSetting, rfl | ⟨operand, rfl⟩⟩ | abbreviates)
    · exact ⟨flag, _, none, classify_of_mem_declared known, isSetting⟩
    · exact ⟨flag, spelling, some operand, classify_attached known operand, isSetting⟩
    · rcases abbreviates with ⟨other, letters, given, begins, _, argumentEq⟩
      have known := mem_declared_short setting
      have beginsSpelling : argument.toList <+: ("-" ++ setting.flagName).toList := by
        rw [argumentEq, String.toList_append]
        exact List.cons_prefix_cons.mpr ⟨rfl, begins⟩
      have long : 2 ≤ argument.toList.length := by
        rw [argumentEq, List.length_cons]
        exact Nat.succ_le_succ (List.length_pos_iff.mpr given)
      have apart := take_two_of_flagName other given begins
      rw [← argumentEq] at apart
      exact ⟨_, _, none, (classify_beginning known beginsSpelling).mpr (.inr ⟨long, apart⟩),
        setting?_flag setting⟩

/-- All that is part of an accepted command line is a flag of a setting, or plain. -/
theorem Splits.names_or_plain {arguments : List String} {assignments : List Assignment}
    (split : Splits Yields arguments assignments) {argument : String}
    (member : argument ∈ arguments) :
    (∃ setting, Names argument setting) ∨ classify argument = .ok .plain := by
  induction split with
  | nil => contradiction
  | cons segment _ ih =>
      rcases List.mem_append.mp member with here | later
      · cases segment with
        | attached classified yields =>
            cases List.mem_singleton.mp here
            exact .inl ⟨_, (names_iff_of_classify classified).mpr (setting?_of_yields yields)⟩
        | following classified plain yields =>
            rcases List.mem_cons.mp here with rfl | last
            · exact .inl ⟨_, (names_iff_of_classify classified).mpr (setting?_of_yields yields)⟩
            · cases List.mem_singleton.mp last
              exact .inr plain
        | alone classified yields =>
            cases List.mem_singleton.mp here
            exact .inl ⟨_, (names_iff_of_classify classified).mpr (setting?_of_yields yields)⟩
      · exact ih later

theorem attachedFlag?_ne_plain (text : List Char) : attachedFlag? text ≠ some .plain := by
  unfold attachedFlag?
  split
  · simp
  · simp

theorem ne_plain_of_mem_hints {text : List Char} {hint : String} {word : Word}
    (hinted : (hint, word) ∈ hints text) : word ≠ .plain := by
  rcases List.mem_filterMap.mp hinted with ⟨entry, _, found⟩
  rintro rfl
  dsimp only at found
  split at found
  · simp at found
  · split at found <;> simp at found

/-- What looks like a flag is never plain. -/
theorem OptionLike.not_plain {argument : String} (looks : OptionLike argument) :
    classify argument ≠ .ok .plain := by
  rcases looks with ⟨rest, argumentEq, given, inside, positive, solid⟩
  rw [argumentEq] at positive solid
  rw [classify, argumentEq]
  simp only [inside, if_false]
  cases flagOf? argument with
  | some flag => simp
  | none =>
      simp only [List.isEmpty_iff, given, if_false]
      intro classified
      unfold classifyDashed at classified
      split at classified
      · rename_i found
        cases classified
        exact attachedFlag?_ne_plain _ found
      · dsimp only at classified
        split at classified
        · rename_i hint word sole
          cases classified
          split at sole
          · contradiction
          · have hinted : (hint, Word.plain) ∈ hints ('-' :: rest) := by
              rw [sole]
              exact List.mem_singleton_self _
            exact ne_plain_of_mem_hints hinted rfl
        · simp [positive, solid] at classified
        · contradiction

/-! ## The help flag -/

/-- The help flag is its own only abbreviation. -/
theorem eq_of_classify_help {argument spelling : String}
    (known : (spelling, .help) ∈ declared) (begins : argument.toList <+: spelling.toList)
    (classified : classify argument = .ok (.flag .help spelling none)) : argument = spelling := by
  rcases (classify_beginning known begins).mp classified with same | ⟨long, single, useful⟩
  · exact same
  · have starts : ∀ entry ∈ declared, entry.2 = .help →
        entry.1.toList.take 2 = ['-', '-'] ∨ entry.1.toList.take 2 = ['-', 'h'] := by
      decide
    rw [take_two_of_beginning begins long] at single useful
    rcases starts _ known rfl with double | short
    · exact absurd double single
    · exact absurd short useful

theorem asksHelp_of_mem_declared {spelling : String} (known : (spelling, .help) ∈ declared) :
    AsksHelp spelling := by
  have every : ∀ entry ∈ declared, entry.2 = .help → entry.1 = "-h" ∨ entry.1 = "--help" := by
    decide
  rcases every _ known rfl with short | long
  · rw [show spelling = "-h" ++ "" from short]
    exact .short (by simp)
  · rw [show spelling = "--help" from long]
    exact .long

theorem repeated_of_readHelpCluster {letters : List Char}
    (shown : readHelpCluster letters = .help) : ∀ letter ∈ letters, letter = 'h' := by
  fun_induction readHelpCluster letters with
  | case1 => simp
  | case2 rest ih => simpa using ih shown
  | case3 => contradiction

/-- Only the short spelling takes an operand, and only itself again. -/
theorem repeated_of_stopForHelp {spelling operand : String}
    (shown : stopForHelp spelling (some operand) = .help) :
    spelling = "-h" ∧ ∀ letter ∈ operand.toList, letter = 'h' := by
  rw [stopForHelp] at shown
  split at shown
  · rename_i short
    exact ⟨short.1, repeated_of_readHelpCluster shown⟩
  · contradiction

/-- A help flag that shows the help text is one of its two spellings, or the short one repeated. -/
theorem asksHelp_of_classify {argument spelling : String} {attached : Option String}
    (classified : classify argument = .ok (.flag .help spelling attached))
    (shown : stopForHelp spelling attached = .help) : AsksHelp argument := by
  cases wordText_of_classify classified with
  | flag reads =>
      cases reads with
      | exact known => exact asksHelp_of_mem_declared known
      | attached operand known =>
          rcases repeated_of_stopForHelp shown with ⟨rfl, repeated⟩
          exact .signed repeated
      | abbreviated known begins =>
          rw [eq_of_classify_help known begins classified]
          exact asksHelp_of_mem_declared known
      | clustered operand => exact .short (repeated_of_stopForHelp shown).2

end ProxyLauncher.CommandLine
