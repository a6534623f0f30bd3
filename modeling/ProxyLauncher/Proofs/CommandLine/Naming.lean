import ProxyLauncher.Proofs.CommandLine.Grammar
import ProxyLauncher.Proofs.Config.Overlay

/-!
# The last naming of a setting

An argument names a setting when it is a flag of that setting, whatever stands
around it.  The value that it gives is the attached operand's, or that of the
next argument if this is plain, or that of the flag alone.

On a command line that splits, the assignment that prevails for a setting is the
value of its last naming, and a setting without an assignment is not named at
all.
-/

namespace ProxyLauncher.CommandLine

/-- The setting of a flag.  The help flag has none. -/
def Flag.setting? : Flag → Option Setting
  | .help => none
  | .verbose => some .verbose
  | .host => some .host
  | .port => some .port
  | .timeout => some .timeout
  | .keyFile => some .keyFile

/-- An argument is a flag of a setting. -/
def Names (argument : String) (setting : Setting) : Prop :=
  ∃ flag spelling attached, classify argument = .ok (.flag flag spelling attached) ∧
    flag.setting? = some setting

/-- Some argument is a flag of a setting. -/
def Named (arguments : List String) (setting : Setting) : Prop :=
  ∃ argument ∈ arguments, Names argument setting

/-- The value that the first of the arguments gives, as a flag, to its setting. -/
inductive FirstGives : List String → Assignment → Prop
  | attached {argument spelling operand : String} {flag : Flag} {assignment : Assignment}
      (after : List String)
      (classified : classify argument = .ok (.flag flag spelling (some operand)))
      (yields : Yields flag spelling (some operand) assignment) :
      FirstGives (argument :: after) assignment
  | following {argument spelling operand : String} {flag : Flag} {assignment : Assignment}
      (after : List String)
      (classified : classify argument = .ok (.flag flag spelling none))
      (plain : classify operand = .ok .plain)
      (yields : Yields flag spelling (some operand) assignment) :
      FirstGives (argument :: operand :: after) assignment
  | alone {argument spelling : String} {flag : Flag} {assignment : Assignment}
      {after : List String}
      (classified : classify argument = .ok (.flag flag spelling none))
      (apart : ¬ StartsPlain after) (yields : Yields flag spelling none assignment) :
      FirstGives (argument :: after) assignment

/-- The assignment is the value of the last argument that names its setting. -/
def LastNaming (arguments : List String) (assignment : Assignment) : Prop :=
  ∃ before argument after, arguments = before ++ argument :: after ∧
    FirstGives (argument :: after) assignment ∧
    Names argument assignment.setting ∧ ¬ Named after assignment.setting

/-! ## One value for each naming -/

theorem Yields.unique {flag : Flag} {spelling : String} {operand : Option String}
    {first second : Assignment} (firstYields : Yields flag spelling operand first)
    (secondYields : Yields flag spelling operand second) : first = second := by
  have firstUse := useFlag_eq_ok_iff.mpr firstYields
  rw [useFlag_eq_ok_iff.mpr secondYields] at firstUse
  exact (Except.ok.inj firstUse).symm

/-- Arguments give at most one value. -/
theorem FirstGives.unique {arguments : List String} {first second : Assignment}
    (firstGives : FirstGives arguments first) (secondGives : FirstGives arguments second) :
    first = second := by
  cases firstGives with
  | attached _ classified yields =>
      cases secondGives with
      | attached _ again others =>
          rw [classified] at again
          cases again
          exact yields.unique others
      | following _ again _ _ =>
          rw [classified] at again
          cases again
      | alone again _ _ =>
          rw [classified] at again
          cases again
  | following _ classified plain yields =>
      cases secondGives with
      | attached _ again _ =>
          rw [classified] at again
          cases again
      | following _ again _ others =>
          rw [classified] at again
          cases again
          exact yields.unique others
      | alone _ apart _ => exact absurd ⟨_, rfl, plain⟩ apart
  | alone classified apart yields =>
      cases secondGives with
      | attached _ again _ =>
          rw [classified] at again
          cases again
      | following _ _ plain _ => exact absurd ⟨_, rfl, plain⟩ apart
      | alone again _ others =>
          rw [classified] at again
          cases again
          exact yields.unique others

/-- No argument that names a setting stands behind its last naming. -/
theorem eq_of_last_naming {setting : Setting} {before others after rest : List String}
    {argument other : String} (same : before ++ argument :: after = others ++ other :: rest)
    (names : Names argument setting) (final : ¬ Named after setting)
    (otherNames : Names other setting) (otherFinal : ¬ Named rest setting) :
    argument :: after = other :: rest := by
  rcases List.append_eq_append_iff.mp same with ⟨between, _, tailEq⟩ | ⟨between, _, tailEq⟩
  · cases between with
    | nil => exact tailEq
    | cons _ between =>
        rcases List.cons.inj tailEq with ⟨_, afterEq⟩
        exact absurd ⟨other, by simp [afterEq], otherNames⟩ final
  · cases between with
    | nil => exact tailEq.symm
    | cons _ between =>
        rcases List.cons.inj tailEq with ⟨_, restEq⟩
        exact absurd ⟨argument, by simp [restEq], names⟩ otherFinal

/-- The last naming of a setting has one value. -/
theorem LastNaming.unique {arguments : List String} {first second : Assignment}
    (firstLast : LastNaming arguments first) (secondLast : LastNaming arguments second)
    (same : first.setting = second.setting) : first = second := by
  rcases firstLast with ⟨before, argument, after, argumentsEq, gives, names, final⟩
  rcases secondLast with ⟨others, other, rest, otherEq, otherGives, otherNames, otherFinal⟩
  rw [← same] at otherNames otherFinal
  rw [argumentsEq] at otherEq
  rw [eq_of_last_naming otherEq names final otherNames otherFinal] at gives
  exact gives.unique otherGives

/-! ## Segments -/

/-- A flag assigns its own setting. -/
theorem setting?_of_yields {flag : Flag} {spelling : String} {operand : Option String}
    {assignment : Assignment} (yields : Yields flag spelling operand assignment) :
    flag.setting? = some assignment.setting := by
  cases yields with
  | kept _ accepts => cases accepts <;> rfl
  | host => rfl
  | port => rfl
  | timeout => rfl
  | keyFile => rfl
  | verbosity accepts => cases accepts <;> rfl

theorem not_names_of_plain {argument : String} (plain : classify argument = .ok .plain)
    (setting : Setting) : ¬ Names argument setting := by
  rintro ⟨flag, spelling, attached, classified, _⟩
  rw [plain] at classified
  cases classified

theorem names_iff_of_classify {argument spelling : String} {flag : Flag}
    {attached : Option String} (classified : classify argument = .ok (.flag flag spelling attached))
    {setting : Setting} : Names argument setting ↔ flag.setting? = some setting := by
  constructor
  · rintro ⟨_, _, _, again, isSetting⟩
    rw [classified] at again
    cases again
    exact isSetting
  · intro isSetting
    exact ⟨flag, spelling, attached, classified, isSetting⟩

theorem named_cons {first : String} {rest : List String} {setting : Setting} :
    Named (first :: rest) setting ↔ Names first setting ∨ Named rest setting := by
  simp [Named]

theorem named_append {first second : List String} {setting : Setting} :
    Named (first ++ second) setting ↔ Named first setting ∨ Named second setting := by
  simp [Named, or_and_right, exists_or]

/-- A segment names the one setting that it assigns. -/
theorem Segment.named_iff {texts : List String} {assignment : Assignment}
    (segment : Segment Yields texts assignment) {setting : Setting} :
    Named texts setting ↔ assignment.setting = setting := by
  cases segment with
  | attached classified yields =>
      simp [names_iff_of_classify classified, setting?_of_yields yields, Named]
  | following classified plain yields =>
      simp [names_iff_of_classify classified, setting?_of_yields yields,
        not_names_of_plain plain, Named]
  | alone classified yields =>
      simp [names_iff_of_classify classified, setting?_of_yields yields, Named]

/-- In front of what splits, a segment's flag gives the segment's value. -/
theorem Segment.firstGives {texts rest : List String} {assignment : Assignment}
    {assignments : List Assignment} (segment : Segment Yields texts assignment)
    (split : Splits Yields rest assignments) :
    ∃ argument after, texts ++ rest = argument :: after ∧
      FirstGives (argument :: after) assignment ∧ Names argument assignment.setting ∧
      ∀ setting, Named after setting ↔ Named rest setting := by
  cases segment with
  | attached classified yields =>
      exact ⟨_, _, rfl, .attached _ classified yields,
        (names_iff_of_classify classified).mpr (setting?_of_yields yields), fun _ => Iff.rfl⟩
  | following classified plain yields =>
      refine ⟨_, _, rfl, .following _ classified plain yields,
        (names_iff_of_classify classified).mpr (setting?_of_yields yields), ?_⟩
      intro setting
      simp [named_cons, not_names_of_plain plain]
  | alone classified yields =>
      exact ⟨_, _, rfl, .alone classified split.not_startsPlain yields,
        (names_iff_of_classify classified).mpr (setting?_of_yields yields), fun _ => Iff.rfl⟩

/-! ## Whole command lines -/

open Config (lastFor? lastFor?_cons setting_of_lastFor?)

/-- A setting is named exactly when it is assigned. -/
theorem Splits.named_iff {arguments : List String} {assignments : List Assignment}
    (split : Splits Yields arguments assignments) {setting : Setting} :
    Named arguments setting ↔ (lastFor? assignments setting).isSome := by
  induction split with
  | nil => simp [Named]
  | @cons texts rest assignment assignments segment split ih =>
      rw [named_append, segment.named_iff, ih, lastFor?_cons]
      by_cases here : assignment.setting = setting <;> simp [here]

/-- What prevails for a setting is the value of its last naming. -/
theorem Splits.lastNaming {arguments : List String} {assignments : List Assignment}
    (split : Splits Yields arguments assignments) {setting : Setting} {assignment : Assignment}
    (last : lastFor? assignments setting = some assignment) :
    LastNaming arguments assignment := by
  induction split with
  | nil => contradiction
  | @cons texts rest first assignments segment split ih =>
      rw [lastFor?_cons] at last
      cases later : lastFor? assignments setting with
      | some found =>
          rw [later, Option.some_or] at last
          cases last
          rcases ih later with ⟨before, argument, after, restEq, gives, names, final⟩
          exact ⟨texts ++ before, argument, after, by simp [restEq], gives, names, final⟩
      | none =>
          rw [later, Option.none_or] at last
          split at last
          · rename_i here
            cases last
            rcases segment.firstGives split with ⟨argument, after, textsEq, gives, names, same⟩
            refine ⟨[], argument, after, textsEq, gives, names, ?_⟩
            rw [same, split.named_iff, here, later]
            simp
          · contradiction

end ProxyLauncher.CommandLine
