import Mathlib.Logic.Basic
import ProxyLauncher.Proofs.CommandLine.Abbreviation
import ProxyLauncher.Proofs.CommandLine.FlagTable

/-!
# What a flag objects to

A flag that is used assigns something, asks for the help text, or is objected
to.  `Objects` lists the objections with the fault that each one is rejected
for: an operand that is missing, that cannot be converted, that is no truth
value, that follows a negation, or that the help flag does not take.

The operand that is dropped is not converted, so no flag of a setting objects to
it.
-/

namespace ProxyLauncher.CommandLine

open Number

/-! ## The objections -/

/-- The flags that cannot do without an operand. -/
def Flag.NeedsOperand (flag : Flag) : Prop :=
  flag ≠ .help ∧ flag ≠ .verbose

/-- The fault for which the use of a flag is rejected. -/
inductive Objects : Flag → String → Option String → Rejection → Prop
  | missing {flag : Flag} (needs : flag.NeedsOperand) (spelling : String) :
      Objects flag spelling none (.missingOperand flag)
  | port (spelling : String) {operand : String} (kept : operand ≠ droppedOperand)
      (malformed : Integer.readLenient? operand.toList = none) :
      Objects .port spelling (some operand) (.malformedPort operand)
  | timeout (spelling : String) {operand : String} (kept : operand ≠ droppedOperand)
      (malformed : Duration.read? operand = none) :
      Objects .timeout spelling (some operand) (.malformedTimeout operand)
  | verbosity {spelling operand : String} (kept : operand ≠ droppedOperand)
      (affirms : spelling ≠ negatedSpelling) (unlisted : verbosityOf? operand = none) :
      Objects .verbose spelling (some operand) (.malformedVerbosity operand)
  | negated {operand : String} (kept : operand ≠ droppedOperand) :
      Objects .verbose negatedSpelling (some operand) .negatedOperand
  | help {spelling operand : String} (whole : spelling ≠ "-h" ∨ operand = "") :
      Objects .help spelling (some operand) (.superfluousOperand operand)
  | cluster {operand : String} {letters : List Char} {other : Char} {rest : List Char}
      (operandEq : operand.toList = letters ++ other :: rest)
      (repeated : ∀ letter ∈ letters, letter = 'h') (differs : other ≠ 'h') :
      Objects .help "-h" (some operand) (.superfluousOperand (String.ofList (other :: rest)))

/-! ## Conversions -/

theorem convertPort_eq_error_iff {operand : String} {rejection : Rejection} :
    convertPort operand = .error rejection ↔
      Integer.readLenient? operand.toList = none ∧ rejection = .malformedPort operand := by
  unfold convertPort
  cases Integer.readLenient? operand.toList <;> simp [eq_comm]

theorem convertTimeout_eq_error_iff {operand : String} {rejection : Rejection} :
    convertTimeout operand = .error rejection ↔
      Duration.read? operand = none ∧ rejection = .malformedTimeout operand := by
  unfold convertTimeout
  cases Duration.read? operand <;> simp [eq_comm]

/-- A converted operand is rejected for what its converter rejects, unless it is dropped. -/
theorem convertOperand_eq_rejected_iff {α : Type} {convert : String → Except Rejection α}
    {set : Operand α → Assignment} {operand : String} {rejection : Rejection} :
    ((convertOperand convert operand).map set).mapError Stop.rejected =
        .error (.rejected rejection) ↔
      operand ≠ droppedOperand ∧ convert operand = .error rejection := by
  simp only [mapError_eq_error_iff, map_eq_error_iff, Stop.rejected.injEq, exists_eq_right]
  unfold convertOperand
  by_cases dropped : operand = droppedOperand
  · simp [dropped]
  · simp [dropped, map_eq_error_iff]

theorem assignVerbosity_eq_error_iff {spelling : String} {operand : Option String}
    {rejection : Rejection} :
    assignVerbosity spelling operand = .error rejection ↔
      Objects .verbose spelling operand rejection := by
  constructor
  · intro refused
    unfold assignVerbosity at refused
    dsimp only at refused
    split at refused
    · contradiction
    · rename_i text remains
      rcases Option.filter_eq_some_iff.mp remains with ⟨rfl, keeps⟩
      have kept : text ≠ droppedOperand := bne_iff_ne.mp keeps
      split at refused
      · rename_i negates
        cases refused
        rw [negates]
        exact .negated kept
      · rename_i affirms
        split at refused
        · contradiction
        · rename_i unlisted
          cases refused
          exact .verbosity kept affirms unlisted
  · intro objects
    cases objects with
    | missing needs => exact absurd rfl needs.2
    | verbosity kept affirms unlisted =>
        simp [assignVerbosity, Option.filter, kept, affirms, unlisted]
    | negated kept => simp [assignVerbosity, Option.filter, kept]

/-! ## The help flag -/

/-- A cluster of short flags is refused from the first letter on that is not the help flag's. -/
theorem readHelpCluster_eq_rejected_iff {characters : List Char} {rejection : Rejection} :
    readHelpCluster characters = .rejected rejection ↔
      ∃ letters other rest, characters = letters ++ other :: rest ∧
        (∀ letter ∈ letters, letter = 'h') ∧ other ≠ 'h' ∧
          rejection = .superfluousOperand (String.ofList (other :: rest)) := by
  fun_induction readHelpCluster characters with
  | case1 => simp
  | case2 characters ih =>
      rw [ih]
      constructor
      · rintro ⟨letters, other, rest, rfl, repeated, differs, rfl⟩
        exact ⟨'h' :: letters, other, rest, rfl, by simpa using repeated, differs, rfl⟩
      · rintro ⟨letters, other, rest, charactersEq, repeated, differs, rfl⟩
        cases letters with
        | nil => exact absurd (List.cons.inj charactersEq).1.symm differs
        | cons letter letters =>
            exact ⟨letters, other, rest, (List.cons.inj charactersEq).2,
              fun member among => repeated member (List.mem_cons_of_mem letter among), differs, rfl⟩
  | case3 characters given different =>
      rcases charactersEq : characters with _ | ⟨first, others⟩
      · exact absurd charactersEq given
      have firstNe : first ≠ 'h' := by
        rintro rfl
        exact different others charactersEq
      constructor
      · intro refused
        cases refused
        exact ⟨[], first, others, rfl, by simp, firstNe, rfl⟩
      · rintro ⟨letters, other, rest, split, repeated, _, rfl⟩
        cases letters with
        | nil =>
            rw [split]
            rfl
        | cons letter letters =>
            rcases List.cons.inj split with ⟨rfl, _⟩
            exact absurd (repeated first List.mem_cons_self) firstNe

theorem readHelpCluster_of_repeated {letters : List Char}
    (repeated : ∀ letter ∈ letters, letter = 'h') : readHelpCluster letters = .help := by
  induction letters with
  | nil => rfl
  | cons letter letters ih =>
      rcases List.forall_mem_cons.mp repeated with ⟨rfl, others⟩
      exact ih others

/-- The help text is shown when nothing is attached to the help flag, or when the short one has only
itself attached, once or more often. -/
theorem stopForHelp_eq_help_iff {spelling : String} {attached : Option String} :
    stopForHelp spelling attached = .help ↔
      ∀ operand, attached = some operand →
        spelling = "-h" ∧ operand ≠ "" ∧ ∀ letter ∈ operand.toList, letter = 'h' := by
  cases attached with
  | none => simp [stopForHelp]
  | some operand =>
      simp only [Option.some.injEq, forall_eq']
      constructor
      · intro shown
        rcases repeated_of_stopForHelp shown with ⟨short, repeated⟩
        refine ⟨short, ?_, repeated⟩
        rintro rfl
        simp [stopForHelp] at shown
      · rintro ⟨short, given, repeated⟩
        rw [stopForHelp, if_pos ⟨short, given⟩]
        exact readHelpCluster_of_repeated repeated

theorem stopForHelp_eq_rejected_iff {spelling : String} {attached : Option String}
    {rejection : Rejection} :
    stopForHelp spelling attached = .rejected rejection ↔
      Objects .help spelling attached rejection := by
  constructor
  · intro refused
    cases attached with
    | none => contradiction
    | some operand =>
        rw [stopForHelp] at refused
        split at refused
        · rename_i clustered
          rcases readHelpCluster_eq_rejected_iff.mp refused with
            ⟨letters, other, rest, operandEq, repeated, differs, rfl⟩
          rw [clustered.1]
          exact .cluster operandEq repeated differs
        · rename_i whole
          cases refused
          apply Objects.help
          rw [not_and_or, not_not] at whole
          exact whole
  · intro objects
    cases objects with
    | missing needs => exact absurd rfl needs.1
    | help whole =>
        rw [stopForHelp, if_neg]
        rwa [not_and_or, not_not]
    | @cluster operand letters other rest operandEq repeated differs =>
        have given : operand ≠ "" := by
          rintro rfl
          simp at operandEq
        rw [stopForHelp, if_pos ⟨rfl, given⟩]
        exact readHelpCluster_eq_rejected_iff.mpr
          ⟨letters, other, rest, operandEq, repeated, differs, rfl⟩

/-! ## Using a flag -/

/-- Using a flag ends with the help text exactly when it is the help flag and refuses nothing. -/
theorem useFlag_eq_help_iff {flag : Flag} {spelling : String} {operand : Option String} :
    useFlag flag spelling operand = .error .help ↔
      flag = .help ∧ stopForHelp spelling operand = .help := by
  constructor
  · intro used
    by_cases useful : flag = .help
    · subst useful
      exact ⟨rfl, Except.error.inj used⟩
    · exact absurd used (useFlag_ne_help useful spelling operand)
  · rintro ⟨rfl, shown⟩
    rw [useFlag, shown]

theorem useFlag_none {flag : Flag} (needs : flag.NeedsOperand) (spelling : String) :
    useFlag flag spelling none = .error (.rejected (.missingOperand flag)) := by
  cases flag with
  | help => exact absurd rfl needs.1
  | verbose => exact absurd rfl needs.2
  | host => rfl
  | port => rfl
  | timeout => rfl
  | keyFile => rfl

theorem objects_of_useFlag_none {flag : Flag} (needs : flag.NeedsOperand) {spelling : String}
    {rejection : Rejection} (used : useFlag flag spelling none = .error (.rejected rejection)) :
    Objects flag spelling none rejection := by
  rw [useFlag_none needs] at used
  cases used
  exact .missing needs spelling

theorem objects_of_useFlag {flag : Flag} {spelling : String} {operand : Option String}
    {rejection : Rejection} (used : useFlag flag spelling operand = .error (.rejected rejection)) :
    Objects flag spelling operand rejection := by
  cases flag with
  | help => exact stopForHelp_eq_rejected_iff.mp (Except.error.inj used)
  | verbose =>
      rcases mapError_eq_error_iff.mp used with ⟨_, refused, ⟨⟩⟩
      exact assignVerbosity_eq_error_iff.mp refused
  | host =>
      cases operand with
      | none => exact objects_of_useFlag_none ⟨by decide, by decide⟩ used
      | some text => cases (convertOperand_eq_rejected_iff.mp used).2
  | port =>
      cases operand with
      | none => exact objects_of_useFlag_none ⟨by decide, by decide⟩ used
      | some text =>
          rcases convertOperand_eq_rejected_iff.mp used with ⟨kept, refused⟩
          rcases convertPort_eq_error_iff.mp refused with ⟨malformed, rfl⟩
          exact .port spelling kept malformed
  | timeout =>
      cases operand with
      | none => exact objects_of_useFlag_none ⟨by decide, by decide⟩ used
      | some text =>
          rcases convertOperand_eq_rejected_iff.mp used with ⟨kept, refused⟩
          rcases convertTimeout_eq_error_iff.mp refused with ⟨malformed, rfl⟩
          exact .timeout spelling kept malformed
  | keyFile =>
      cases operand with
      | none => exact objects_of_useFlag_none ⟨by decide, by decide⟩ used
      | some text => cases (convertOperand_eq_rejected_iff.mp used).2

theorem useFlag_of_objects {flag : Flag} {spelling : String} {operand : Option String}
    {rejection : Rejection} (objects : Objects flag spelling operand rejection) :
    useFlag flag spelling operand = .error (.rejected rejection) := by
  cases objects with
  | missing needs => exact useFlag_none needs spelling
  | port _ kept malformed =>
      exact convertOperand_eq_rejected_iff.mpr
        ⟨kept, convertPort_eq_error_iff.mpr ⟨malformed, rfl⟩⟩
  | timeout _ kept malformed =>
      exact convertOperand_eq_rejected_iff.mpr
        ⟨kept, convertTimeout_eq_error_iff.mpr ⟨malformed, rfl⟩⟩
  | verbosity kept affirms unlisted =>
      rw [useFlag, assignVerbosity_eq_error_iff.mpr (.verbosity kept affirms unlisted)]
      rfl
  | negated kept =>
      rw [useFlag, assignVerbosity_eq_error_iff.mpr (.negated kept)]
      rfl
  | help whole => rw [useFlag, stopForHelp_eq_rejected_iff.mpr (.help whole)]
  | cluster operandEq repeated differs =>
      rw [useFlag, stopForHelp_eq_rejected_iff.mpr (.cluster operandEq repeated differs)]

/-- Using a flag is rejected exactly for what is objected to. -/
theorem useFlag_eq_rejected_iff {flag : Flag} {spelling : String} {operand : Option String}
    {rejection : Rejection} :
    useFlag flag spelling operand = .error (.rejected rejection) ↔
      Objects flag spelling operand rejection :=
  ⟨objects_of_useFlag, useFlag_of_objects⟩

/-- A flag of a setting to which nothing is objected makes its assignment. -/
theorem exists_useFlag_eq_ok {flag : Flag} (useful : flag ≠ .help) {spelling : String}
    {operand : Option String} (accepted : ∀ rejection, ¬ Objects flag spelling operand rejection) :
    ∃ assignment, useFlag flag spelling operand = .ok assignment := by
  cases used : useFlag flag spelling operand with
  | ok assignment => exact ⟨assignment, rfl⟩
  | error stop =>
      cases stop with
      | help => exact absurd used (useFlag_ne_help useful spelling operand)
      | rejected rejection => exact absurd (useFlag_eq_rejected_iff.mp used) (accepted rejection)

end ProxyLauncher.CommandLine
