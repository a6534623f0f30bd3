import ProxyLauncher.CommandLine.Reading
import ProxyLauncher.Proofs.Attempt

/-!
# What a flag assigns

`Accepts` is the table of the flags: which operands a flag takes, whether it can
do without one, and what it then assigns.  `Yields` adds the one operand that is
dropped, after which a setting has no value and verbosity counts as given
without an operand.

Using a flag succeeds exactly as the table says.
-/

namespace ProxyLauncher.CommandLine

open Number

/-! ## The table -/

/-- What a flag with an operand, or without one, assigns. -/
inductive Accepts : Flag → String → Option String → Assignment → Prop
  | host (spelling operand : String) :
      Accepts .host spelling (some operand) (.host (.given operand))
  | port {spelling operand : String} {port : Int}
      (converts : Integer.readLenient? operand.toList = some port) :
      Accepts .port spelling (some operand) (.port (.given port))
  | timeout {spelling operand : String} {timeout : Binary64}
      (converts : Duration.read? operand = some timeout) :
      Accepts .timeout spelling (some operand) (.timeout (.given timeout))
  | keyFile (spelling operand : String) :
      Accepts .keyFile spelling (some operand) (.keyFile (.given operand))
  | verbosity {spelling operand : String} {value : Bool} (affirms : spelling ≠ negatedSpelling)
      (listed : verbosityOf? operand = some value) :
      Accepts .verbose spelling (some operand) (.verbose value)
  | affirmed {spelling : String} (affirms : spelling ≠ negatedSpelling) :
      Accepts .verbose spelling none (.verbose true)
  | negated : Accepts .verbose negatedSpelling none (.verbose false)

/-- What a flag assigns when its operand may also be the one that is dropped. -/
inductive Yields : Flag → String → Option String → Assignment → Prop
  | kept {flag : Flag} {spelling : String} {operand : Option String} {assignment : Assignment}
      (kept : operand ≠ some droppedOperand) (accepts : Accepts flag spelling operand assignment) :
      Yields flag spelling operand assignment
  | host (spelling : String) : Yields .host spelling (some droppedOperand) (.host .dropped)
  | port (spelling : String) : Yields .port spelling (some droppedOperand) (.port .dropped)
  | timeout (spelling : String) :
      Yields .timeout spelling (some droppedOperand) (.timeout .dropped)
  | keyFile (spelling : String) :
      Yields .keyFile spelling (some droppedOperand) (.keyFile .dropped)
  | verbosity {spelling : String} {assignment : Assignment}
      (accepts : Accepts .verbose spelling none assignment) :
      Yields .verbose spelling (some droppedOperand) assignment

/-! ## Using a flag -/

section Operand

variable {α : Type} {convert : String → Except Rejection α} {set : Operand α → Assignment}
  {flag : Flag} {spelling operand : String}

/-- A flag with a converted operand yields what its table has for the dropped
operand and for every other one. -/
theorem yields_of_convertOperand {assignment : Assignment}
    (dropped : Yields flag spelling (some droppedOperand) (set .dropped))
    (given : ∀ value, convert operand = .ok value →
      Accepts flag spelling (some operand) (set (.given value)))
    (used : ((convertOperand convert operand).map set).mapError Stop.rejected = .ok assignment) :
    Yields flag spelling (some operand) assignment := by
  rcases map_eq_ok_iff.mp (mapError_eq_ok_iff.mp used) with ⟨result, converts, rfl⟩
  unfold convertOperand at converts
  split at converts
  · rename_i operandEq
    cases converts
    rw [operandEq]
    exact dropped
  · rename_i kept
    rcases map_eq_ok_iff.mp converts with ⟨value, valueEq, rfl⟩
    exact .kept (by simpa using kept) (given value valueEq)

theorem convertOperand_of_kept {value : α} (kept : some operand ≠ some droppedOperand)
    (converts : convert operand = .ok value) :
    ((convertOperand convert operand).map set).mapError Stop.rejected =
      .ok (set (.given value)) := by
  have operandNe : operand ≠ droppedOperand := by simpa using kept
  simp [convertOperand, operandNe, converts]

end Operand

/-- Without an operand the verbosity flag switches on, unless its spelling negates. -/
theorem assignVerbosity_none_eq_ok_iff {spelling : String} {assignment : Assignment} :
    assignVerbosity spelling none = .ok assignment ↔
      Accepts .verbose spelling none assignment := by
  constructor
  · intro assigned
    by_cases negates : spelling = negatedSpelling
    · subst negates
      cases assigned
      exact .negated
    · have assignmentEq : Assignment.verbose true = assignment := by
        simpa [assignVerbosity, negates] using assigned
      rw [← assignmentEq]
      exact .affirmed negates
  · intro accepts
    cases accepts with
    | affirmed affirms => simp [assignVerbosity, affirms]
    | negated => rfl

theorem assignVerbosity_some_eq_ok_iff {spelling operand : String} {assignment : Assignment}
    (kept : operand ≠ droppedOperand) :
    assignVerbosity spelling (some operand) = .ok assignment ↔
      Accepts .verbose spelling (some operand) assignment := by
  have filterEq : (some operand).filter (· != droppedOperand) = some operand := by
    simp [Option.filter, kept]
  constructor
  · intro assigned
    simp only [assignVerbosity, filterEq] at assigned
    split at assigned
    · contradiction
    · rename_i affirms
      split at assigned
      · rename_i value listed
        cases assigned
        exact .verbosity affirms listed
      · contradiction
  · intro accepts
    cases accepts with
    | verbosity affirms listed => simp only [assignVerbosity, filterEq, if_neg affirms, listed]

/-- A dropped operand counts as none. -/
theorem assignVerbosity_eq_ok_iff {spelling : String} {operand : Option String}
    {assignment : Assignment} :
    assignVerbosity spelling operand = .ok assignment ↔
      Yields .verbose spelling operand assignment := by
  by_cases dropped : operand = some droppedOperand
  · subst dropped
    change assignVerbosity spelling none = .ok assignment ↔ _
    rw [assignVerbosity_none_eq_ok_iff]
    constructor
    · exact Yields.verbosity
    · intro yields
      cases yields with
      | kept kept _ => exact absurd rfl kept
      | verbosity accepts => exact accepts
  · have accepted : assignVerbosity spelling operand = .ok assignment ↔
        Accepts .verbose spelling operand assignment := by
      cases operand with
      | none => exact assignVerbosity_none_eq_ok_iff
      | some text => exact assignVerbosity_some_eq_ok_iff (by simpa using dropped)
    rw [accepted]
    constructor
    · exact Yields.kept dropped
    · intro yields
      cases yields with
      | kept _ accepts => exact accepts
      | verbosity _ => exact absurd rfl dropped

theorem convertPort_eq_ok_iff {operand : String} {port : Int} :
    convertPort operand = .ok port ↔ Integer.readLenient? operand.toList = some port := by
  unfold convertPort
  cases Integer.readLenient? operand.toList <;> simp

theorem convertTimeout_eq_ok_iff {operand : String} {timeout : Binary64} :
    convertTimeout operand = .ok timeout ↔ Duration.read? operand = some timeout := by
  unfold convertTimeout
  cases Duration.read? operand <;> simp

theorem useFlag_verbose_eq_ok_iff {spelling : String} {operand : Option String}
    {assignment : Assignment} :
    useFlag .verbose spelling operand = .ok assignment ↔
      Yields .verbose spelling operand assignment := by
  rw [useFlag, mapError_eq_ok_iff, assignVerbosity_eq_ok_iff]

theorem yields_of_useFlag {flag : Flag} {spelling : String} {operand : Option String}
    {assignment : Assignment} (used : useFlag flag spelling operand = .ok assignment) :
    Yields flag spelling operand assignment := by
  cases flag with
  | help => contradiction
  | verbose => exact useFlag_verbose_eq_ok_iff.mp used
  | host =>
      cases operand with
      | none => contradiction
      | some text =>
          apply yields_of_convertOperand (.host spelling) _ used
          rintro _ ⟨⟩
          exact .host spelling text
  | port =>
      cases operand with
      | none => contradiction
      | some text =>
          apply yields_of_convertOperand (.port spelling) _ used
          intro port converts
          exact .port (convertPort_eq_ok_iff.mp converts)
  | timeout =>
      cases operand with
      | none => contradiction
      | some text =>
          apply yields_of_convertOperand (.timeout spelling) _ used
          intro timeout converts
          exact .timeout (convertTimeout_eq_ok_iff.mp converts)
  | keyFile =>
      cases operand with
      | none => contradiction
      | some text =>
          apply yields_of_convertOperand (.keyFile spelling) _ used
          rintro _ ⟨⟩
          exact .keyFile spelling text

theorem useFlag_of_yields {flag : Flag} {spelling : String} {operand : Option String}
    {assignment : Assignment} (yields : Yields flag spelling operand assignment) :
    useFlag flag spelling operand = .ok assignment := by
  cases yields with
  | host => rfl
  | port => rfl
  | timeout => rfl
  | keyFile => rfl
  | verbosity accepts => exact useFlag_verbose_eq_ok_iff.mpr (.verbosity accepts)
  | kept kept accepts =>
      cases accepts with
      | host => exact convertOperand_of_kept kept rfl
      | port converts => exact convertOperand_of_kept kept (convertPort_eq_ok_iff.mpr converts)
      | timeout converts =>
          exact convertOperand_of_kept kept (convertTimeout_eq_ok_iff.mpr converts)
      | keyFile => exact convertOperand_of_kept kept rfl
      | verbosity affirms listed =>
          exact useFlag_verbose_eq_ok_iff.mpr (.kept kept (.verbosity affirms listed))
      | affirmed affirms =>
          exact useFlag_verbose_eq_ok_iff.mpr (.kept kept (.affirmed affirms))
      | negated => rfl

/-- Using a flag succeeds exactly as the table says. -/
theorem useFlag_eq_ok_iff {flag : Flag} {spelling : String} {operand : Option String}
    {assignment : Assignment} :
    useFlag flag spelling operand = .ok assignment ↔ Yields flag spelling operand assignment :=
  ⟨yields_of_useFlag, useFlag_of_yields⟩

end ProxyLauncher.CommandLine
