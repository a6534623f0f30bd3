import ProxyLauncher.Proofs.Config.Precedence
import ProxyLauncher.Proofs.Config.Provenance
import ProxyLauncher.Proofs.Config.Validation
import ProxyLauncher.Proofs.Duration.Range

/-!
# Validated configurations are usable

Validation only asks whether the timeout is below zero, which neither an
infinity nor the value that is no number is.  That is enough because such a
timeout never comes to stand in a configuration: flags and variables give it
durations, which are in range, and so is the built-in one.

`TimeoutInRange` is the invariant.  One assignment keeps it, hence a layer of
assignments, hence a revision, hence any number of revisions.
-/

namespace ProxyLauncher

open CommandLine Number

/-- If an assignment gives the timeout a value, that value is in range. -/
def Assignment.TimeoutInRange (assignment : Assignment) : Prop :=
  ∀ timeout, assignment = .timeout (.given timeout) → Duration.InRange timeout

namespace Config

/-- If the timeout has a value, that value is in range. -/
def TimeoutInRange (config : Config) : Prop :=
  ∀ timeout, config.timeout = .given timeout → Duration.InRange timeout

theorem inRange_defaultTimeout : Duration.InRange Default.timeout where
  canonical := Binary64.canonical_ofDecimal false 10 0
  exists_seconds := by
    have timeoutEq : Default.timeout = .finite false 5629499534213120 (-49) := by
      decide +kernel
    refine ⟨10, ?_, by norm_num [Duration.longestSeconds]⟩
    rw [timeoutEq]
    norm_num [Binary64.toRat?, Binary64.magnitude]

theorem timeoutInRange_default : TimeoutInRange Config.default := by
  rintro timeout ⟨⟩
  exact inRange_defaultTimeout

/-! ## Assignments of the layers -/

theorem timeoutInRange_of_yields {flag : Flag} {spelling : String} {operand : Option String}
    {assignment : Assignment} (yields : Yields flag spelling operand assignment) :
    assignment.TimeoutInRange := by
  rintro timeout rfl
  cases yields with
  | kept _ accepts =>
      cases accepts with
      | timeout converts => exact (Duration.read?_eq_some_iff.mp converts).inRange
  | verbosity accepts => cases accepts

/-- Every segment of a command line makes an assignment in range. -/
theorem timeoutInRange_of_splits {arguments : List String} {assignments : List Assignment}
    (split : Splits Yields arguments assignments) :
    ∀ assignment ∈ assignments, assignment.TimeoutInRange := by
  induction split with
  | nil => nofun
  | cons segment _ ih =>
      rw [List.forall_mem_cons]
      refine ⟨?_, ih⟩
      cases segment with
      | attached _ given => exact timeoutInRange_of_yields given
      | following _ _ given => exact timeoutInRange_of_yields given
      | alone _ given => exact timeoutInRange_of_yields given

/-- Every variable that is read makes an assignment in range. -/
theorem timeoutInRange_of_givenBy (texts : Setting → Option String) :
    ∀ assignment ∈ givenBy texts, assignment.TimeoutInRange := by
  rintro assignment member timeout rfl
  obtain ⟨setting, _, given⟩ := List.mem_filterMap.mp member
  obtain ⟨text, _, reads⟩ := givenAt?_eq_some_iff.mp given
  cases readsAs_of_readText reads with
  | timeout duration => exact (Duration.read?_eq_some_iff.mp duration).inRange

/-! ## The invariant -/

section Invariant

variable {config : Config} (inRange : config.TimeoutInRange)

include inRange

theorem TimeoutInRange.assign (source : Source) {assignment : Assignment}
    (given : assignment.TimeoutInRange) : (config.assign source assignment).TimeoutInRange := by
  cases assignment with
  | timeout value =>
      rintro timeout ⟨⟩
      exact given timeout rfl
  | verbose => exact inRange
  | host => exact inRange
  | port => exact inRange
  | keyFile => exact inRange

theorem TimeoutInRange.overlay (source : Source) {assignments : List Assignment}
    (given : ∀ assignment ∈ assignments, assignment.TimeoutInRange) :
    (config.overlay source assignments).TimeoutInRange := by
  induction assignments generalizing config with
  | nil => exact inRange
  | cons first rest ih =>
      rw [List.forall_mem_cons] at given
      exact ih (inRange.assign source given.1) given.2

theorem TimeoutInRange.withFlags {arguments : List String} {flagged : Config}
    (laid : config.withFlags arguments = .ok flagged) : flagged.TimeoutInRange := by
  obtain ⟨assignments, split, rfl⟩ := withFlags_eq_ok_iff.mp laid
  exact inRange.overlay .flag (timeoutInRange_of_splits split)

theorem TimeoutInRange.withEnvironment {environment : Environment} {supplied : Config}
    (laid : config.withEnvironment environment = .ok supplied) : supplied.TimeoutInRange := by
  obtain ⟨_, rfl⟩ := withEnvironment_eq_ok_iff.mp laid
  exact inRange.overlay .environment (timeoutInRange_of_givenBy _)

theorem TimeoutInRange.resolve {arguments : List String} {environment : Environment}
    {resolved : Config} (ended : config.resolve arguments environment = .ok resolved) :
    resolved.TimeoutInRange := by
  rw [resolve_eq_bind] at ended
  obtain ⟨flagged, laid, supplied⟩ := bind_eq_ok_iff.mp ended
  have flaggedInRange := inRange.withFlags (mapError_eq_ok_iff.mp laid)
  exact flaggedInRange.withEnvironment (mapError_eq_ok_iff.mp supplied)

theorem TimeoutInRange.revise (revision : Revision) :
    (config.revise revision).TimeoutInRange := by
  unfold Config.revise
  cases ended : config.tryRevise revision with
  | error fault => exact inRange
  | ok revised =>
      cases revision with
      | flags arguments => exact inRange.withFlags (mapError_eq_ok_iff.mp ended)
      | environment environment => exact inRange.withEnvironment (mapError_eq_ok_iff.mp ended)
      | resolve arguments environment => exact inRange.resolve ended

theorem TimeoutInRange.reviseAll (revisions : List Revision) :
    (config.reviseAll revisions).TimeoutInRange := by
  induction revisions generalizing config with
  | nil => exact inRange
  | cons revision rest ih => exact ih (inRange.revise revision)

end Invariant

/-! ## Usable configurations -/

/-- A number of seconds, as a rational from zero to the longest duration.  The negative zero is the
zero. -/
def UsableTimeout (timeout : Binary64) : Prop :=
  ∃ seconds, timeout.toRat? = some seconds ∧ 0 ≤ seconds ∧ seconds ≤ Duration.longestSeconds

/-- A configuration that can be served with: its port is one, and its timeout is a number of
seconds that does not exceed the longest duration. -/
structure Usable (config : Config) : Prop where
  port : ∃ port, config.port = .given port ∧ 0 ≤ port ∧ port ≤ 65535
  timeout : ∃ timeout, config.timeout = .given timeout ∧ UsableTimeout timeout

/-- Of the configurations whose timeout is in range, the valid ones are the usable ones. -/
theorem TimeoutInRange.validate_eq_ok_iff {config : Config} (inRange : config.TimeoutInRange) :
    config.validate = .ok () ↔ config.Usable := by
  rw [Config.validate_eq_ok_iff]
  constructor
  · rintro ⟨port, timeout, given, notNegative⟩
    exact ⟨port, timeout, given, (inRange timeout given).exists_of_not_negative notNegative⟩
  · rintro ⟨port, timeout, given, seconds, isSeconds, nonneg, _⟩
    refine ⟨port, timeout, given, ?_⟩
    exact (Binary64.less_eq_false_iff isSeconds (Binary64.toRat?_zeroOf false)).mpr nonneg

end Config

end ProxyLauncher
