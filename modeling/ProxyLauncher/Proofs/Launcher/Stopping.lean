import ProxyLauncher.Proofs.Launcher.Secrecy
import ProxyLauncher.Proofs.Launcher.ExitStatus

/-!
# Where a run leaves the launcher

A launcher that something has failed in should have stopped, with a status that
says so.  `Halted` states this of an outcome.  A run keeps to it exactly when it
ends with a status, which is when every failure on the way was one that it
expects.

Any other failure escapes from where it was raised and leaves the launcher
there: at the stage of the step that raised it, or listening if the service
did, and without an exit status.  A host that cannot be encoded is enough for
that.
-/

namespace ProxyLauncher.Startup

variable {κ η : Type} (collaborators : Collaborators κ η) (launch : Launch)

/-- Something has failed in the run that left the journal. -/
inductive Failed (journal : Journal κ η) : Prop
  /-- A step has raised a failure. -/
  | step {step : Step} {failure : Failure}
      (raised : Raised collaborators launch journal step failure) : Failed journal
  /-- The service has ended with a failure. -/
  | service {failure : Failure} (served : Served collaborators journal (.error failure)) :
      Failed journal

/-- The launcher has stopped, and if something has failed then with a status that is not zero. -/
structure Halted (outcome : Outcome κ η Nat) : Prop where
  stopped : outcome.launcher.stage = .stopped
  nonzero : Failed collaborators launch outcome.journal →
    ∃ status, outcome.launcher.exitStatus = some status ∧ status ≠ 0

variable {collaborators launch} {start : Launcher κ η}

/-! ## Runs that end with a status -/

theorem nonzero_of_failed {status : Nat}
    (failed : Failed collaborators launch (run collaborators launch start).journal)
    (ended : (run collaborators launch start).result = .ok status) : status ≠ 0 := by
  cases failed with
  | step raised =>
      have dealt := dealt_of_raised raised
      rw [ended] at dealt
      cases dealt with
      | gaveUp => decide
  | service served =>
      have concluded := concluded_of_served served
      rw [ended] at concluded
      cases concluded with
      | interrupted => decide
      | refused => decide

theorem halted_of_ok {status : Nat}
    (ended : (run collaborators launch start).result = .ok status) :
    Halted collaborators launch (run collaborators launch start) := by
  obtain ⟨stopped, exitStatus⟩ := stopped_of_run ended
  refine ⟨stopped, ?_⟩
  intro failed
  exact ⟨status, exitStatus, nonzero_of_failed failed ended⟩

/-! ## Failures that escape -/

/-- A step that fails unexpectedly leaves the launcher at the stage at which it found it. -/
theorem stage_of_raised {step : Step} {failure : Failure}
    (raised : Raised collaborators launch (run collaborators launch start).journal step failure)
    (unexpected : ¬ Expected step failure) :
    (run collaborators launch start).launcher.stage = step.stage start.stage := by
  obtain ⟨reached, journal, stageEq, course⟩ := course_of_raised raised
  have escaped : (dealWith step failure reached).result = .error failure :=
    (dealt_dealWith step failure reached).unique (.escaped unexpected)
  rw [run_of_course course, Outcome.after_launcher,
    (settled_dealWith step failure reached).left failure escaped, stageEq]

/-- A service that ends in a way that does not count leaves the launcher listening. -/
theorem stage_of_foreign {failure : Failure}
    (served : Served collaborators (run collaborators launch start).journal (.error failure))
    (foreign : Foreign failure) :
    (run collaborators launch start).launcher.stage = .listening := by
  obtain ⟨reached, journal, stageEq, course⟩ := course_of_served served
  have escaped : (conclude (.error failure) reached).result = .error failure :=
    (concluded_conclude (.error failure) reached).unique (.escaped foreign)
  rw [run_of_course course, Outcome.after_launcher,
    (settled_conclude (.error failure) reached).left failure escaped, stageEq]

theorem stage_ne_stopped_of_escaped {failure : Failure}
    (escaped : (run collaborators launch {}).result = .error failure) :
    (run collaborators launch {}).launcher.stage ≠ .stopped := by
  rcases raised_or_served collaborators launch {} with
    ⟨step, raisedFailure, raised⟩ | ⟨ending, served⟩
  · have dealt := dealt_of_raised raised
    rw [escaped] at dealt
    cases dealt with
    | escaped unexpected =>
        rw [stage_of_raised raised unexpected]
        change step.stage .unstarted ≠ .stopped
        cases step <;> decide
  · have concluded := concluded_of_served served
    rw [escaped] at concluded
    cases concluded with
    | escaped foreign =>
        rw [stage_of_foreign served foreign]
        decide

/-! ## Where a run ends -/

variable (collaborators launch)

/-- The law of where a run of a new launcher leaves it. -/
structure RestLaw (outcome : Outcome κ η Nat) : Prop where
  /-- The launcher has halted exactly when the run ends with a status. -/
  halted_iff : Halted collaborators launch outcome ↔ ∃ status, outcome.result = .ok status
  /-- A step that fails unexpectedly leaves the launcher where it was, without an exit status. -/
  step : ∀ step failure, Raised collaborators launch outcome.journal step failure →
    ¬ Expected step failure →
      outcome.launcher.stage = step.stage .unstarted ∧ outcome.launcher.exitStatus = none
  /-- A service that ends in a way that does not count leaves the launcher listening, without an
  exit status. -/
  service : ∀ failure, Served collaborators outcome.journal (.error failure) → Foreign failure →
    outcome.launcher.stage = .listening ∧ outcome.launcher.exitStatus = none

/-- A run of a new launcher halts it exactly when it ends with a status.  A failure that escapes
leaves it half-way, at the stage at which it was raised. -/
theorem run_rest : RestLaw collaborators launch (run collaborators launch {}) := by
  constructor
  case halted_iff =>
    constructor
    · intro halted
      cases ended : (run collaborators launch {}).result with
      | ok status => exact ⟨status, rfl⟩
      | error failure => exact absurd halted.stopped (stage_ne_stopped_of_escaped ended)
    · rintro ⟨status, ended⟩
      exact halted_of_ok ended
  case step =>
    intro step failure raised unexpected
    have escaped := (dealt_of_raised raised).unique (.escaped unexpected)
    exact ⟨stage_of_raised raised unexpected, exitStatus_of_run escaped⟩
  case service =>
    intro failure served foreign
    have escaped := (concluded_of_served served).unique (.escaped foreign)
    exact ⟨stage_of_foreign served foreign, exitStatus_of_run escaped⟩

/-- A launch that names a host with an empty label. -/
def launchOnEmptyLabel : Launch where
  arguments := ["-host", "a..b", "-key-file", "key.pem"]
  environment := fun _ => none

/-- The shipped launcher with a key and such a host is left listening, though nothing listens. -/
theorem not_halted_empty_label :
    ¬ Halted (Standard.withKey Standard.encodedOne) launchOnEmptyLabel
      (run (Standard.withKey Standard.encodedOne) launchOnEmptyLabel {}) := by
  intro halted
  have stopped := halted.stopped
  revert stopped
  decide +kernel

end ProxyLauncher.Startup
