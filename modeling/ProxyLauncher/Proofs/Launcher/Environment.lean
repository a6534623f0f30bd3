import ProxyLauncher.Proofs.Config.EnvironmentFaults
import ProxyLauncher.Proofs.Launcher.Course

/-!
# Runs in an environment that cannot be used

An environment that is refused ends a run before anything else is done: the
launcher reports the first text that is not what its setting needs and stops
with exit status 1.

A port with too many digits is not refused.  The failed conversion escapes from
the run, which reports nothing and leaves the launcher as it was.
-/

namespace ProxyLauncher.Startup

open Config

variable {κ η : Type}

section Unresolved

variable {config : Config} {arguments : List String} {environment : Environment}
  (laid : Config.default.withFlags arguments = .ok config)

include laid

theorem unresolved_of_failed {fault : EnvironmentFault}
    (failed : config.withEnvironment environment = .error fault) :
    Config.default.resolve arguments environment = .error (.environment fault) := by
  rw [resolve_eq_bind, laid, mapError_ok, ok_bind, failed, mapError_error]

variable (collaborators : Collaborators κ η) (cacheSize : Int) (start : Launcher κ η)

/-- A run whose environment cannot be used ends with what it does about that. -/
theorem run_of_failed {fault : EnvironmentFault}
    (failed : config.withEnvironment environment = .error fault) :
    run collaborators ⟨arguments, environment, cacheSize⟩ start =
      dealWith .resolving fault.toFailure start := by
  have course : Course collaborators ⟨arguments, environment, cacheSize⟩ start start
      (printing (.environment fault)) (dealWith .resolving fault.toFailure) :=
    .unresolved (unresolved_of_failed laid failed)
  rw [run_of_course course]
  exact Outcome.after_nil _

theorem run_of_refused {message : String} (refused : config.Refuses environment message) :
    run collaborators ⟨arguments, environment, cacheSize⟩ start =
      ⟨start.stopped 1,
        [.report ("Error reading environment: " ++ message), .stage .stopped], .ok 1⟩ := by
  rcases refused with ⟨fault, failed, configuration⟩
  have expected : Step.resolving.expected? fault.toFailure = some message := by
    rw [configuration]
    rfl
  rw [run_of_failed laid collaborators cacheSize start failed, dealWith_of_expected expected,
    giveUp_apply]
  rfl

theorem run_of_overlongPort {digits : Nat} (overlong : config.OverlongPort environment digits) :
    run collaborators ⟨arguments, environment, cacheSize⟩ start =
      ⟨start, [], .error (EnvironmentFault.portTooLong digits).toFailure⟩ := by
  rw [run_of_failed laid collaborators cacheSize start
    (withEnvironment_eq_tooLong_iff.mpr overlong), dealWith_of_unexpected rfl]
  rfl

end Unresolved

/-- The law of an environment: what comes of laying it over a configuration, and what a run does
whose flags make that configuration. -/
structure EnvironmentLaw (collaborators : Collaborators κ η) (config : Config)
    (environment : Environment) : Prop where
  /-- The environment settles unless the port has too many digits. -/
  settles : config.Settles environment ↔ ∀ digits, ¬ config.OverlongPort environment digits
  /-- It is refused for the first text that is not what its setting needs, with a message that
  shows the text. -/
  refused : ∀ message, config.Refuses environment message ↔ config.Blames environment message
  /-- A port with too many digits fails in a way of its own. -/
  overlong : ∀ digits, config.withEnvironment environment = .error (.portTooLong digits) ↔
    config.OverlongPort environment digits
  /-- A run reports that the environment is refused, and stops with status 1. -/
  reported : ∀ arguments cacheSize message (start : Launcher κ η),
    Config.default.withFlags arguments = .ok config → config.Refuses environment message →
      run collaborators ⟨arguments, environment, cacheSize⟩ start =
        ⟨start.stopped 1,
          [.report ("Error reading environment: " ++ message), .stage .stopped], .ok 1⟩
  /-- A port with too many digits escapes from a run, which does nothing about it. -/
  escaped : ∀ arguments cacheSize digits (start : Launcher κ η),
    Config.default.withFlags arguments = .ok config → config.OverlongPort environment digits →
      run collaborators ⟨arguments, environment, cacheSize⟩ start =
        ⟨start, [], .error (EnvironmentFault.portTooLong digits).toFailure⟩

/-- Every environment obeys the law, over every configuration. -/
theorem run_environmentLaw (collaborators : Collaborators κ η) (config : Config)
    (environment : Environment) : EnvironmentLaw collaborators config environment := by
  constructor
  case settles => exact settles_iff
  case refused => exact fun message => refuses_iff
  case overlong => exact fun digits => withEnvironment_eq_tooLong_iff
  case reported =>
    intro arguments cacheSize message start laid refused
    exact run_of_refused laid collaborators cacheSize start refused
  case escaped =>
    intro arguments cacheSize digits start laid overlong
    exact run_of_overlongPort laid collaborators cacheSize start overlong

end ProxyLauncher.Startup
