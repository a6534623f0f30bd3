import Mathlib.Tactic.Simps.Basic
import ProxyLauncher.Proofs.Attempt
import ProxyLauncher.Proofs.Launcher.Activity

/-!
# What a step leaves

Each step of the startup ends in one of a few ways, and each way has an
equation: the launcher afterwards, the entries, and the result.  The steps that
need a configuration have further equations for a launcher that holds none.

Nothing below opens a step; what a step can do is said here once.
-/

namespace ProxyLauncher

variable {κ η : Type}

/-! ## The launcher between the steps -/

namespace Launcher

/-- The launcher once its configuration is resolved. -/
@[simps]
def configured (launcher : Launcher κ η) (config : Config) : Launcher κ η :=
  { launcher with config := some config, stage := .configResolved }

/-- The launcher once its key is loaded. -/
@[simps]
def keyed (launcher : Launcher κ η) (key : Option κ) : Launcher κ η :=
  { launcher with key := key, stage := .credentialLoaded }

/-- The launcher once its handler is built. -/
@[simps]
def equipped (launcher : Launcher κ η) (handler : η) : Launcher κ η :=
  { launcher with handler := some handler, stage := .handlerConstructed }

/-- The launcher that listens. -/
@[simps]
def listening (launcher : Launcher κ η) : Launcher κ η :=
  { launcher with stage := .listening }

/-- The launcher that has stopped with an exit status. -/
@[simps]
def stopped (launcher : Launcher κ η) (status : Nat) : Launcher κ η :=
  { launcher with stage := .stopped, exitStatus := some status }

end Launcher

/-- What building a handler and giving it a timeout comes to. -/
def Collaborators.construct (collaborators : Collaborators κ η) (key : Option κ) (cacheSize : Int)
    (timeout : Operand Number.Binary64) : Except Failure η :=
  (collaborators.makeHandler key cacheSize).result >>= (collaborators.assignTimeout · timeout)

namespace Startup

open Activity

/-! ## Entries -/

/-- A record of the startup. -/
def recording (level : Log.Level) (text : String) : Entry κ η :=
  .record (Log.startupRecord level text)

/-- What is printed when no configuration can be resolved. -/
def printing : Config.ResolveFault → Journal κ η
  | .flags stop => [.output stop.output, .complaint stop.complaint]
  | .environment _ => []

/-- The log is configured and shows the configuration. -/
def showing (config : Config) : Journal κ η :=
  .configureLog config.verbose :: config.dump.map (recording .debug)

/-- The launcher tells where it listens. -/
def announcing (config : Config) : Journal κ η :=
  [recording .info ("Listening on " ++ config.address ++ " (HTTP, no TLS)"),
    recording .warning "Client traffic is NOT encrypted; run behind a TLS-terminating proxy"]

/-! ## Steps -/

theorem logDump_apply (lines : List String) (launcher : Launcher κ η) :
    logDump lines launcher = ⟨launcher, lines.map (recording .debug), .ok ()⟩ := by
  induction lines with
  | nil => rfl
  | cons line rest ih => simp [logDump, ih, recording]

section Configuration

variable {launch : Launch} (launcher : Launcher κ η)

theorem resolveConfig_of_unresolved {fault : Config.ResolveFault}
    (unresolved : Config.default.resolve launch.arguments launch.environment = .error fault) :
    resolveConfig launch launcher = ⟨launcher, printing fault, .error fault.toFailure⟩ := by
  cases fault with
  | flags stop => simp [resolveConfig, readConfig, unresolved, printStop, printing]
  | environment fault => simp [resolveConfig, readConfig, unresolved, printing]

theorem resolveConfig_of_resolved {config : Config}
    (resolved : Config.default.resolve launch.arguments launch.environment = .ok config) :
    resolveConfig launch launcher =
      ⟨launcher.configured config, showing config ++ [.stage .configResolved], .ok config⟩ := by
  simp [resolveConfig, readConfig, resolved, logDump_apply, showing, Launcher.configured]

end Configuration

section Held

variable {launcher : Launcher κ η} {config : Config} (held : launcher.config = some config)
  (collaborators : Collaborators κ η)

include held

theorem validate_apply :
    validate launcher = ⟨launcher, [], config.validate.mapError Config.Fault.toFailure⟩ := by
  simp [validate, requireConfig_apply held]

theorem loadCredentials_of_failed {failure : Failure}
    (failed : (collaborators.loadKey config.keyFile).result = .error failure) :
    loadCredentials collaborators launcher =
      ⟨launcher, asking (.loadKey config.keyFile) (collaborators.loadKey config.keyFile),
        .error failure⟩ := by
  simp [loadCredentials, requireConfig_apply held, failed]

theorem loadCredentials_of_loaded {key : Option κ}
    (loaded : (collaborators.loadKey config.keyFile).result = .ok key) :
    loadCredentials collaborators launcher =
      ⟨launcher.keyed key,
        asking (.loadKey config.keyFile) (collaborators.loadKey config.keyFile) ++
          [.stage .credentialLoaded], .ok ()⟩ := by
  simp [loadCredentials, requireConfig_apply held, loaded, Launcher.keyed]

/-- It makes no difference to the entries whether the handler cannot be built or
does not take its timeout. -/
theorem constructHandler_of_failed {cacheSize : Int} {failure : Failure}
    (failed : collaborators.construct launcher.key cacheSize config.timeout = .error failure) :
    constructHandler collaborators cacheSize launcher =
      ⟨launcher,
        recording .debug "Creating proxy" ::
          asking (.makeHandler launcher.key cacheSize)
            (collaborators.makeHandler launcher.key cacheSize), .error failure⟩ := by
  unfold Collaborators.construct at failed
  cases made : (collaborators.makeHandler launcher.key cacheSize).result with
  | error fault =>
      rw [made, error_bind] at failed
      cases failed
      simp [constructHandler, made, recording]
  | ok built =>
      rw [made, ok_bind] at failed
      simp [constructHandler, made, requireConfig_apply held, failed, recording]

theorem constructHandler_of_constructed {cacheSize : Int} {handler : η}
    (constructed : collaborators.construct launcher.key cacheSize config.timeout = .ok handler) :
    constructHandler collaborators cacheSize launcher =
      ⟨launcher.equipped handler,
        recording .debug "Creating proxy" ::
          asking (.makeHandler launcher.key cacheSize)
            (collaborators.makeHandler launcher.key cacheSize) ++
          [.stage .handlerConstructed], .ok ()⟩ := by
  rcases bind_eq_ok_iff.mp constructed with ⟨built, made, assigned⟩
  simp [constructHandler, made, requireConfig_apply held, assigned, recording, Launcher.equipped]

/-- Listening is announced before the service is asked for. -/
theorem listen_apply :
    listen collaborators launcher =
      (conclude (collaborators.serve launcher.handler config.host config.port).result
        launcher.listening).after
          (.stage .listening :: announcing config ++
            asking (.serve launcher.handler config.host config.port)
              (collaborators.serve launcher.handler config.host config.port)) := by
  have heldStill : launcher.listening.config = some config := held
  unfold Launcher.listening at heldStill
  simp [listen, requireConfig_apply heldStill, announce, announcing, recording,
    Launcher.listening]

end Held

section Unheld

variable {launcher : Launcher κ η} (unheld : launcher.config = none)
  (collaborators : Collaborators κ η)

include unheld

theorem validate_of_unheld : validate launcher = ⟨launcher, [], .error .missing⟩ := by
  simp [validate, requireConfig_of_unheld unheld]

theorem loadCredentials_of_unheld :
    loadCredentials collaborators launcher = ⟨launcher, [], .error .missing⟩ := by
  simp [loadCredentials, requireConfig_of_unheld unheld]

/-- The handler is asked for before the configuration is missed. -/
theorem constructHandler_of_unheld (cacheSize : Int) :
    constructHandler collaborators cacheSize launcher =
      ⟨launcher,
        recording .debug "Creating proxy" ::
          asking (.makeHandler launcher.key cacheSize)
            (collaborators.makeHandler launcher.key cacheSize),
        (collaborators.makeHandler launcher.key cacheSize).result >>= fun _ => .error .missing⟩ := by
  cases made : (collaborators.makeHandler launcher.key cacheSize).result with
  | error failure => simp [constructHandler, made, recording]
  | ok built => simp [constructHandler, made, requireConfig_of_unheld unheld, recording]

/-- The launcher moves on before the configuration is missed. -/
theorem listen_of_unheld :
    listen collaborators launcher =
      ⟨launcher.listening, [.stage .listening], .error .missing⟩ := by
  have unheldStill : launcher.listening.config = none := unheld
  unfold Launcher.listening at unheldStill
  simp [listen, requireConfig_of_unheld unheldStill, Launcher.listening]

end Unheld

/-! ## Ends -/

@[simp]
theorem stop_apply (status : Nat) (launcher : Launcher κ η) :
    stop status launcher = ⟨launcher.stopped status, [.stage .stopped], .ok status⟩ := by
  simp [stop, Launcher.stopped]

theorem giveUp_apply (step : Step) (message : String) (launcher : Launcher κ η) :
    giveUp step message launcher =
      ⟨launcher.stopped 1,
        (step.logged? message).toList.map (recording .error) ++
          [.report (step.report message), .stage .stopped], .ok 1⟩ := by
  cases logged : step.logged? message <;> simp [giveUp, logged, recording]

/-- What a run does about a failure of a step: it gives up if the failure is expected, and lets it
escape otherwise. -/
def dealWith (step : Step) (failure : Failure) : Activity κ η Nat :=
  match step.expected? failure with
  | some message => giveUp step message
  | none => fail failure

theorem dealWith_of_expected {step : Step} {failure : Failure} {message : String}
    (expected : step.expected? failure = some message) :
    (dealWith step failure : Activity κ η Nat) = giveUp step message := by
  rw [dealWith, expected]

theorem dealWith_of_unexpected {step : Step} {failure : Failure}
    (unexpected : step.expected? failure = none) :
    (dealWith step failure : Activity κ η Nat) = fail failure := by
  rw [dealWith, unexpected]

section Conclude

variable (launcher : Launcher κ η)

theorem conclude_returned :
    conclude (.ok ()) launcher =
      ⟨launcher.stopped 0, [recording .info "Server stopped", .stage .stopped], .ok 0⟩ := by
  simp [conclude, recording]

theorem conclude_interrupted :
    conclude (.error .interrupted) launcher =
      ⟨launcher.stopped 130,
        [recording .info "Server stopped: interrupted", .stage .stopped], .ok 130⟩ := by
  simp [conclude, recording]

theorem conclude_refused (message : String) :
    conclude (.error (.system message)) launcher =
      ⟨launcher.stopped 1,
        [recording .error ("Server stopped: " ++ message), .report ("Error: " ++ message),
          .stage .stopped], .ok 1⟩ := by
  simp [conclude, recording]

/-- A failure that does not count as an end of the service. -/
structure Foreign (failure : Failure) : Prop where
  not_interrupted : failure ≠ .interrupted
  not_refused : ∀ message, failure ≠ .system message

theorem conclude_foreign {failure : Failure} (foreign : Foreign failure) :
    conclude (.error failure) launcher = ⟨launcher, [], .error failure⟩ := by
  cases failure with
  | interrupted => exact absurd rfl foreign.not_interrupted
  | system message => exact absurd rfl (foreign.not_refused message)
  | _ => rfl

/-- The ways in which a service can end. -/
theorem ending_cases (ending : Except Failure Unit) :
    ending = .ok () ∨ ending = .error .interrupted ∨
      (∃ message, ending = .error (.system message)) ∨
      ∃ failure, ending = .error failure ∧ Foreign failure := by
  cases ending with
  | ok value => exact .inl rfl
  | error failure =>
      by_cases interrupted : failure = .interrupted
      · exact .inr (.inl (by rw [interrupted]))
      · by_cases refused : ∃ message, failure = .system message
        · rcases refused with ⟨message, rfl⟩
          exact .inr (.inr (.inl ⟨message, rfl⟩))
        · have foreign : Foreign failure := by
            refine ⟨interrupted, ?_⟩
            intro message equal
            exact refused ⟨message, equal⟩
          exact .inr (.inr (.inr ⟨failure, rfl, foreign⟩))

end Conclude

section Proceed

variable {α : Type} {step : Step} {activity : Activity κ η α} {launcher reached : Launcher κ η}
  {journal : Journal κ η}

theorem proceed_of_ok {value : α} (ended : activity launcher = ⟨reached, journal, .ok value⟩)
    (next : Activity κ η Nat) :
    proceed step activity next launcher = (next reached).after journal := by
  simp [proceed, ended]

theorem proceed_of_error {failure : Failure}
    (ended : activity launcher = ⟨reached, journal, .error failure⟩) (next : Activity κ η Nat) :
    proceed step activity next launcher = (dealWith step failure reached).after journal := by
  cases expected : step.expected? failure with
  | none => simp [proceed, ended, dealWith, expected]
  | some message => simp [proceed, ended, dealWith, expected]

end Proceed

end Startup

end ProxyLauncher
