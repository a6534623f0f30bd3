import ProxyLauncher.Proofs.Config.Usability
import ProxyLauncher.Proofs.Handler.Health
import ProxyLauncher.Proofs.Launcher.Service

/-!
# What is served is usable

A run comes to serve only with a configuration that is valid, and of the
configurations that can be resolved these are the usable ones.  So whoever
serves gets a port that can be listened on and a handler that was given a usable
timeout.

The shipped handler keeps that timeout over all requests and reports it, as a
number that reads back, whenever it is asked for its health.
-/

namespace ProxyLauncher

open Number

namespace Handler

open Http

/-- Requests leave a handler as it is, however many they are. -/
theorem useThrough_requests (handler : Handler) (requests : List Request) :
    handler.useThrough (requests.map .request) = handler := by
  induction requests with
  | nil => rfl
  | cons first rest ih => exact ih

end Handler

namespace Startup

variable {κ η : Type} {collaborators : Collaborators κ η} {launch : Launch}

/-- The timeout of a resolved configuration is in range. -/
theorem timeoutInRange_of_resolved {config : Config}
    (resolved : Config.default.resolve launch.arguments launch.environment = .ok config) :
    config.TimeoutInRange :=
  Config.timeoutInRange_default.resolve resolved

theorem Ready.usable {config : Config} {key : Option κ} {handler : η}
    (ready : Ready collaborators launch config key handler) : config.Usable :=
  (timeoutInRange_of_resolved ready.resolved).validate_eq_ok_iff.mp ready.valid

/-- What a service gets that can be used: a port to listen on, and a handler with a usable
timeout. -/
structure Equipped (collaborators : Collaborators κ η) (handler : Option η)
    (port : Operand Int) : Prop where
  port : ∃ number, port = .given number ∧ 0 ≤ number ∧ number ≤ 65535
  timeout : ∃ built assigned timeout, handler = some assigned ∧
    collaborators.assignTimeout built (.given timeout) = .ok assigned ∧
      Config.UsableTimeout timeout

theorem equipped_of_mem_serve {start : Launcher κ η} {handler : Option η}
    {host : Operand String} {port : Operand Int}
    (asked : .demand (.serve handler host port) ∈ (run collaborators launch start).journal) :
    Equipped collaborators handler port := by
  obtain ⟨config, key, assigned, ready, rfl, rfl, rfl⟩ := mem_serve_iff.mp asked
  obtain ⟨timeout, given, usable⟩ := ready.usable.timeout
  obtain ⟨built, _, assignedEq⟩ := bind_eq_ok_iff.mp ready.constructed
  rw [given] at assignedEq
  exact ⟨ready.usable.port, built, assigned, timeout, rfl, assignedEq, usable⟩

end Startup

namespace Standard

open Startup Handler

variable {κ η : Type} (collaborators : Collaborators κ η)
  (files : Key.Files)
  (serve : Option Handler → Operand String → Operand Int → Reply Unit)
  (arguments : List String) (environment : Environment)

/-- The handler that serves with a usable configuration reports its timeout, whatever was asked of
it before. -/
theorem reports_handlerOf {config : Config} {timeout : Binary64} (scalar : Nat)
    (given : config.timeout = .given timeout) (inRange : Duration.InRange timeout)
    (earlier : List Http.Request) {request : Http.Request} (asks : AsksHealth request) :
    Reports 10000 timeout
      (((handlerOf scalar config).useThrough (earlier.map .request)).answer request) := by
  rw [useThrough_requests, answer_health asks]
  have short : Decimal.digitCount (handlerOf scalar config).cacheSize.natAbs ≤
      Integer.digitLimit := by
    change Decimal.digitCount (10000 : Int).natAbs ≤ Integer.digitLimit
    decide
  exact reports_healthResponse short given inRange.canonical inRange.isFinite

/-- What comes of a command line and an environment is usable, or does not come to be served. -/
structure UsabilityLaw : Prop where
  /-- The longest duration is the number 9223372036.854776. -/
  longest : (Binary64.ofDecimal false 9223372036854776 (-6)).toRat? =
    some Duration.longestSeconds
  /-- Of the configurations that can be resolved, the valid ones are the usable ones. -/
  valid_iff : ∀ config, Config.default.resolve arguments environment = .ok config →
    (config.validate = .ok () ↔ config.Usable)
  /-- So are they of those that are made by any number of revisions. -/
  revised_iff : ∀ revisions, (Config.default.reviseAll revisions).validate = .ok () ↔
    (Config.default.reviseAll revisions).Usable
  /-- Whoever serves gets a port to listen on, and a handler with a usable timeout. -/
  served : ∀ cacheSize (start : Launcher κ η) handler host port,
    .demand (.serve handler host port) ∈
        (run collaborators ⟨arguments, environment, cacheSize⟩ start).journal →
      Equipped collaborators handler port
  /-- The shipped handler reports a usable timeout at any time. -/
  reported : ∀ start handler host port,
    .demand (.serve handler host port) ∈
        (run (Standard.collaborators files serve) { arguments, environment } start).journal →
      ∃ served timeout, handler = some served ∧ Config.UsableTimeout timeout ∧
        ∀ (earlier : List Http.Request) request, AsksHealth request →
          Reports 10000 timeout ((served.useThrough (earlier.map .request)).answer request)

/-- Every command line and every environment obey the law, whoever works for the launcher, however
keys are read and however serving goes. -/
theorem run_usable : UsabilityLaw collaborators files serve arguments environment where
  longest := by rw [← Duration.longest_eq_ofDecimal, Duration.toRat?_longest]
  valid_iff config resolved :=
    (Config.timeoutInRange_default.resolve resolved).validate_eq_ok_iff
  revised_iff revisions :=
    (Config.timeoutInRange_default.reviseAll revisions).validate_eq_ok_iff
  served cacheSize start handler host port asked := equipped_of_mem_serve asked
  reported start handler host port asked := by
    obtain ⟨config, scalar, servable, rfl, _, _⟩ := mem_serve_iff_servable.mp asked
    have inRange := timeoutInRange_of_resolved servable.resolved
    obtain ⟨timeout, given, notNegative⟩ := servable.timeout
    have usable := (inRange timeout given).exists_of_not_negative notNegative
    refine ⟨handlerOf scalar config, timeout, rfl, usable, ?_⟩
    intro earlier request asks
    exact reports_handlerOf scalar given (inRange timeout given) earlier asks

end Standard

end ProxyLauncher
