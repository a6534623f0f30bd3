import ProxyLauncher.Proofs.Key.Loading
import ProxyLauncher.Proofs.Launcher.ExitStatus

/-!
# When the shipped launcher serves

The shipped launcher reads its key from a file and makes the handlers of this
library.  Whether it comes to serve is then a matter of its configuration and of
the file alone: `Servable` lists what has to hold of them.  The service gets a
handler that holds the key of the file and the configured timeout.

No handler is ever refused on the way, since the loader lets only such keys
through that a handler takes.
-/

namespace ProxyLauncher.Standard

open Startup

variable (files : Key.Files)

/-- A configuration that can be served with, and the scalar that its key file holds. -/
structure Servable (launch : Launch) (config : Config) (scalar : Nat) : Prop where
  /-- The configuration is resolved. -/
  resolved : Config.default.resolve launch.arguments launch.environment = .ok config
  /-- The port is in the range of ports. -/
  port : ∃ port, config.port = .given port ∧ 0 ≤ port ∧ port ≤ 65535
  /-- The timeout is not below zero. -/
  timeout : ∃ timeout, config.timeout = .given timeout ∧ timeout.less (.zeroOf false) = false
  /-- The key file holds the scalar. -/
  key : Key.Holds files config.keyFile scalar

/-- The handler that serves with a scalar. -/
def handlerOf (scalar : Nat) (config : Config) : Handler where
  key := .elliptic .secp256r1 scalar
  cacheSize := 10000
  timeout := config.timeout

variable {files} {serve : Option Handler → Operand String → Operand Int → Reply Unit}
  {arguments : List String} {environment : Environment} {config : Config} {scalar : Nat}

/-! ## Handlers of loaded keys -/

theorem construct_of_elliptic (scalar : Nat) (config : Config) :
    (collaborators files serve).construct (some (.elliptic .secp256r1 scalar))
      Default.cacheSize config.timeout = .ok (handlerOf scalar config) := by
  have positive : 0 < Default.cacheSize := by decide
  exact bind_eq_ok_iff.mpr ⟨_, makeHandler_of_elliptic scalar positive, rfl⟩

/-- With the shipped number of sessions, a handler is built of every key that was loaded. -/
theorem construct_of_loaded {configured : Option (Operand String)} {key : Option Key.Material}
    (loaded : ((collaborators files serve).loadKey configured).result = .ok key)
    (config : Config) :
    ∃ handler, (collaborators files serve).construct key Default.cacheSize config.timeout =
      .ok handler := by
  rcases loadKey_eq_ok_iff.mp loaded with ⟨scalar, holds, rfl⟩
  exact ⟨_, construct_of_elliptic scalar config⟩

/-- A run has all it needs exactly when it can be served with what was configured. -/
theorem ready_iff {key : Option Key.Material} {handler : Handler} :
    Ready (collaborators files serve) { arguments, environment } config key handler ↔
      ∃ scalar, Servable files { arguments, environment } config scalar ∧
        key = some (.elliptic .secp256r1 scalar) ∧ handler = handlerOf scalar config := by
  constructor
  · intro ready
    rcases Config.validate_eq_ok_iff.mp ready.valid with ⟨port, timeout⟩
    rcases loadKey_eq_ok_iff.mp ready.loaded with ⟨scalar, holds, rfl⟩
    refine ⟨scalar, ⟨ready.resolved, port, timeout, holds⟩, rfl, ?_⟩
    have constructed := ready.constructed
    rw [construct_of_elliptic scalar config] at constructed
    exact (Except.ok.inj constructed).symm
  · rintro ⟨scalar, servable, rfl, rfl⟩
    exact {
      resolved := servable.resolved
      valid := Config.validate_eq_ok_iff.mpr ⟨servable.port, servable.timeout⟩
      loaded := loadKey_eq_ok_iff.mpr ⟨scalar, servable.key, rfl⟩
      constructed := construct_of_elliptic scalar config }

/-! ## Runs -/

theorem Servable.unique {launch : Launch} {other : Config} {otherScalar : Nat}
    (servable : Servable files launch config scalar)
    (otherServable : Servable files launch other otherScalar) :
    config = other ∧ scalar = otherScalar := by
  have resolved := otherServable.resolved
  rw [servable.resolved] at resolved
  cases resolved
  exact ⟨rfl, servable.key.unique otherServable.key⟩

theorem mem_serve_iff_servable {start : Launcher Key.Material Handler} {handler : Option Handler}
    {host : Operand String} {port : Operand Int} :
    .demand (.serve handler host port) ∈
        (run (collaborators files serve) { arguments, environment } start).journal ↔
      ∃ config scalar, Servable files { arguments, environment } config scalar ∧
        handler = some (handlerOf scalar config) ∧ host = config.host ∧ port = config.port := by
  rw [mem_serve_iff]
  constructor
  · rintro ⟨config, key, built, ready, rfl, rfl, rfl⟩
    rcases ready_iff.mp ready with ⟨scalar, servable, rfl, rfl⟩
    exact ⟨config, scalar, servable, rfl, rfl, rfl⟩
  · rintro ⟨config, scalar, servable, rfl, rfl, rfl⟩
    exact ⟨config, _, _, ready_iff.mpr ⟨scalar, servable, rfl, rfl⟩, rfl, rfl, rfl⟩

/-- Building a handler is no step that can fail. -/
theorem not_raised_constructing {start : Launcher Key.Material Handler} {failure : Failure} :
    ¬ Raised (collaborators files serve) { arguments, environment }
      (run (collaborators files serve) { arguments, environment } start).journal
      .constructing failure := by
  intro raised
  rcases unconstructed_of_raised raised with ⟨config, key, resolved, valid, loaded, failed⟩
  rcases construct_of_loaded loaded config with ⟨handler, constructed⟩
  rw [constructed] at failed
  contradiction

variable (files serve)

/-- The law of a journal of the shipped launcher: when it comes to serve, and with what. -/
structure ServiceLaw (launch : Launch) (journal : Journal Key.Material Handler) : Prop where
  /-- The service is asked for exactly when there is a configuration to serve with. -/
  starts : (∃ handler host port, .demand (.serve handler host port) ∈ journal) ↔
    ∃ config scalar, Servable files launch config scalar
  /-- The service gets the handler with the key and the timeout, on the configured host and port. -/
  handed : ∀ config scalar, Servable files launch config scalar →
    ∀ handler host port, .demand (.serve handler host port) ∈ journal →
      handler = some (handlerOf scalar config) ∧ host = config.host ∧ port = config.port
  /-- A handler is built of every key that can be loaded. -/
  accepted : ∀ configured key, (loadKey files configured).result = .ok key →
    ∃ handler, (makeHandler key launch.cacheSize).result = .ok handler
  /-- Building the handler never fails. -/
  built : ∀ failure, ¬ Raised (collaborators files serve) launch journal .constructing failure

/-- The shipped launcher serves exactly when it can, with the configured key and timeout, and no
handler is ever refused on the way.  This holds however keys are read and however serving goes. -/
theorem run_serves (arguments : List String) (environment : Environment)
    (start : Launcher Key.Material Handler) :
    ServiceLaw files serve { arguments, environment }
      (run (collaborators files serve) { arguments, environment } start).journal := by
  constructor
  case starts =>
    constructor
    · rintro ⟨handler, host, port, asked⟩
      rcases mem_serve_iff_servable.mp asked with ⟨config, scalar, servable, _⟩
      exact ⟨config, scalar, servable⟩
    · rintro ⟨config, scalar, servable⟩
      exact ⟨_, _, _, mem_serve_iff_servable.mpr ⟨config, scalar, servable, rfl, rfl, rfl⟩⟩
  case handed =>
    intro config scalar servable handler host port asked
    rcases mem_serve_iff_servable.mp asked with ⟨other, otherScalar, otherServable, handed⟩
    rcases servable.unique otherServable with ⟨rfl, rfl⟩
    exact handed
  case accepted =>
    intro configured key loaded
    have positive : 0 < Default.cacheSize := by decide
    exact makeHandler_of_loaded loaded positive
  case built =>
    intro failure
    exact not_raised_constructing

end ProxyLauncher.Standard
