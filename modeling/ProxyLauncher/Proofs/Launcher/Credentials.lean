import ProxyLauncher.Proofs.Key.LoadFailures
import ProxyLauncher.Proofs.Launcher.Secrecy

/-!
# Runs without a key

A run whose key file holds no key stops with exit status 1, as long as the
loader says so as a matter of the credential.  The two failures of the loader
that are none escape from the run and leave the launcher with its configuration
and nothing else.

The loader is the shipped one; how files are read and decoded, who builds the
handler and who serves is left open.
-/

namespace ProxyLauncher

variable {η : Type}

/-- The same collaborators with keys from files. -/
def Collaborators.loadingFrom (files : Key.Files)
    (collaborators : Collaborators Key.Material η) : Collaborators Key.Material η :=
  { collaborators with loadKey := Standard.loadKey files }

namespace Startup

open Key

variable {files : Files}
  {collaborators : Collaborators Key.Material η} {launch : Launch} {config : Config}

section Keyless

variable (start : Launcher Key.Material η)
  (resolved : Config.default.resolve launch.arguments launch.environment = .ok config)
  (valid : config.validate = .ok ())

include resolved valid

/-- A run that fails to load its key ends with what it does about that. -/
theorem run_of_keyless {failure : Failure}
    (failed : (Standard.loadKey files config.keyFile).result = .error failure) :
    run (collaborators.loadingFrom files) launch start =
      (dealWith .loading failure (start.configured config)).after
        (loading (collaborators.loadingFrom files) config) :=
  run_of_course (.keyless resolved valid failed)

theorem run_of_credentialFailure {message : String}
    (failed : (Standard.loadKey files config.keyFile).result = .error (.credential message)) :
    (run (collaborators.loadingFrom files) launch start).result = .ok 1 ∧
      (run (collaborators.loadingFrom files) launch start).launcher =
        (start.configured config).stopped 1 := by
  rw [run_of_keyless start resolved valid failed, dealWith_of_expected rfl, giveUp_apply]
  exact ⟨rfl, rfl⟩

theorem run_of_otherFailure {failure : Failure}
    (failed : (Standard.loadKey files config.keyFile).result = .error failure)
    (unexpected : Step.loading.expected? failure = none) :
    (run (collaborators.loadingFrom files) launch start).result = .error failure ∧
      (run (collaborators.loadingFrom files) launch start).launcher = start.configured config := by
  rw [run_of_keyless start resolved valid failed, dealWith_of_unexpected unexpected]
  exact ⟨rfl, rfl⟩

end Keyless

/-- What a run leaves whose key file holds no key, given its configuration and what the launcher
held before. -/
structure KeylessLaw (files : Files) (config : Config)
    (start : Launcher Key.Material η) (outcome : Outcome Key.Material η Nat) : Prop where
  /-- If the credential is to blame, the run stops with status 1. -/
  stopped : (∀ scalar, ¬ Holds files config.keyFile scalar) → Exhaustive files config.keyFile →
    outcome.result = .ok 1 ∧ outcome.launcher = (start.configured config).stopped 1
  /-- A zero byte in the path escapes. -/
  zeroByte : HasZeroByte config.keyFile →
    outcome.result = .error (.value "embedded null byte") ∧
      outcome.launcher = start.configured config
  /-- So does an algorithm or a curve that is not supported. -/
  unsupported : Unsupported files config.keyFile →
    outcome.result = .error .unsupportedAlgorithm ∧ outcome.launcher = start.configured config

theorem keylessLaw (rejects : RejectsZeroBytes files.read)
    (collaborators : Collaborators Key.Material η) (start : Launcher Key.Material η)
    (resolved : Config.default.resolve launch.arguments launch.environment = .ok config)
    (valid : config.validate = .ok ()) :
    KeylessLaw files config start (run (collaborators.loadingFrom files) launch start) := by
  constructor
  case stopped =>
    intro keyless exhaustive
    have blamed := (refused_iff rejects).mpr ⟨keyless, (exhaustive_iff rejects).mp exhaustive⟩
    rcases blamed with ⟨message, failed⟩
    exact run_of_credentialFailure start resolved valid failed
  case zeroByte =>
    intro zero
    have failed := (Standard.loadKey_eq_value_iff rejects).mpr ⟨zero, rfl⟩
    exact run_of_otherFailure start resolved valid failed rfl
  case unsupported =>
    intro unknown
    have failed := Standard.loadKey_eq_unsupported_iff.mpr unknown
    exact run_of_otherFailure start resolved valid failed rfl

/-- The law of key files, however they are read and decoded: what comes of loading any configured
file, and what every run with a sound configuration does if its file holds no key. -/
theorem run_credentials (rejects : RejectsZeroBytes files.read)
    (collaborators : Collaborators Key.Material η) :
    (∀ configured, LoadLaw files configured) ∧
      ∀ (launch : Launch) (config : Config) (start : Launcher Key.Material η),
        Config.default.resolve launch.arguments launch.environment = .ok config →
          config.validate = .ok () →
            KeylessLaw files config start (run (collaborators.loadingFrom files) launch start) := by
  refine ⟨loadLaw rejects, ?_⟩
  intro launch config start resolved valid
  exact keylessLaw rejects collaborators start resolved valid

end Startup

namespace Standard

open Startup

/-- The scalar one in an encoding that names an unknown curve. -/
def encodedElsewhere : String :=
  "MC4CAQEEIAAAAAAAAAAAAAAAAAAAAAAAAAAAAAAAAAAAAAAAAAABoAcGBSuBBAB/"

/-- In the tree with such a key, a run that names it is left with its configuration. -/
theorem run_credentials_elsewhere :
    RejectsZeroBytes (treeWith encodedElsewhere).keyFiles.read ∧
      (∀ configured, Key.LoadLaw (treeWith encodedElsewhere).keyFiles configured) ∧
      ∃ config, Config.default.resolve launchOfTree.arguments launchOfTree.environment =
          .ok config ∧ config.validate = .ok () ∧
        KeylessLaw (treeWith encodedElsewhere).keyFiles config {}
          (run ((withKey encodedElsewhere).loadingFrom (treeWith encodedElsewhere).keyFiles)
            launchOfTree {}) := by
  have rejects : RejectsZeroBytes (treeWith encodedElsewhere).keyFiles.read :=
    FileTree.rejectsZeroBytes _
  have laws := run_credentials rejects (withKey encodedElsewhere)
  have valid : (Config.default.overlay .flag [.keyFile (.given "key.pem")]).validate = .ok () :=
    toOption_eq_some_iff.mp (by decide +kernel)
  exact ⟨rejects, laws.1, _, rfl, valid, laws.2 launchOfTree _ {} rfl valid⟩

/-- Loading such a key gives neither a key nor a failure of the credential. -/
theorem not_exhaustive_elsewhere :
    ¬ Key.Exhaustive (treeWith encodedElsewhere).keyFiles (some (.given "key.pem")) := by
  have failed : (loadKey (treeWith encodedElsewhere).keyFiles (some (.given "key.pem"))).result =
      .error .unsupportedAlgorithm := by
    rw [← reason?_eq_some_iff]
    decide +kernel
  rintro (⟨key, loaded⟩ | ⟨message, refused⟩)
  · rw [failed] at loaded
    cases loaded
  · rw [failed] at refused
    cases refused

end Standard

end ProxyLauncher
