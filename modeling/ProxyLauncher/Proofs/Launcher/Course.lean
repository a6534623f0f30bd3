import ProxyLauncher.Proofs.Launcher.Steps

/-!
# The course of a run

A run takes one of five courses.  It comes to an end at the first step that
fails, or it comes to listen and ends with the service.  `Course` lists them:
what has to hold for a course, what the launcher holds and has entered into its
journal by then, and what it does last.

`run_of_course` says that a run does as its course says, and `exists_course`
that there is always one.  The journal, the exit status and the demands of a run
are read off its course; no other proof opens a run.
-/

namespace ProxyLauncher.Startup

open Activity

variable {κ η : Type} (collaborators : Collaborators κ η) (launch : Launch)

/-- All that a run needs to listen: a configuration, a key, and a handler with the configured
timeout. -/
structure Ready (config : Config) (key : Option κ) (handler : η) : Prop where
  /-- The configuration is resolved. -/
  resolved : Config.default.resolve launch.arguments launch.environment = .ok config
  /-- The configuration can be listened with. -/
  valid : config.validate = .ok ()
  /-- The key is that of the configured file. -/
  loaded : (collaborators.loadKey config.keyFile).result = .ok key
  /-- The handler is built from the key and has the configured timeout. -/
  constructed : collaborators.construct key launch.cacheSize config.timeout = .ok handler

/-! ## Entries up to a demand -/

section Entries

variable (config : Config) (key : Option κ) (handler : η)

/-- The configuration is resolved. -/
def resolving : Journal κ η :=
  showing config ++ [.stage .configResolved]

/-- The configuration is resolved and the key is asked for. -/
def loading : Journal κ η :=
  resolving config ++ asking (.loadKey config.keyFile) (collaborators.loadKey config.keyFile)

/-- The key is loaded and a handler is asked for. -/
def constructing : Journal κ η :=
  loading collaborators config ++
    [.stage .credentialLoaded, recording .debug "Creating proxy"] ++
    asking (.makeHandler key launch.cacheSize) (collaborators.makeHandler key launch.cacheSize)

/-- The handler is ready and the service is asked for. -/
def serving : Journal κ η :=
  constructing collaborators launch config key ++
    (.stage .handlerConstructed :: .stage .listening :: announcing config) ++
    asking (.serve (some handler) config.host config.port)
      (collaborators.serve (some handler) config.host config.port)

end Entries

/-! ## Courses -/

variable (start : Launcher κ η)

/-- The courses of a run: what the launcher holds and what is in its journal when the run comes to
its last activity, and that activity. -/
inductive Course : Launcher κ η → Journal κ η → Activity κ η Nat → Prop
  | unresolved {fault : Config.ResolveFault}
      (unresolved : Config.default.resolve launch.arguments launch.environment = .error fault) :
      Course start (printing fault) (dealWith .resolving fault.toFailure)
  | refused {config : Config} {fault : Config.Fault}
      (resolved : Config.default.resolve launch.arguments launch.environment = .ok config)
      (refused : config.validate = .error fault) :
      Course (start.configured config) (resolving config) (dealWith .validating fault.toFailure)
  | keyless {config : Config} {failure : Failure}
      (resolved : Config.default.resolve launch.arguments launch.environment = .ok config)
      (valid : config.validate = .ok ())
      (failed : (collaborators.loadKey config.keyFile).result = .error failure) :
      Course (start.configured config) (loading collaborators config) (dealWith .loading failure)
  | handlerless {config : Config} {key : Option κ} {failure : Failure}
      (resolved : Config.default.resolve launch.arguments launch.environment = .ok config)
      (valid : config.validate = .ok ())
      (loaded : (collaborators.loadKey config.keyFile).result = .ok key)
      (failed : collaborators.construct key launch.cacheSize config.timeout = .error failure) :
      Course ((start.configured config).keyed key) (constructing collaborators launch config key)
        (dealWith .constructing failure)
  | served {config : Config} {key : Option κ} {handler : η}
      (ready : Ready collaborators launch config key handler) :
      Course (((start.configured config).keyed key).equipped handler).listening
        (serving collaborators launch config key handler)
        (conclude (collaborators.serve (some handler) config.host config.port).result)

/-! ## Runs up to a step -/

section Progress

variable {launch} {config : Config}
  (resolved : Config.default.resolve launch.arguments launch.environment = .ok config)

include resolved

theorem run_of_resolved :
    run collaborators launch start =
      (proceed .validating validate
        (proceed .loading (loadCredentials collaborators)
          (proceed .constructing (constructHandler collaborators launch.cacheSize)
            (listen collaborators))) (start.configured config)).after (resolving config) := by
  rw [run, proceed_of_ok (resolveConfig_of_resolved start resolved)]
  rfl

theorem run_of_valid (valid : config.validate = .ok ()) :
    run collaborators launch start =
      (proceed .loading (loadCredentials collaborators)
        (proceed .constructing (constructHandler collaborators launch.cacheSize)
          (listen collaborators)) (start.configured config)).after (resolving config) := by
  have validates : validate (start.configured config) = ⟨start.configured config, [], .ok ()⟩ := by
    rw [validate_apply rfl, valid]
    rfl
  rw [run_of_resolved collaborators start resolved, proceed_of_ok validates, Outcome.after_nil]

theorem run_of_loaded (valid : config.validate = .ok ()) {key : Option κ}
    (loaded : (collaborators.loadKey config.keyFile).result = .ok key) :
    run collaborators launch start =
      (proceed .constructing (constructHandler collaborators launch.cacheSize)
        (listen collaborators) ((start.configured config).keyed key)).after
          (loading collaborators config ++ [.stage .credentialLoaded]) := by
  rw [run_of_valid collaborators start resolved valid,
    proceed_of_ok (loadCredentials_of_loaded rfl collaborators loaded), Outcome.after_after,
    ← List.append_assoc]
  rfl

end Progress

variable {collaborators launch start}

/-- A run does as its course says. -/
theorem run_of_course {reached : Launcher κ η} {journal : Journal κ η}
    {last : Activity κ η Nat} (course : Course collaborators launch start reached journal last) :
    run collaborators launch start = (last reached).after journal := by
  cases course with
  | unresolved unresolved =>
      rw [run, proceed_of_error (resolveConfig_of_unresolved start unresolved)]
  | @refused config fault resolved refused =>
      have refuses : validate (start.configured config) =
          ⟨start.configured config, [], .error fault.toFailure⟩ := by
        rw [validate_apply rfl, refused]
        rfl
      rw [run_of_resolved collaborators start resolved, proceed_of_error refuses,
        Outcome.after_nil]
  | keyless resolved valid failed =>
      rw [run_of_valid collaborators start resolved valid,
        proceed_of_error (loadCredentials_of_failed rfl collaborators failed),
        Outcome.after_after]
      rfl
  | handlerless resolved valid loaded failed =>
      rw [run_of_loaded collaborators start resolved valid loaded,
        proceed_of_error (constructHandler_of_failed rfl collaborators failed),
        Outcome.after_after]
      simp [constructing]
  | @served config key handler ready =>
      rw [run_of_loaded collaborators start ready.resolved ready.valid ready.loaded,
        proceed_of_ok (constructHandler_of_constructed rfl collaborators ready.constructed),
        listen_apply rfl, Outcome.after_after, Outcome.after_after]
      simp [serving, constructing]

variable (collaborators launch start)

/-- Every run takes one of the courses. -/
theorem exists_course :
    ∃ reached journal last, Course collaborators launch start reached journal last := by
  cases resolved : Config.default.resolve launch.arguments launch.environment with
  | error fault => exact ⟨_, _, _, .unresolved resolved⟩
  | ok config =>
      cases valid : config.validate with
      | error fault => exact ⟨_, _, _, .refused resolved valid⟩
      | ok _ =>
          cases loaded : (collaborators.loadKey config.keyFile).result with
          | error failure => exact ⟨_, _, _, .keyless resolved valid loaded⟩
          | ok key =>
              cases constructed :
                  collaborators.construct key launch.cacheSize config.timeout with
              | error failure => exact ⟨_, _, _, .handlerless resolved valid loaded constructed⟩
              | ok handler => exact ⟨_, _, _, .served ⟨resolved, valid, loaded, constructed⟩⟩

end ProxyLauncher.Startup
