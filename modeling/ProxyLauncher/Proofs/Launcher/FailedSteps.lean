import ProxyLauncher.Proofs.Launcher.Coherence

/-!
# Steps that fail

A step of the startup can be asked for at any time.  `Fails` lists the ways in
which it then fails, given what the launcher holds: a configuration may be
missing, and those who work for the launcher may fail it.

A step that fails leaves the launcher as it was.  Only listening does one thing
before it can fail: the launcher moves to that stage, at which those who are
asked to serve find it.  All else that the launcher holds it keeps.  Hence steps
that fail one after the other take nothing from the launcher either.
-/

namespace ProxyLauncher.Startup

open Activity

variable {κ η α β : Type}

/-! ## When a step fails -/

section Fails

variable (collaborators : Collaborators κ η) (launch : Launch) (start : Launcher κ η)

/-- The ways in which a step fails that is asked for by itself. -/
inductive Fails : Command → Failure → Prop
  /-- No configuration can be resolved. -/
  | unresolved {fault : Config.ResolveFault}
      (unresolved : Config.default.resolve launch.arguments launch.environment = .error fault) :
      Fails .resolveConfig fault.toFailure
  /-- A step that begins with the configuration comes too early. -/
  | early {command : Command}
      (needs : command = .validate ∨ command = .loadCredentials ∨ command = .listen)
      (unheld : start.config = none) : Fails command .missing
  /-- The configuration cannot be listened with. -/
  | invalid {config : Config} {fault : Config.Fault} (held : start.config = some config)
      (refused : config.validate = .error fault) : Fails .validate fault.toFailure
  /-- The key cannot be loaded. -/
  | unloaded {config : Config} {failure : Failure} (held : start.config = some config)
      (failed : (collaborators.loadKey config.keyFile).result = .error failure) :
      Fails .loadCredentials failure
  /-- The handler cannot be built, whether or not there is a configuration. -/
  | unmade {failure : Failure}
      (failed : (collaborators.makeHandler start.key launch.cacheSize).result = .error failure) :
      Fails .constructHandler failure
  /-- The handler is built before there is a timeout for it. -/
  | untimed {built : η} (unheld : start.config = none)
      (made : (collaborators.makeHandler start.key launch.cacheSize).result = .ok built) :
      Fails .constructHandler .missing
  /-- The handler does not take its timeout. -/
  | unassigned {config : Config} {built : η} {failure : Failure}
      (held : start.config = some config)
      (made : (collaborators.makeHandler start.key launch.cacheSize).result = .ok built)
      (refused : collaborators.assignTimeout built config.timeout = .error failure) :
      Fails .constructHandler failure
  /-- The service ends in a way that does not count as an end. -/
  | unserved {config : Config} {failure : Failure} (held : start.config = some config)
      (ended : (collaborators.serve start.handler config.host config.port).result =
        .error failure)
      (foreign : Foreign failure) : Fails .listen failure

variable {collaborators launch start} {config : Config} {failure : Failure}

theorem fails_resolveConfig_iff :
    Fails collaborators launch start .resolveConfig failure ↔
      ∃ fault, Config.default.resolve launch.arguments launch.environment = .error fault ∧
        fault.toFailure = failure := by
  constructor
  · intro fails
    cases fails with
    | unresolved unresolved => exact ⟨_, unresolved, rfl⟩
    | early needs _ => simp at needs
  · rintro ⟨fault, unresolved, rfl⟩
    exact .unresolved unresolved

theorem fails_validate_iff (held : start.config = some config) :
    Fails collaborators launch start .validate failure ↔
      config.validate.mapError Config.Fault.toFailure = .error failure := by
  rw [mapError_eq_error_iff]
  constructor
  · intro fails
    cases fails with
    | early _ unheld =>
        rw [held] at unheld
        cases unheld
    | invalid heldToo refused =>
        rw [held] at heldToo
        cases heldToo
        exact ⟨_, refused, rfl⟩
  · rintro ⟨fault, refused, rfl⟩
    exact .invalid held refused

theorem fails_loadCredentials_iff (held : start.config = some config) :
    Fails collaborators launch start .loadCredentials failure ↔
      (collaborators.loadKey config.keyFile).result = .error failure := by
  constructor
  · intro fails
    cases fails with
    | early _ unheld =>
        rw [held] at unheld
        cases unheld
    | unloaded heldToo failed =>
        rw [held] at heldToo
        cases heldToo
        exact failed
  · exact .unloaded held

theorem fails_constructHandler_iff (held : start.config = some config) :
    Fails collaborators launch start .constructHandler failure ↔
      collaborators.construct start.key launch.cacheSize config.timeout = .error failure := by
  rw [Collaborators.construct, bind_eq_error_iff]
  constructor
  · intro fails
    cases fails with
    | early needs _ => simp at needs
    | unmade failed => exact .inl failed
    | untimed unheld _ =>
        rw [held] at unheld
        cases unheld
    | unassigned heldToo made refused =>
        rw [held] at heldToo
        cases heldToo
        exact .inr ⟨_, made, refused⟩
  · rintro (failed | ⟨built, made, refused⟩)
    · exact .unmade failed
    · exact .unassigned held made refused

/-- Without a configuration the handler is built all the same, and then has no timeout. -/
theorem fails_constructHandler_of_unheld_iff (unheld : start.config = none) :
    Fails collaborators launch start .constructHandler failure ↔
      ((collaborators.makeHandler start.key launch.cacheSize).result >>= fun _ =>
        (.error .missing : Except Failure Unit)) = .error failure := by
  rw [bind_eq_error_iff]
  constructor
  · intro fails
    cases fails with
    | early needs _ => simp at needs
    | unmade failed => exact .inl failed
    | untimed _ made => exact .inr ⟨_, made, rfl⟩
    | unassigned held _ _ =>
        rw [unheld] at held
        cases held
  · rintro (failed | ⟨built, made, missing⟩)
    · exact .unmade failed
    · cases missing
      exact .untimed unheld made

theorem fails_listen_iff (held : start.config = some config) :
    Fails collaborators launch start .listen failure ↔
      (collaborators.serve start.handler config.host config.port).result = .error failure ∧
        Foreign failure := by
  constructor
  · intro fails
    cases fails with
    | early _ unheld =>
        rw [held] at unheld
        cases unheld
    | unserved heldToo ended foreign =>
        rw [held] at heldToo
        cases heldToo
        exact ⟨ended, foreign⟩
  · rintro ⟨ended, foreign⟩
    exact .unserved held ended foreign

/-- The steps that begin with the configuration fail for want of it. -/
theorem fails_of_unheld_iff {command : Command} (unheld : start.config = none)
    (needs : command = .validate ∨ command = .loadCredentials ∨ command = .listen) :
    Fails collaborators launch start command failure ↔ Failure.missing = failure := by
  constructor
  · intro fails
    cases fails with
    | early => rfl
    | unresolved => simp at needs
    | unmade => simp at needs
    | untimed => simp at needs
    | unassigned => simp at needs
    | invalid held =>
        rw [unheld] at held
        cases held
    | unloaded held =>
        rw [unheld] at held
        cases held
    | unserved held =>
        rw [unheld] at held
        cases held
  · rintro rfl
    exact .early needs unheld

end Fails

/-! ## What a failed step leaves -/

/-- An activity fails in the given ways only, and then leaves the given launcher. -/
structure Frames (activity : Activity κ η α) (start left : Launcher κ η)
    (fails : Failure → Prop) : Prop where
  error_iff : ∀ failure, (activity start).result = .error failure ↔ fails failure
  left_eq : ∀ failure, (activity start).result = .error failure →
    (activity start).launcher = left

section Frames

variable {activity : Activity κ η α} {start left reached : Launcher κ η} {journal : Journal κ η}
  {fails : Failure → Prop}

theorem Frames.of_returned {value : α} (ended : activity start = ⟨reached, journal, .ok value⟩)
    (never : ∀ failure, ¬ fails failure) : Frames activity start left fails where
  error_iff failure := by simp [ended, never failure]
  left_eq failure failed := by simp [ended] at failed

theorem Frames.of_still {result : Except Failure α}
    (ended : activity start = ⟨left, journal, result⟩)
    (fails_iff : ∀ failure, fails failure ↔ result = .error failure) :
    Frames activity start left fails where
  error_iff failure := by rw [ended, fails_iff failure]
  left_eq _ _ := by rw [ended]

/-- A result that is only passed on makes no difference. -/
theorem andReturn_apply (activity : Activity κ η α) (f : α → β) (start : Launcher κ η) :
    (activity >>= fun value => pure (f value)) start =
      ⟨(activity start).launcher, (activity start).journal, (activity start).result.map f⟩ := by
  rw [bind_apply, Outcome.followedBy]
  cases (activity start).result <;> simp

theorem Frames.andReturn (frames : Frames activity start left fails) (f : α → β) :
    Frames (activity >>= fun value => pure (f value)) start left fails := by
  constructor
  · intro failure
    rw [andReturn_apply, map_eq_error_iff]
    exact frames.error_iff failure
  · intro failure
    rw [andReturn_apply, map_eq_error_iff]
    exact frames.left_eq failure

end Frames

section Steps

variable (collaborators : Collaborators κ η) (launch : Launch) (start : Launcher κ η)

theorem frames_resolveConfig :
    Frames (resolveConfig launch) start start
      (Fails collaborators launch start .resolveConfig) := by
  cases resolved : Config.default.resolve launch.arguments launch.environment with
  | error fault =>
      apply Frames.of_still (resolveConfig_of_unresolved start resolved)
      intro failure
      simp [fails_resolveConfig_iff, resolved]
  | ok config =>
      apply Frames.of_returned (resolveConfig_of_resolved start resolved)
      intro failure
      simp [fails_resolveConfig_iff, resolved]

theorem frames_validate :
    Frames validate start start (Fails collaborators launch start .validate) := by
  cases held : start.config with
  | none =>
      apply Frames.of_still (validate_of_unheld held)
      intro failure
      simp [fails_of_unheld_iff held]
  | some config =>
      apply Frames.of_still (validate_apply held)
      intro failure
      exact fails_validate_iff held

theorem frames_loadCredentials :
    Frames (loadCredentials collaborators) start start
      (Fails collaborators launch start .loadCredentials) := by
  cases held : start.config with
  | none =>
      apply Frames.of_still (loadCredentials_of_unheld held collaborators)
      intro failure
      simp [fails_of_unheld_iff held]
  | some config =>
      cases loaded : (collaborators.loadKey config.keyFile).result with
      | error fault =>
          apply Frames.of_still (loadCredentials_of_failed held collaborators loaded)
          intro failure
          rw [fails_loadCredentials_iff held, loaded]
          simp
      | ok key =>
          apply Frames.of_returned (loadCredentials_of_loaded held collaborators loaded)
          intro failure
          rw [fails_loadCredentials_iff held, loaded]
          simp

theorem frames_constructHandler :
    Frames (constructHandler collaborators launch.cacheSize) start start
      (Fails collaborators launch start .constructHandler) := by
  cases held : start.config with
  | none =>
      apply Frames.of_still (constructHandler_of_unheld held collaborators launch.cacheSize)
      intro failure
      exact fails_constructHandler_of_unheld_iff held
  | some config =>
      cases constructed :
          collaborators.construct start.key launch.cacheSize config.timeout with
      | error fault =>
          apply Frames.of_still (constructHandler_of_failed held collaborators constructed)
          intro failure
          rw [fails_constructHandler_iff held, constructed]
          simp
      | ok handler =>
          apply Frames.of_returned
            (constructHandler_of_constructed held collaborators constructed)
          intro failure
          rw [fails_constructHandler_iff held, constructed]
          simp

/-- An end of the service stops the launcher, and anything else leaves it where it is. -/
theorem frames_conclude (ending : Except Failure Unit) :
    Frames (conclude ending) start start fun failure =>
      ending = .error failure ∧ Foreign failure := by
  rcases ending_cases ending with rfl | rfl | ⟨message, rfl⟩ | ⟨failure, rfl, foreign⟩
  · apply Frames.of_returned (conclude_returned start)
    rintro failure ⟨⟨⟩, _⟩
  · apply Frames.of_returned (conclude_interrupted start)
    rintro failure ⟨⟨⟩, foreign⟩
    exact foreign.not_interrupted rfl
  · apply Frames.of_returned (conclude_refused start message)
    rintro failure ⟨⟨⟩, foreign⟩
    exact foreign.not_refused message rfl
  · apply Frames.of_still (conclude_foreign start foreign)
    intro other
    constructor
    · rintro ⟨⟨⟩, _⟩
      rfl
    · rintro ⟨⟩
      exact ⟨rfl, foreign⟩

theorem frames_listen :
    Frames (listen collaborators) start start.listening
      (Fails collaborators launch start .listen) := by
  cases held : start.config with
  | none =>
      apply Frames.of_still (listen_of_unheld held collaborators)
      intro failure
      simp [fails_of_unheld_iff held]
  | some config =>
      have concluded := frames_conclude start.listening
        (collaborators.serve start.handler config.host config.port).result
      constructor
      · intro failure
        rw [listen_apply held, Outcome.after_result, fails_listen_iff held]
        exact concluded.error_iff failure
      · rw [listen_apply held]
        exact concluded.left_eq

/-- What a step that is asked for by itself leaves of the launcher when it fails. -/
def leftBy : Command → Launcher κ η
  | .listen => start.listening
  | _ => start

/-- Runs deal with the failures of their steps; every other command is one step. -/
theorem frames_perform {command : Command} (single : command ≠ .run) :
    Frames (perform collaborators launch command) start (leftBy start command)
      (Fails collaborators launch start command) := by
  cases command with
  | resolveConfig =>
      exact ((frames_resolveConfig collaborators launch start).andReturn fun _ => ()).andReturn _
  | loadCredentials => exact (frames_loadCredentials collaborators launch start).andReturn _
  | constructHandler => exact (frames_constructHandler collaborators launch start).andReturn _
  | listen => exact (frames_listen collaborators launch start).andReturn _
  | run => exact absurd rfl single
  | validate => exact (frames_validate collaborators launch start).andReturn _

end Steps

/-! ## Failing and going on -/

/-- All that a launcher holds is as it was, whatever stage it is at. -/
structure Retains (left start : Launcher κ η) : Prop where
  config_eq : left.config = start.config
  key_eq : left.key = start.key
  handler_eq : left.handler = start.handler
  exitStatus_eq : left.exitStatus = start.exitStatus

theorem Retains.trans {left between start : Launcher κ η} (later : Retains left between)
    (earlier : Retains between start) : Retains left start where
  config_eq := later.config_eq.trans earlier.config_eq
  key_eq := later.key_eq.trans earlier.key_eq
  handler_eq := later.handler_eq.trans earlier.handler_eq
  exitStatus_eq := later.exitStatus_eq.trans earlier.exitStatus_eq

theorem retains_leftBy (start : Launcher κ η) (command : Command) :
    Retains (leftBy start command) start := by
  cases command <;> exact ⟨rfl, rfl, rfl, rfl⟩

/-- Steps one after the other that all fail, each on what the steps before it left. -/
inductive Barren (launch : Launch) : Launcher κ η → List (Call κ η) → Prop
  | done (start : Launcher κ η) : Barren launch start []
  | step {start : Launcher κ η} {call : Call κ η} {rest : List (Call κ η)} {failure : Failure}
      (single : call.command ≠ .run)
      (fails : Fails call.collaborators launch start call.command failure)
      (others : Barren launch (leftBy start call.command) rest) :
      Barren launch start (call :: rest)

/-- Steps that all fail take nothing from the launcher, however many they are. -/
theorem callAll_retains {launch : Launch} {start : Launcher κ η} {calls : List (Call κ η)}
    (barren : Barren launch start calls) :
    Retains (callAll launch calls start).launcher start := by
  induction barren with
  | done start => exact ⟨rfl, rfl, rfl, rfl⟩
  | @step start call rest failure single fails others ih =>
      have frames := frames_perform call.collaborators launch start single
      have left_eq := frames.left_eq failure ((frames.error_iff failure).mpr fails)
      rw [callAll_cons, Outcome.after_launcher, left_eq]
      exact ih.trans (retains_leftBy start call.command)

section Law

variable (collaborators : Collaborators κ η) (launch : Launch) (start : Launcher κ η)

/-- When a step of the startup fails, and what it leaves then. -/
structure FrameLaw : Prop where
  /-- It is known of each step when and how it fails. -/
  error_iff : ∀ command failure, command ≠ .run →
    ((perform collaborators launch command start).result = .error failure ↔
      Fails collaborators launch start command failure)
  /-- A step that fails leaves the launcher as it was, unless the step is to listen. -/
  untouched : ∀ command failure, command ≠ .run → command ≠ .listen →
    (perform collaborators launch command start).result = .error failure →
      (perform collaborators launch command start).launcher = start
  /-- Listening moves the launcher to that stage before anything can fail, -/
  entered : (perform collaborators launch .listen start).journal.head? = some (.stage .listening)
  /-- and when it fails, the launcher retains all but the stage. -/
  retained : ∀ failure, (perform collaborators launch .listen start).result = .error failure →
    Retains (perform collaborators launch .listen start).launcher start

theorem head?_journal_listen :
    (perform collaborators launch .listen start).journal.head? = some (.stage .listening) := by
  change ((listen collaborators >>= fun status => pure (some status)) start).journal.head? = _
  rw [andReturn_apply]
  cases held : start.config with
  | none => rw [listen_of_unheld held, List.head?_cons]
  | some config =>
      rw [listen_apply held, Outcome.after_journal, List.cons_append, List.cons_append,
        List.head?_cons]

/-- Whatever was done before, and whatever others do, a step that fails takes nothing from the
launcher. -/
theorem perform_frameLaw : FrameLaw collaborators launch start where
  error_iff command failure single :=
    (frames_perform collaborators launch start single).error_iff failure
  untouched command failure single silent failed := by
    have left_eq := (frames_perform collaborators launch start single).left_eq failure failed
    rw [left_eq]
    cases command with
    | listen => exact absurd rfl silent
    | _ => rfl
  entered := head?_journal_listen collaborators launch start
  retained failure failed := by
    have frames := frames_perform collaborators launch start (show Command.listen ≠ .run by nofun)
    rw [frames.left_eq failure failed]
    exact retains_leftBy start .listen

/-- A step that fails leaves the launcher as it was, whichever step it is. -/
def Untouched : Prop :=
  ∀ command failure, command ≠ .run →
    (perform collaborators launch command start).result = .error failure →
      (perform collaborators launch command start).launcher = start

variable {collaborators launch start}

/-- This is so unless listening fails and the launcher was not listening already. -/
theorem untouched_iff :
    Untouched collaborators launch start ↔
      (∃ failure, Fails collaborators launch start .listen failure) →
        start.stage = .listening := by
  have listens := frames_perform collaborators launch start (show Command.listen ≠ .run by nofun)
  constructor
  · rintro untouched ⟨failure, fails⟩
    have failed := (listens.error_iff failure).mpr fails
    have left_eq := (listens.left_eq failure failed).symm.trans
      (untouched .listen failure nofun failed)
    exact (congrArg Launcher.stage left_eq).symm
  · intro listening command failure single failed
    have frames := frames_perform collaborators launch start single
    rw [frames.left_eq failure failed]
    cases command with
    | listen =>
        have stage_eq := listening ⟨failure, (frames.error_iff failure).mp failed⟩
        rw [leftBy, Launcher.listening, ← stage_eq]
    | _ => rfl

end Law

/-- Those whose service breaks down. -/
def breaking : Collaborators Unit (Operand Number.Binary64) :=
  { interrupting with serve := fun _ _ _ => .failed (.fault "boom") }

/-- Calls that prepare a launcher to listen. -/
def preparatoryCalls : List (Call Unit (Operand Number.Binary64)) :=
  [⟨.resolveConfig, breaking⟩, ⟨.loadCredentials, breaking⟩, ⟨.constructHandler, breaking⟩]

/-- A launcher that is ready to listen does not become so again when its service breaks down. -/
theorem not_untouched_breaking :
    ¬ Untouched breaking plainLaunch (callAll plainLaunch preparatoryCalls {}).launcher := by
  have configured : (callAll plainLaunch preparatoryCalls {}).launcher.config.isSome = true := by
    decide +kernel
  obtain ⟨config, held⟩ := Option.isSome_iff_exists.mp configured
  have fails : Fails breaking plainLaunch (callAll plainLaunch preparatoryCalls {}).launcher
      .listen (.fault "boom") := by
    refine (fails_listen_iff held).mpr ⟨rfl, ?_⟩
    exact ⟨nofun, nofun⟩
  intro untouched
  have stage_eq := untouched_iff.mp untouched ⟨_, fails⟩
  revert stage_eq
  decide +kernel

end ProxyLauncher.Startup
