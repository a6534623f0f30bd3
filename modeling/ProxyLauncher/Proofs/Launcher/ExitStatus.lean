import ProxyLauncher.Proofs.Launcher.Order

/-!
# How a run ends

A run ends with what its last activity makes of a failure or of the end of the
service.  Both can be seen from outside: what a step raised is in the replies to
the demands of the journal, and so is the end of the service.

Each step expects one kind of failure, which stops the launcher with status 1.
The service may return, be interrupted or be refused by the system.  Every other
failure is the result of the run as it is, and leaves the exit status alone.
-/

namespace ProxyLauncher.Startup

variable {κ η : Type}

/-! ## What a step expects -/

/-- The failures that a step is expected to have. -/
inductive Expected : Step → Failure → Prop
  | resolving (message : String) : Expected .resolving (.configuration message)
  | validating (message : String) : Expected .validating (.configuration message)
  | loading (message : String) : Expected .loading (.credential message)
  | constructing (message : String) : Expected .constructing (.handler message)

theorem expected_iff {step : Step} {failure : Failure} :
    Expected step failure ↔ ∃ message, step.expected? failure = some message := by
  constructor
  · rintro (_ | _ | _ | _) <;> exact ⟨_, rfl⟩
  · rintro ⟨message, expected⟩
    cases step <;> cases failure <;> cases expected <;> constructor

/-- The stage at which a step of a run finds the launcher, given the stage at the beginning. -/
def Step.stage (first : Stage) : Step → Stage
  | .resolving => first
  | .validating => .configResolved
  | .loading => .configResolved
  | .constructing => .credentialLoaded

/-! ## What was raised -/

variable (collaborators : Collaborators κ η) (launch : Launch) (journal : Journal κ η)

/-- A step of the run that left the journal has raised a failure. -/
inductive Raised : Step → Failure → Prop
  | resolving {fault : Config.ResolveFault}
      (unresolved : Config.default.resolve launch.arguments launch.environment = .error fault) :
      Raised .resolving fault.toFailure
  | validating {config : Config} {fault : Config.Fault}
      (resolved : Config.default.resolve launch.arguments launch.environment = .ok config)
      (refused : config.validate = .error fault) : Raised .validating fault.toFailure
  | loading {path : Option (Operand String)} {failure : Failure}
      (asked : .demand (.loadKey path) ∈ journal)
      (failed : (collaborators.loadKey path).result = .error failure) : Raised .loading failure
  | making {key : Option κ} {cacheSize : Int} {failure : Failure}
      (asked : .demand (.makeHandler key cacheSize) ∈ journal)
      (failed : (collaborators.makeHandler key cacheSize).result = .error failure) :
      Raised .constructing failure
  | assigning {config : Config} {key : Option κ} {cacheSize : Int} {built : η} {failure : Failure}
      (resolved : Config.default.resolve launch.arguments launch.environment = .ok config)
      (asked : .demand (.makeHandler key cacheSize) ∈ journal)
      (made : (collaborators.makeHandler key cacheSize).result = .ok built)
      (refused : collaborators.assignTimeout built config.timeout = .error failure) :
      Raised .constructing failure

/-- The service was asked for, and ended in some way. -/
def Served (ending : Except Failure Unit) : Prop :=
  ∃ handler host port, .demand (.serve handler host port) ∈ journal ∧
    (collaborators.serve handler host port).result = ending

variable {collaborators launch journal}

/-! ## Courses by what was raised -/

section Course

variable {start : Launcher κ η}

theorem due_of_mem_run {demand : Demand κ η}
    (asked : .demand demand ∈ (run collaborators launch start).journal) :
    ∃ before, Due collaborators launch before demand := by
  rcases List.append_of_mem asked with ⟨before, later, split⟩
  have due := run_allowed collaborators launch start before demand later split
  exact ⟨[] ++ before, due⟩

/-- A failure to construct the handler is one to build it, or to give it its timeout. -/
theorem unconstructed_of_raised {failure : Failure}
    (raised : Raised collaborators launch (run collaborators launch start).journal
      .constructing failure) :
    ∃ config key,
      Config.default.resolve launch.arguments launch.environment = .ok config ∧
        config.validate = .ok () ∧
        (collaborators.loadKey config.keyFile).result = .ok key ∧
        collaborators.construct key launch.cacheSize config.timeout = .error failure := by
  cases raised with
  | @making key _ _ asked failed =>
      rcases due_of_mem_run asked with ⟨before, due⟩
      cases due with
      | @makeHandler config _ resolved valid loaded =>
          refine ⟨config, key, resolved, valid, loaded, ?_⟩
          rw [Collaborators.construct, failed, error_bind]
  | @assigning config key _ built _ resolved asked made refused =>
      rcases due_of_mem_run asked with ⟨before, due⟩
      cases due with
      | makeHandler resolvedToo valid loaded =>
          -- Resolving has one result, so the handler was asked for under the same configuration.
          rw [resolved] at resolvedToo
          cases resolvedToo
          refine ⟨config, key, resolved, valid, loaded, ?_⟩
          rw [Collaborators.construct, made, ok_bind, refused]

/-- What a step raised decides the course of the run, and where it has led by then. -/
theorem course_of_raised {step : Step} {failure : Failure}
    (raised : Raised collaborators launch (run collaborators launch start).journal step failure) :
    ∃ reached journal, reached.stage = step.stage start.stage ∧
      Course collaborators launch start reached journal (dealWith step failure) := by
  cases step with
  | resolving =>
      cases raised with
      | resolving unresolved => exact ⟨_, _, rfl, .unresolved unresolved⟩
  | validating =>
      cases raised with
      | validating resolved refused => exact ⟨_, _, rfl, .refused resolved refused⟩
  | loading =>
      cases raised with
      | loading asked failed =>
          rcases due_of_mem_run asked with ⟨before, due⟩
          cases due with
          | loadKey resolved valid => exact ⟨_, _, rfl, .keyless resolved valid failed⟩
  | constructing =>
      rcases unconstructed_of_raised raised with ⟨config, key, resolved, valid, loaded, failed⟩
      exact ⟨_, _, rfl, .handlerless resolved valid loaded failed⟩

/-- A run makes the demands of its course. -/
theorem mem_run_of_course {reached : Launcher κ η} {journal : Journal κ η}
    {last : Activity κ η Nat} (course : Course collaborators launch start reached journal last)
    {demand : Demand κ η} (demanded : demand ∈ journal.demands) :
    .demand demand ∈ (run collaborators launch start).journal := by
  rw [run_of_course course]
  exact List.mem_append_left _ (Journal.mem_demands_iff.mp demanded)

/-- The service is asked for exactly when all that a run needs is there, and with that. -/
theorem mem_serve_iff {handler : Option η} {host : Operand String} {port : Operand Int} :
    .demand (.serve handler host port) ∈ (run collaborators launch start).journal ↔
      ∃ config key built, Ready collaborators launch config key built ∧
        handler = some built ∧ host = config.host ∧ port = config.port := by
  constructor
  · intro asked
    rcases due_of_mem_run asked with ⟨before, due⟩
    cases due with
    | @serve config key built handler _ resolved valid loaded made assigned =>
        have constructed : collaborators.construct key launch.cacheSize config.timeout =
            .ok handler := bind_eq_ok_iff.mpr ⟨built, made, assigned⟩
        exact ⟨config, key, handler, ⟨resolved, valid, loaded, constructed⟩, rfl, rfl, rfl⟩
  · rintro ⟨config, key, built, ready, rfl, rfl, rfl⟩
    exact mem_run_of_course (.served ready) (by simp [serving])

/-- A run that was served takes the course to the end of the service. -/
theorem course_of_served {ending : Except Failure Unit}
    (served : Served collaborators (run collaborators launch start).journal ending) :
    ∃ reached journal, reached.stage = .listening ∧
      Course collaborators launch start reached journal (conclude ending) := by
  rcases served with ⟨_, _, _, asked, ended⟩
  rcases mem_serve_iff.mp asked with ⟨config, key, built, ready, rfl, rfl, rfl⟩
  rw [← ended]
  exact ⟨_, _, rfl, .served ready⟩

/-- The course of a run shows in what was raised, or in how the service ended. -/
theorem raised_or_served (collaborators : Collaborators κ η) (launch : Launch)
    (start : Launcher κ η) :
    (∃ step failure,
      Raised collaborators launch (run collaborators launch start).journal step failure) ∨
    ∃ ending, Served collaborators (run collaborators launch start).journal ending := by
  rcases exists_course collaborators launch start with ⟨reached, journal, last, course⟩
  cases course with
  | unresolved unresolved => exact .inl ⟨_, _, .resolving unresolved⟩
  | refused resolved refused => exact .inl ⟨_, _, .validating resolved refused⟩
  | @keyless config failure resolved valid failed =>
      have asked : .demand (.loadKey config.keyFile) ∈ (run collaborators launch start).journal :=
        mem_run_of_course (.keyless resolved valid failed) (by simp [loading])
      exact .inl ⟨_, _, .loading asked failed⟩
  | @handlerless config key failure resolved valid loaded failed =>
      have asked : .demand (.makeHandler key launch.cacheSize) ∈
          (run collaborators launch start).journal :=
        mem_run_of_course (.handlerless resolved valid loaded failed) (by simp [constructing])
      unfold Collaborators.construct at failed
      cases made : (collaborators.makeHandler key launch.cacheSize).result with
      | error fault => exact .inl ⟨_, _, .making asked made⟩
      | ok built =>
          rw [made, ok_bind] at failed
          exact .inl ⟨_, _, .assigning resolved asked made failed⟩
  | served ready =>
      exact .inr ⟨_, _, _, _, mem_serve_iff.mpr ⟨_, _, _, ready, rfl, rfl, rfl⟩, rfl⟩

end Course

/-! ## Results -/

/-- What comes of a failure of a step. -/
inductive Dealt : Step → Failure → Except Failure Nat → Prop
  | gaveUp {step : Step} {failure : Failure} (expected : Expected step failure) :
      Dealt step failure (.ok 1)
  | escaped {step : Step} {failure : Failure} (unexpected : ¬ Expected step failure) :
      Dealt step failure (.error failure)

/-- What comes of the end of the service. -/
inductive Concluded : Except Failure Unit → Except Failure Nat → Prop
  | returned : Concluded (.ok ()) (.ok 0)
  | interrupted : Concluded (.error .interrupted) (.ok 130)
  | refused (message : String) : Concluded (.error (.system message)) (.ok 1)
  | escaped {failure : Failure} (foreign : Foreign failure) :
      Concluded (.error failure) (.error failure)

theorem Dealt.unique {step : Step} {failure : Failure} {result other : Except Failure Nat}
    (dealt : Dealt step failure result) (otherDealt : Dealt step failure other) :
    result = other := by
  cases dealt with
  | gaveUp expected =>
      cases otherDealt with
      | gaveUp => rfl
      | escaped unexpected => exact absurd expected unexpected
  | escaped unexpected =>
      cases otherDealt with
      | gaveUp expected => exact absurd expected unexpected
      | escaped => rfl

theorem Concluded.unique {ending : Except Failure Unit} {result other : Except Failure Nat}
    (concluded : Concluded ending result) (otherConcluded : Concluded ending other) :
    result = other := by
  cases concluded with
  | returned =>
      cases otherConcluded
      rfl
  | interrupted =>
      cases otherConcluded with
      | interrupted => rfl
      | escaped foreign => exact absurd rfl foreign.not_interrupted
  | refused message =>
      cases otherConcluded with
      | refused => rfl
      | escaped foreign => exact absurd rfl (foreign.not_refused message)
  | escaped foreign =>
      cases otherConcluded with
      | interrupted => exact absurd rfl foreign.not_interrupted
      | refused message => exact absurd rfl (foreign.not_refused message)
      | escaped => rfl

theorem dealt_dealWith (step : Step) (failure : Failure) (launcher : Launcher κ η) :
    Dealt step failure (dealWith step failure launcher).result := by
  cases expected : step.expected? failure with
  | none =>
      rw [dealWith_of_unexpected expected]
      apply Dealt.escaped
      rw [expected_iff, expected]
      rintro ⟨message, found⟩
      contradiction
  | some message =>
      rw [dealWith_of_expected expected, giveUp_apply]
      exact .gaveUp (expected_iff.mpr ⟨message, expected⟩)

theorem concluded_conclude (ending : Except Failure Unit) (launcher : Launcher κ η) :
    Concluded ending (conclude ending launcher).result := by
  rcases ending_cases ending with rfl | rfl | ⟨message, rfl⟩ | ⟨failure, rfl, foreign⟩
  · rw [conclude_returned]
    exact .returned
  · rw [conclude_interrupted]
    exact .interrupted
  · rw [conclude_refused]
    exact .refused message
  · rw [conclude_foreign launcher foreign]
    exact .escaped foreign

/-- The launcher has stopped with the status that is the result, or it is left as it was. -/
structure Settled (launcher : Launcher κ η) (outcome : Outcome κ η Nat) : Prop where
  stopped : ∀ status, outcome.result = .ok status → outcome.launcher = launcher.stopped status
  left : ∀ failure, outcome.result = .error failure → outcome.launcher = launcher

theorem settled_of_ok {launcher : Launcher κ η} (status : Nat) (journal : Journal κ η) :
    Settled launcher ⟨launcher.stopped status, journal, .ok status⟩ := by
  constructor
  · rintro _ ⟨⟩
    rfl
  · rintro _ ⟨⟩

theorem settled_of_error {launcher : Launcher κ η} (failure : Failure) (journal : Journal κ η) :
    Settled launcher ⟨launcher, journal, .error failure⟩ := by
  constructor
  · rintro _ ⟨⟩
  · rintro _ ⟨⟩
    rfl

theorem settled_dealWith (step : Step) (failure : Failure) (launcher : Launcher κ η) :
    Settled launcher (dealWith step failure launcher) := by
  cases expected : step.expected? failure with
  | none =>
      rw [dealWith_of_unexpected expected]
      exact settled_of_error failure []
  | some message =>
      rw [dealWith_of_expected expected, giveUp_apply]
      exact settled_of_ok 1 _

theorem settled_conclude (ending : Except Failure Unit) (launcher : Launcher κ η) :
    Settled launcher (conclude ending launcher) := by
  rcases ending_cases ending with rfl | rfl | ⟨message, rfl⟩ | ⟨failure, rfl, foreign⟩
  · rw [conclude_returned]
    exact settled_of_ok 0 _
  · rw [conclude_interrupted]
    exact settled_of_ok 130 _
  · rw [conclude_refused]
    exact settled_of_ok 1 _
  · rw [conclude_foreign launcher foreign]
    exact settled_of_error failure []

/-! ## Runs -/

section Run

variable {start : Launcher κ η}

theorem dealt_of_raised {step : Step} {failure : Failure}
    (raised : Raised collaborators launch (run collaborators launch start).journal step failure) :
    Dealt step failure (run collaborators launch start).result := by
  rcases course_of_raised raised with ⟨reached, journal, _, course⟩
  rw [run_of_course course]
  exact dealt_dealWith step failure reached

theorem concluded_of_served {ending : Except Failure Unit}
    (served : Served collaborators (run collaborators launch start).journal ending) :
    Concluded ending (run collaborators launch start).result := by
  rcases course_of_served served with ⟨reached, journal, _, course⟩
  rw [run_of_course course]
  exact concluded_conclude ending reached

/-- Only the last activity of a run settles the exit status. -/
theorem settled_of_course {reached : Launcher κ η} {journal : Journal κ η}
    {last : Activity κ η Nat} (course : Course collaborators launch start reached journal last) :
    reached.exitStatus = start.exitStatus ∧ Settled reached (last reached) := by
  cases course with
  | unresolved => exact ⟨rfl, settled_dealWith _ _ _⟩
  | refused => exact ⟨rfl, settled_dealWith _ _ _⟩
  | keyless => exact ⟨rfl, settled_dealWith _ _ _⟩
  | handlerless => exact ⟨rfl, settled_dealWith _ _ _⟩
  | served => exact ⟨rfl, settled_conclude _ _⟩

theorem stopped_of_run {status : Nat}
    (ended : (run collaborators launch start).result = .ok status) :
    (run collaborators launch start).launcher.stage = .stopped ∧
      (run collaborators launch start).launcher.exitStatus = some status := by
  rcases exists_course collaborators launch start with ⟨reached, journal, last, course⟩
  rw [run_of_course course] at ended ⊢
  have left := (settled_of_course course).2.stopped status ended
  rw [Outcome.after_launcher, left]
  exact ⟨rfl, rfl⟩

theorem exitStatus_of_run {failure : Failure}
    (escaped : (run collaborators launch start).result = .error failure) :
    (run collaborators launch start).launcher.exitStatus = start.exitStatus := by
  rcases exists_course collaborators launch start with ⟨reached, journal, last, course⟩
  rw [run_of_course course] at escaped ⊢
  rcases settled_of_course course with ⟨kept, settled⟩
  rw [Outcome.after_launcher, settled.left failure escaped, kept]

/-- A run ends with what comes of what was raised, or of the end of the service. -/
theorem run_result_iff {result : Except Failure Nat} :
    (run collaborators launch start).result = result ↔
      (∃ step failure,
        Raised collaborators launch (run collaborators launch start).journal step failure ∧
          Dealt step failure result) ∨
      ∃ ending, Served collaborators (run collaborators launch start).journal ending ∧
        Concluded ending result := by
  constructor
  · rintro rfl
    rcases raised_or_served collaborators launch start with
      ⟨step, failure, raised⟩ | ⟨ending, served⟩
    · exact .inl ⟨step, failure, raised, dealt_of_raised raised⟩
    · exact .inr ⟨ending, served, concluded_of_served served⟩
  · rintro (⟨step, failure, raised, dealt⟩ | ⟨ending, served, concluded⟩)
    · exact (dealt_of_raised raised).unique dealt
    · exact (concluded_of_served served).unique concluded

end Run

/-- The exit law of an outcome, given what the launcher held before. -/
structure ExitLaw (collaborators : Collaborators κ η) (launch : Launch) (start : Launcher κ η)
    (outcome : Outcome κ η Nat) : Prop where
  /-- The status is 0 when the service returned. -/
  returned : outcome.result = .ok 0 ↔ Served collaborators outcome.journal (.ok ())
  /-- The status is 130 when the service was interrupted. -/
  interrupted : outcome.result = .ok 130 ↔
    Served collaborators outcome.journal (.error .interrupted)
  /-- The status is 1 when a step had the failure that is expected of it, or the system refused the
  service. -/
  failed : outcome.result = .ok 1 ↔
    (∃ step failure, Expected step failure ∧
      Raised collaborators launch outcome.journal step failure) ∨
    ∃ message, Served collaborators outcome.journal (.error (.system message))
  /-- There is no other status, and with a status the launcher has stopped. -/
  stopped : ∀ status, outcome.result = .ok status →
    (status = 0 ∨ status = 1 ∨ status = 130) ∧
      outcome.launcher.stage = .stopped ∧ outcome.launcher.exitStatus = some status
  /-- Every other failure escapes as it was raised. -/
  escaped : ∀ failure, outcome.result = .error failure ↔
    (∃ step, ¬ Expected step failure ∧
      Raised collaborators launch outcome.journal step failure) ∨
    (Foreign failure ∧ Served collaborators outcome.journal (.error failure))
  /-- A failure that escapes leaves the exit status alone. -/
  kept : ∀ failure, outcome.result = .error failure →
    outcome.launcher.exitStatus = start.exitStatus

/-- A run obeys the exit law, whatever the launcher held before. -/
theorem run_exitLaw (collaborators : Collaborators κ η) (launch : Launch) (start : Launcher κ η) :
    ExitLaw collaborators launch start (run collaborators launch start) := by
  constructor
  case returned =>
    rw [run_result_iff]
    constructor
    · rintro (⟨_, _, _, ⟨⟩⟩ | ⟨_, served, ⟨⟩⟩)
      exact served
    · intro served
      exact .inr ⟨_, served, .returned⟩
  case interrupted =>
    rw [run_result_iff]
    constructor
    · rintro (⟨_, _, _, ⟨⟩⟩ | ⟨_, served, ⟨⟩⟩)
      exact served
    · intro served
      exact .inr ⟨_, served, .interrupted⟩
  case failed =>
    rw [run_result_iff]
    constructor
    · rintro (⟨step, failure, raised, dealt⟩ | ⟨ending, served, concluded⟩)
      · cases dealt with
        | gaveUp expected => exact .inl ⟨step, failure, expected, raised⟩
      · cases concluded with
        | refused message => exact .inr ⟨message, served⟩
    · rintro (⟨step, failure, expected, raised⟩ | ⟨message, served⟩)
      · exact .inl ⟨step, failure, raised, .gaveUp expected⟩
      · exact .inr ⟨_, served, .refused message⟩
  case stopped =>
    intro status ended
    refine ⟨?_, stopped_of_run ended⟩
    rw [run_result_iff] at ended
    rcases ended with ⟨_, _, _, ⟨⟩⟩ | ⟨_, _, ⟨⟩⟩
    · exact .inr (.inl rfl)
    · exact .inl rfl
    · exact .inr (.inr rfl)
    · exact .inr (.inl rfl)
  case escaped =>
    intro failure
    rw [run_result_iff]
    constructor
    · rintro (⟨step, raisedToo, raised, dealt⟩ | ⟨ending, served, concluded⟩)
      · cases dealt with
        | escaped unexpected => exact .inl ⟨step, unexpected, raised⟩
      · cases concluded with
        | escaped foreign => exact .inr ⟨foreign, served⟩
    · rintro (⟨step, unexpected, raised⟩ | ⟨foreign, served⟩)
      · exact .inl ⟨step, failure, raised, .escaped unexpected⟩
      · exact .inr ⟨_, served, .escaped foreign⟩
  case kept =>
    intro failure escaped
    exact exitStatus_of_run escaped

/-- Everyone does their work, and the user interrupts the service. -/
example :
    (run (⟨fun _ => .done (some ()), fun _ _ => .done (), fun handler _ => .ok handler,
        fun _ _ _ => .failed .interrupted⟩ : Collaborators Unit Unit)
      { arguments := [], environment := fun _ => none } {}).result.toOption = some 130 := by
  decide +kernel

end ProxyLauncher.Startup
