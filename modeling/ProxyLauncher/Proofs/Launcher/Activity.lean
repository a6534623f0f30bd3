import ProxyLauncher.Launcher.Startup

/-!
# Running activities

An activity is a function of what the launcher holds, so a chain of activities
can be run step by step.  These are the equations for that: one for each way to
make an activity, and two for going on, after a result and after a failure.

Together they turn a run from a given launcher into an explicit outcome.
-/

namespace ProxyLauncher

variable {κ η α β : Type}

namespace Outcome

/-- The outcome when entries were made before. -/
def after (journal : Journal κ η) (outcome : Outcome κ η α) : Outcome κ η α :=
  { outcome with journal := journal ++ outcome.journal }

/-- The outcome of going on from where an activity ended. -/
def followedBy (outcome : Outcome κ η α) (next : α → Activity κ η β) : Outcome κ η β :=
  match outcome.result with
  | .error failure => ⟨outcome.launcher, outcome.journal, .error failure⟩
  | .ok value => (next value outcome.launcher).after outcome.journal

variable (launcher : Launcher κ η) (journal : Journal κ η)

@[simp]
theorem after_mk (earlier : Journal κ η) (result : Except Failure α) :
    after earlier ⟨launcher, journal, result⟩ = ⟨launcher, earlier ++ journal, result⟩ :=
  rfl

@[simp]
theorem followedBy_ok (value : α) (next : α → Activity κ η β) :
    followedBy ⟨launcher, journal, .ok value⟩ next = (next value launcher).after journal :=
  rfl

@[simp]
theorem followedBy_error (failure : Failure) (next : α → Activity κ η β) :
    followedBy ⟨launcher, journal, .error failure⟩ next = ⟨launcher, journal, .error failure⟩ :=
  rfl

@[simp]
theorem after_launcher (outcome : Outcome κ η α) :
    (outcome.after journal).launcher = outcome.launcher :=
  rfl

@[simp]
theorem after_journal (outcome : Outcome κ η α) :
    (outcome.after journal).journal = journal ++ outcome.journal :=
  rfl

@[simp]
theorem after_result (outcome : Outcome κ η α) :
    (outcome.after journal).result = outcome.result :=
  rfl

@[simp]
theorem after_nil (outcome : Outcome κ η α) : outcome.after [] = outcome :=
  rfl

@[simp]
theorem after_after (later : Journal κ η) (outcome : Outcome κ η α) :
    (outcome.after later).after journal = outcome.after (journal ++ later) := by
  simp [after]

end Outcome

namespace Activity

variable (launcher : Launcher κ η)

@[simp]
theorem pure_apply (value : α) :
    (pure value : Activity κ η α) launcher = ⟨launcher, [], .ok value⟩ :=
  rfl

@[simp]
theorem bind_apply (activity : Activity κ η α) (next : α → Activity κ η β) :
    (activity >>= next) launcher = (activity launcher).followedBy next := by
  change andThen activity next launcher = _
  unfold Outcome.followedBy
  cases ended : (activity launcher).result with
  | error failure => rw [andThen_of_error ended]
  | ok value =>
      rw [andThen_of_ok ended]
      rfl

@[simp]
theorem ofExcept_apply (result : Except Failure α) :
    (ofExcept result : Activity κ η α) launcher = ⟨launcher, [], result⟩ :=
  rfl

@[simp]
theorem fail_apply (failure : Failure) :
    (fail failure : Activity κ η α) launcher = ⟨launcher, [], .error failure⟩ :=
  rfl

@[simp]
theorem attempt_apply (activity : Activity κ η α) :
    attempt activity launcher =
      ⟨(activity launcher).launcher, (activity launcher).journal,
        .ok (activity launcher).result⟩ :=
  rfl

theorem discard_apply (activity : Activity κ η α) :
    discard activity launcher = (activity launcher).followedBy fun _ => pure () :=
  bind_apply launcher activity fun _ => pure ()

@[simp]
theorem held_apply : held launcher = ⟨launcher, [], .ok launcher⟩ :=
  rfl

@[simp]
theorem change_apply (update : Launcher κ η → Launcher κ η) :
    change update launcher = ⟨update launcher, [], .ok ()⟩ :=
  rfl

@[simp]
theorem enter_apply (entry : Entry κ η) : enter entry launcher = ⟨launcher, [entry], .ok ()⟩ :=
  rfl

@[simp]
theorem moveTo_apply (stage : Stage) :
    moveTo stage launcher = ⟨{ launcher with stage := stage }, [.stage stage], .ok ()⟩ :=
  rfl

@[simp]
theorem log_apply (level : Log.Level) (text : String) :
    log level text launcher =
      ⟨launcher, [.record (Log.startupRecord level text)], .ok ()⟩ :=
  rfl

/-- The entries of a demand and of the effects of its reply. -/
def asking (demand : Demand κ η) (reply : Reply α) : Journal κ η :=
  .demand demand :: reply.effects.map .effect

@[simp]
theorem ask_apply (demand : Demand κ η) (reply : Reply α) :
    ask demand reply launcher = ⟨launcher, asking demand reply, reply.result⟩ :=
  rfl

theorem requireConfig_apply {launcher : Launcher κ η} {config : Config}
    (held : launcher.config = some config) :
    requireConfig launcher = ⟨launcher, [], .ok config⟩ := by
  simp [requireConfig, held]

theorem requireConfig_of_unheld {launcher : Launcher κ η} (unheld : launcher.config = none) :
    requireConfig launcher = ⟨launcher, [], .error .missing⟩ := by
  simp [requireConfig, unheld]

end Activity

end ProxyLauncher
