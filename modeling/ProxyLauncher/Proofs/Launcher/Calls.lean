import ProxyLauncher.Proofs.Launcher.Steps

/-!
# Calls in any order

The steps of the startup can be called one by one, in any order and any number
of times, and between whole runs.  A call that fails keeps what it has done so
far, and the next call goes on from there.  Those who work for the launcher may
behave differently at every call.

There are only a few things that can happen to a launcher.  `Stable` lists them
for a condition on what was entered and what the launcher holds: a condition
that each of them keeps is kept by every sequence of calls.
-/

namespace ProxyLauncher.Startup

open Activity

variable {κ η α β : Type}

/-! ## Sequences of calls -/

/-- A call: what is asked of the launcher, and those who work for it meanwhile. -/
structure Call (κ η : Type) where
  command : Command
  collaborators : Collaborators κ η

/-- Makes calls one after the other, whether or not they fail. -/
def callAll (launch : Launch) : List (Call κ η) → Activity κ η Unit
  | [] => return ()
  | call :: rest => do
    discard (attempt (perform call.collaborators launch call.command))
    callAll launch rest

/-- Whatever a call does, the next one goes on from what the launcher holds then. -/
theorem callAll_cons (launch : Launch) (call : Call κ η) (rest : List (Call κ η))
    (launcher : Launcher κ η) :
    callAll launch (call :: rest) launcher =
      (callAll launch rest
        (perform call.collaborators launch call.command launcher).launcher).after
          (perform call.collaborators launch call.command launcher).journal := by
  change (discard (attempt (perform call.collaborators launch call.command)) >>=
    fun _ => callAll launch rest) launcher = _
  rw [bind_apply, discard_apply, attempt_apply]
  simp

theorem callAll_append (launch : Launch) (earlier later : List (Call κ η))
    (launcher : Launcher κ η) :
    callAll launch (earlier ++ later) launcher =
      (callAll launch later (callAll launch earlier launcher).launcher).after
        (callAll launch earlier launcher).journal := by
  induction earlier generalizing launcher with
  | nil => simp [callAll]
  | cons call rest ih => simp [callAll_cons, ih]

/-! ## Activities that keep a condition -/

/-- An activity keeps a condition on what was entered so far and what the launcher holds. -/
def Keeps (holds : Journal κ η → Launcher κ η → Prop) (activity : Activity κ η α) : Prop :=
  ∀ past launcher, holds past launcher →
    holds (past ++ (activity launcher).journal) (activity launcher).launcher

section Keeps

variable {holds : Journal κ η → Launcher κ η → Prop}

theorem Keeps.pure (value : α) : Keeps holds (pure value : Activity κ η α) := by
  intro past launcher held
  simpa using held

theorem Keeps.bind {activity : Activity κ η α} {next : α → Activity κ η β}
    (first : Keeps holds activity) (second : ∀ value, Keeps holds (next value)) :
    Keeps holds (activity >>= next) := by
  intro past launcher held
  have heldThen := first past launcher held
  rw [bind_apply, Outcome.followedBy]
  cases (activity launcher).result with
  | error failure => exact heldThen
  | ok value =>
      rw [Outcome.after_journal, Outcome.after_launcher, ← List.append_assoc]
      exact second value _ _ heldThen

theorem Keeps.attempt {activity : Activity κ η α} (keeps : Keeps holds activity) :
    Keeps holds (attempt activity) :=
  keeps

theorem Keeps.discard {activity : Activity κ η α} (keeps : Keeps holds activity) :
    Keeps holds (discard activity) :=
  keeps.bind fun _ => .pure _

end Keeps

/-! ## What can happen to a launcher -/

/-- A condition that is kept by everything that can happen to a launcher. -/
structure Stable (collaborators : Collaborators κ η) (launch : Launch)
    (holds : Journal κ η → Launcher κ η → Prop) : Prop where
  /-- Entries are made. -/
  entered : ∀ {past launcher} (entries : Journal κ η), holds past launcher →
    holds (past ++ entries) launcher
  /-- The configuration is resolved. -/
  configured : ∀ {past launcher config},
    Config.default.resolve launch.arguments launch.environment = .ok config →
      holds past launcher → holds past (launcher.configured config)
  /-- The key of the configuration is loaded. -/
  keyed : ∀ {past launcher config key}, launcher.config = some config →
    (collaborators.loadKey config.keyFile).result = .ok key →
      holds past launcher → holds past (launcher.keyed key)
  /-- A handler is built from the key that is held, and gets the configured timeout. -/
  equipped : ∀ {past launcher config handler}, launcher.config = some config →
    collaborators.construct launcher.key launch.cacheSize config.timeout = .ok handler →
      holds past launcher → holds past (launcher.equipped handler)
  /-- The launcher is about to listen. -/
  listening : ∀ {past launcher}, holds past launcher → holds past launcher.listening
  /-- An error stops the launcher. -/
  failed : ∀ {past launcher}, holds past launcher → holds past (launcher.stopped 1)
  /-- The end of the service stops the launcher. -/
  served : ∀ {past launcher handler host port status},
    .demand (.serve handler host port) ∈ past → status = 0 ∨ status = 130 →
      holds past launcher → holds past (launcher.stopped status)

section Stable

variable {collaborators : Collaborators κ η} {launch : Launch}
  {holds : Journal κ η → Launcher κ η → Prop} (stable : Stable collaborators launch holds)

include stable

theorem keeps_resolveConfig : Keeps holds (resolveConfig launch) := by
  intro past launcher held
  cases resolved : Config.default.resolve launch.arguments launch.environment with
  | error fault =>
      rw [resolveConfig_of_unresolved launcher resolved]
      exact stable.entered _ held
  | ok config =>
      rw [resolveConfig_of_resolved launcher resolved]
      exact stable.configured resolved (stable.entered _ held)

theorem keeps_validate : Keeps holds validate := by
  intro past launcher held
  cases configEq : launcher.config with
  | none =>
      rw [validate_of_unheld configEq]
      exact stable.entered _ held
  | some config =>
      rw [validate_apply configEq]
      exact stable.entered _ held

theorem keeps_loadCredentials : Keeps holds (loadCredentials collaborators) := by
  intro past launcher held
  cases configEq : launcher.config with
  | none =>
      rw [loadCredentials_of_unheld configEq]
      exact stable.entered _ held
  | some config =>
      cases loaded : (collaborators.loadKey config.keyFile).result with
      | error failure =>
          rw [loadCredentials_of_failed configEq collaborators loaded]
          exact stable.entered _ held
      | ok key =>
          rw [loadCredentials_of_loaded configEq collaborators loaded]
          exact stable.keyed configEq loaded (stable.entered _ held)

theorem keeps_constructHandler :
    Keeps holds (constructHandler collaborators launch.cacheSize) := by
  intro past launcher held
  cases configEq : launcher.config with
  | none =>
      rw [constructHandler_of_unheld configEq]
      exact stable.entered _ held
  | some config =>
      cases constructed :
          collaborators.construct launcher.key launch.cacheSize config.timeout with
      | error failure =>
          rw [constructHandler_of_failed configEq collaborators constructed]
          exact stable.entered _ held
      | ok handler =>
          rw [constructHandler_of_constructed configEq collaborators constructed]
          exact stable.equipped configEq constructed (stable.entered _ held)

/-- However the service ended, it has been asked for before. -/
theorem holds_conclude {past : Journal κ η} {launcher : Launcher κ η} {handler : Option η}
    {host : Operand String} {port : Operand Int} (held : holds past launcher)
    (asked : .demand (.serve handler host port) ∈ past) (ending : Except Failure Unit) :
    holds (past ++ (conclude ending launcher).journal) (conclude ending launcher).launcher := by
  rcases ending_cases ending with rfl | rfl | ⟨message, rfl⟩ | ⟨failure, rfl, foreign⟩
  · rw [conclude_returned]
    exact stable.served (List.mem_append_left _ asked) (.inl rfl) (stable.entered _ held)
  · rw [conclude_interrupted]
    exact stable.served (List.mem_append_left _ asked) (.inr rfl) (stable.entered _ held)
  · rw [conclude_refused]
    exact stable.failed (stable.entered _ held)
  · rw [conclude_foreign launcher foreign]
    exact stable.entered _ held

theorem keeps_listen : Keeps holds (listen collaborators) := by
  intro past launcher held
  cases configEq : launcher.config with
  | none =>
      rw [listen_of_unheld configEq]
      exact stable.listening (stable.entered _ held)
  | some config =>
      rw [listen_apply configEq, Outcome.after_journal, Outcome.after_launcher,
        ← List.append_assoc]
      have asked : .demand (.serve launcher.handler config.host config.port) ∈
          past ++ (.stage .listening :: announcing config ++
            asking (.serve launcher.handler config.host config.port)
              (collaborators.serve launcher.handler config.host config.port)) := by
        simp [asking]
      exact holds_conclude stable (stable.listening (stable.entered _ held)) asked _

theorem keeps_giveUp (step : Step) (message : String) : Keeps holds (giveUp step message) := by
  intro past launcher held
  rw [giveUp_apply]
  exact stable.failed (stable.entered _ held)

theorem keeps_proceed {step : Step} {activity : Activity κ η α} {next : Activity κ η Nat}
    (first : Keeps holds activity) (second : Keeps holds next) :
    Keeps holds (proceed step activity next) := by
  apply first.attempt.bind
  intro result
  cases result with
  | ok value => exact second
  | error failure =>
      change Keeps holds (dealWith step failure)
      cases expected : step.expected? failure with
      | some message =>
          rw [dealWith_of_expected expected]
          exact keeps_giveUp stable step message
      | none =>
          rw [dealWith_of_unexpected expected]
          intro past launcher held
          exact stable.entered _ held

theorem keeps_run : Keeps holds (run collaborators launch) := by
  apply keeps_proceed stable (keeps_resolveConfig stable)
  apply keeps_proceed stable (keeps_validate stable)
  apply keeps_proceed stable (keeps_loadCredentials stable)
  apply keeps_proceed stable (keeps_constructHandler stable)
  exact keeps_listen stable

/-- Every call keeps a stable condition. -/
theorem keeps_perform (command : Command) :
    Keeps holds (perform collaborators launch command) := by
  cases command with
  | resolveConfig => exact (keeps_resolveConfig stable).discard.bind fun _ => .pure _
  | loadCredentials => exact (keeps_loadCredentials stable).bind fun _ => .pure _
  | constructHandler => exact (keeps_constructHandler stable).bind fun _ => .pure _
  | listen => exact (keeps_listen stable).bind fun _ => .pure _
  | run => exact (keeps_run stable).bind fun _ => .pure _
  | validate => exact (keeps_validate stable).bind fun _ => .pure _

end Stable

/-- Every sequence of calls keeps a condition that is stable throughout. -/
theorem keeps_callAll {launch : Launch} {holds : Journal κ η → Launcher κ η → Prop}
    {calls : List (Call κ η)}
    (stable : ∀ call ∈ calls, Stable call.collaborators launch holds) :
    Keeps holds (callAll launch calls) := by
  induction calls with
  | nil => exact .pure _
  | cons call rest ih =>
      have first := keeps_perform (stable call List.mem_cons_self) call.command
      have others := ih fun later member => stable later (List.mem_cons_of_mem call member)
      exact first.attempt.discard.bind fun _ => others

end ProxyLauncher.Startup
