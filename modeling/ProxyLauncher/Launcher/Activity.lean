import ProxyLauncher.Config.Basic
import ProxyLauncher.Launcher.Journal

/-!
# Activities of the launcher

An activity may change what the launcher holds and adds entries to its journal;
then it ends with a result or fails. Changes and entries made before a failure
stay.
-/

namespace ProxyLauncher

/-- What the launcher holds between its steps. -/
structure Launcher (κ η : Type) where
  stage : Stage := .unstarted
  exitStatus : Option Nat := none
  config : Option Config := none
  key : Option κ := none
  handler : Option η := none

/-- What an activity leaves: the launcher afterwards, the new entries, and how the activity ended. -/
structure Outcome (κ η α : Type) where
  launcher : Launcher κ η
  journal : Journal κ η
  result : Except Failure α

/-- An activity of the launcher. -/
def Activity (κ η α : Type) : Type := Launcher κ η → Outcome κ η α

namespace Activity

variable {κ η α β : Type}

/-- Ends with a value at once. -/
def done (value : α) : Activity κ η α :=
  fun launcher => ⟨launcher, [], .ok value⟩

/-- Ends as computed. -/
def ofExcept (result : Except Failure α) : Activity κ η α :=
  fun launcher => ⟨launcher, [], result⟩

/-- Fails. -/
def fail (failure : Failure) : Activity κ η α :=
  ofExcept (.error failure)

/-- Goes on with the value of an activity, unless it failed. -/
def andThen (activity : Activity κ η α) (next : α → Activity κ η β) : Activity κ η β :=
  fun launcher =>
    let first := activity launcher
    match first.result with
    | .error failure => ⟨first.launcher, first.journal, .error failure⟩
    | .ok value =>
      let second := next value first.launcher
      ⟨second.launcher, first.journal ++ second.journal, second.result⟩

instance : Monad (Activity κ η) where
  pure := done
  bind := andThen

theorem andThen_of_ok {activity : Activity κ η α} {launcher : Launcher κ η} {value : α}
    (ended : (activity launcher).result = .ok value) (next : α → Activity κ η β) :
    andThen activity next launcher =
      { next value (activity launcher).launcher with
        journal := (activity launcher).journal ++
          (next value (activity launcher).launcher).journal } := by
  simp [andThen, ended]

theorem andThen_of_error {activity : Activity κ η α} {launcher : Launcher κ η} {failure : Failure}
    (ended : (activity launcher).result = .error failure) (next : α → Activity κ η β) :
    andThen activity next launcher =
      ⟨(activity launcher).launcher, (activity launcher).journal, .error failure⟩ := by
  simp [andThen, ended]

/-- Ends with how an activity ended, without failing. -/
def attempt (activity : Activity κ η α) : Activity κ η (Except Failure α) :=
  fun launcher =>
    let outcome := activity launcher
    ⟨outcome.launcher, outcome.journal, .ok outcome.result⟩

/-- What the launcher holds. -/
def held : Activity κ η (Launcher κ η) :=
  fun launcher => ⟨launcher, [], .ok launcher⟩

/-- Changes what the launcher holds. -/
def change (update : Launcher κ η → Launcher κ η) : Activity κ η Unit :=
  fun launcher => ⟨update launcher, [], .ok ()⟩

/-- Makes an entry. -/
def enter (entry : Entry κ η) : Activity κ η Unit :=
  fun launcher => ⟨launcher, [entry], .ok ()⟩

/-- Goes to a stage. -/
def moveTo (stage : Stage) : Activity κ η Unit :=
  fun launcher => ⟨{ launcher with stage := stage }, [.stage stage], .ok ()⟩

/-- Logs a record of the startup. -/
def log (level : Log.Level) (text : String) : Activity κ η Unit :=
  enter (.record (Log.startupRecord level text))

/-- Asks others for something and takes their reply. -/
def ask (demand : Demand κ η) (reply : Reply α) : Activity κ η α :=
  fun launcher => ⟨launcher, .demand demand :: reply.effects.map .effect, reply.result⟩

/-- The configuration, which must be there. -/
def requireConfig : Activity κ η Config :=
  fun launcher =>
    ⟨launcher, [],
      match launcher.config with
      | some config => .ok config
      | none => .error .missing⟩

end Activity

end ProxyLauncher
