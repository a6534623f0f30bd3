import ProxyLauncher.Proofs.CommandLine.SecondPass
import ProxyLauncher.Proofs.Config.FlagLayer
import ProxyLauncher.Proofs.Launcher.Steps

/-!
# What a command line writes

A command line that ends the launcher makes it exit with status 0 or 2, and the
status goes with the stream that is written: the help text goes to the standard
output, a complaint to the standard error, and neither stream has both.  A
command line that is accepted writes nothing.

Which of the three it comes to is said by the two passes over the arguments.
-/

namespace ProxyLauncher

open CommandLine

/-- What is written on behalf of a command line, given the status with which it makes the launcher
exit, if it does. -/
structure FlagStreams (arguments : List String) (status : Option Nat) (output complaint : String) :
    Prop where
  /-- The status is 0 when no argument in front of the separator is ambiguous and a help option comes
  up before any flag objects. -/
  helped : status = some 0 ↔ Clear arguments ∧ ReachesHelp arguments
  /-- The status is 2 when the command line is rejected. -/
  rejected : status = some 2 ↔ ∃ rejection, RejectedFor arguments rejection
  /-- There is no other status. -/
  known : ∀ code, status = some code → code = 0 ∨ code = 2
  /-- With status 0 the help text and nothing else is written. -/
  helpWritten : status = some 0 → output = helpText ∧ complaint = ""
  /-- With status 2 nothing but the usage and one complaint is written, and to the other stream. -/
  complaintWritten : status = some 2 → output = "" ∧
    ∃ rejection, RejectedFor arguments rejection ∧
      complaint = usageText ++ program ++ ": error: " ++ rejection.message ++ "\n"
  /-- Without a status nothing is written. -/
  silent : status = none → output = "" ∧ complaint = ""

/-- A command line that stops the reading writes what goes with the stop. -/
theorem flagStreams_of_stop {arguments : List String} {stop : Stop}
    (stopped : read arguments = .error stop) :
    FlagStreams arguments (some stop.status) stop.output stop.complaint := by
  cases stop with
  | help =>
      constructor <;>
        simp [← read_eq_help_iff, ← read_eq_rejected_iff, stopped, Stop.status, Stop.output,
          Stop.complaint]
  | rejected rejection =>
      constructor
      case complaintWritten =>
        intro _
        exact ⟨rfl, rejection, read_eq_rejected_iff.mp stopped, rfl⟩
      all_goals simp [← read_eq_help_iff, ← read_eq_rejected_iff, stopped, Stop.status]

/-- A command line that is accepted writes nothing. -/
theorem flagStreams_of_accepted {arguments : List String} {assignments : List Assignment}
    (accepted : read arguments = .ok assignments) : FlagStreams arguments none "" "" := by
  constructor <;> simp [← read_eq_help_iff, ← read_eq_rejected_iff, accepted]

/-! ## Flags over defaults -/

namespace Config

/-- The status with which laying flags exits, if it does. -/
def exitStatus? (laid : Except Stop Config) : Option Nat :=
  (reason? laid).map Stop.status

/-- What laying flags writes to the standard output. -/
def flagOutput (laid : Except Stop Config) : String :=
  ((reason? laid).map Stop.output).getD ""

/-- What laying flags writes to the standard error. -/
def flagComplaint (laid : Except Stop Config) : String :=
  ((reason? laid).map Stop.complaint).getD ""

theorem flagStreams_withFlags (defaults : Config) (arguments : List String) :
    FlagStreams arguments (exitStatus? (defaults.withFlags arguments))
      (flagOutput (defaults.withFlags arguments)) (flagComplaint (defaults.withFlags arguments)) := by
  unfold withFlags
  cases reads : CommandLine.read arguments with
  | error stop => exact flagStreams_of_stop reads
  | ok assignments => exact flagStreams_of_accepted reads

end Config

/-! ## The launcher -/

namespace Startup

open Activity

variable {κ η : Type}

/-- The status with which a failure makes the process exit, if it asks for one. -/
def exitCode? {α : Type} : Except Failure α → Option Nat
  | .error (.exit (.status code)) => some code
  | _ => none

theorem readConfig_of_stopped {launch : Launch} {stop : Stop}
    (stopped : CommandLine.read launch.arguments = .error stop) (launcher : Launcher κ η) :
    readConfig launch launcher =
      ⟨launcher, [.output stop.output, .complaint stop.complaint],
        .error (.exit (.status stop.status))⟩ := by
  have unresolved : Config.default.resolve launch.arguments launch.environment =
      .error (.flags stop) := by
    rw [Config.resolve, Config.withFlags_eq_error_iff.mpr stopped]
  simp [readConfig, unresolved, printStop, Config.ResolveFault.toFailure]

/-- Once the flags are accepted, reading the configuration prints nothing and does not ask to exit,
whatever the environment holds. -/
theorem readConfig_of_accepted {launch : Launch} {assignments : List Assignment}
    (accepted : CommandLine.read launch.arguments = .ok assignments) (launcher : Launcher κ η) :
    (readConfig launch launcher).journal = [] ∧
      exitCode? (readConfig launch launcher).result = none := by
  have laid : Config.default.withFlags launch.arguments =
      .ok (Config.default.overlay .flag assignments) := by
    rw [Config.withFlags, accepted, map_ok]
  cases resolved : Config.default.resolve launch.arguments launch.environment with
  | ok config => simp [readConfig, resolved, exitCode?]
  | error fault =>
      cases fault with
      | flags stop =>
          rw [Config.resolve, laid] at resolved
          obtain ⟨_, _, stopEq⟩ := mapError_eq_error_iff.mp resolved
          cases stopEq
      | environment fault =>
          refine ⟨by simp [readConfig, resolved], ?_⟩
          cases fault <;>
            simp [readConfig, resolved, exitCode?, Config.ResolveFault.toFailure,
              Config.EnvironmentFault.toFailure]

theorem flagStreams_readConfig (launch : Launch) (launcher : Launcher κ η) (time : String)
    (setup : Log.Setup) :
    FlagStreams launch.arguments (exitCode? (readConfig launch launcher).result)
      (readConfig launch launcher).journal.outputText
      ((readConfig launch launcher).journal.errorText time setup) := by
  cases reads : CommandLine.read launch.arguments with
  | error stop =>
      rw [readConfig_of_stopped reads]
      have streams := flagStreams_of_stop reads
      simpa [exitCode?, Journal.outputText, Journal.errorText, Journal.errorTextOf,
        String.join] using streams
  | ok assignments =>
      rcases readConfig_of_accepted reads launcher with ⟨journalEq, codeEq⟩
      rw [journalEq, codeEq]
      exact flagStreams_of_accepted reads

/-- Whatever the defaults, flags exit with status 0 for a help option and with status 2 for a
rejection, and each status goes with its own stream.  The launcher passes status and streams on as
they are. -/
theorem flag_streams (defaults : Config) (launch : Launch) (launcher : Launcher κ η)
    (time : String) (setup : Log.Setup) :
    FlagStreams launch.arguments
        (Config.exitStatus? (defaults.withFlags launch.arguments))
        (Config.flagOutput (defaults.withFlags launch.arguments))
        (Config.flagComplaint (defaults.withFlags launch.arguments)) ∧
      FlagStreams launch.arguments (exitCode? (readConfig launch launcher).result)
        (readConfig launch launcher).journal.outputText
        ((readConfig launch launcher).journal.errorText time setup) :=
  ⟨Config.flagStreams_withFlags defaults launch.arguments,
    flagStreams_readConfig launch launcher time setup⟩

end Startup

end ProxyLauncher
