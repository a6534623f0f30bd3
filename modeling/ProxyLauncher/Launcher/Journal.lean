import ProxyLauncher.Launcher.Stage
import ProxyLauncher.Reply

/-!
# The journal

Everything that the launcher does is entered into its journal in the order in
which it happens: records and printed texts, changes of stage, what it asks of
others, and the effects that their work leaves. What can be seen from outside,
such as the text on each output, is read off the journal.
-/

namespace ProxyLauncher

/-- What the launcher asks of others. -/
inductive Demand (κ η : Type) where
  | loadKey (path : Option (Operand String))
  | makeHandler (key : Option κ) (cacheSize : Int)
  | serve (handler : Option η) (host : Operand String) (port : Operand Int)
  deriving DecidableEq, Repr

/-- An entry of the journal. -/
inductive Entry (κ η : Type) where
  /-- The launcher logs a record. -/
  | record (record : Log.Record)
  /-- The log is configured. -/
  | configureLog (verbose : Bool)
  /-- A text goes to the standard output. -/
  | output (text : String)
  /-- A text goes to the standard error. -/
  | complaint (text : String)
  /-- A failure is reported on the standard error. -/
  | report (text : String)
  /-- The launcher enters a stage. -/
  | stage (stage : Stage)
  /-- The launcher asks others for something. -/
  | demand (demand : Demand κ η)
  /-- The work of others has an effect. -/
  | effect (effect : Effect)
  deriving DecidableEq, Repr

/-- Entries in the order in which they were made. -/
abbrev Journal (κ η : Type) := List (Entry κ η)

namespace Journal

variable {κ η : Type}

/-- The stages that were entered. -/
def stages (journal : Journal κ η) : List Stage :=
  journal.filterMap fun
    | .stage stage => some stage
    | _ => none

/-- The demands that were made. -/
def demands (journal : Journal κ η) : List (Demand κ η) :=
  journal.filterMap fun
    | .demand demand => some demand
    | _ => none

/-- The entries, each with the stage at which it was made, given the stage at the beginning. -/
def staged : Stage → Journal κ η → List (Stage × Entry κ η)
  | _, [] => []
  | _, .stage next :: rest => (next, .stage next) :: staged next rest
  | stage, entry :: rest => (stage, entry) :: staged stage rest

/-! ## Outputs -/

/-- The text on the standard output. -/
def outputText (journal : Journal κ η) : String :=
  String.join (journal.map fun
    | .output text => text
    | _ => "")

/-- The state of the log after an entry. -/
def setupAfter (setup : Log.Setup) : Entry κ η → Log.Setup
  | .configureLog verbose => .configured verbose
  | _ => setup

/-- What an entry leaves on the standard error at a time. -/
def errorTextOf (time : String) (setup : Log.Setup) : Entry κ η → String
  | .record record => setup.render time record
  | .effect (.record record) => setup.render time record
  | .complaint text => text
  | .report text => text ++ "\n"
  | _ => ""

/-- The text on the standard error, given the state of the log at the beginning. -/
def errorText (time : String) : Log.Setup → Journal κ η → String
  | _, [] => ""
  | setup, entry :: rest =>
    errorTextOf time setup entry ++ errorText time (setupAfter setup entry) rest

/-! ## Journals one after the other -/

@[simp]
theorem stages_append (first second : Journal κ η) :
    stages (first ++ second) = stages first ++ stages second := by
  simp [stages]

@[simp]
theorem demands_append (first second : Journal κ η) :
    demands (first ++ second) = demands first ++ demands second := by
  simp [demands]

/-- The later journal starts with the log as the earlier one leaves it. -/
theorem errorText_append (time : String) (setup : Log.Setup) (first second : Journal κ η) :
    errorText time setup (first ++ second) =
      errorText time setup first ++ errorText time (first.foldl setupAfter setup) second := by
  induction first generalizing setup with
  | nil => simp [errorText]
  | cons entry rest inductionHypothesis =>
    simp [errorText, inductionHypothesis, String.append_assoc]

end Journal

end ProxyLauncher
