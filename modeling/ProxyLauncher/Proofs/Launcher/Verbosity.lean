import ProxyLauncher.Proofs.Launcher.TwoRuns
import ProxyLauncher.Proofs.Log

/-!
# What verbosity changes

Two launches with configurations that differ in nothing but verbosity and the
tags of their settings come to the same end by the same course.  Their journals
part while the configuration is resolved, where the log is configured and the
configuration shown in it, and go on with the same entries.

On the standard error the quiet run leaves the text of the verbose one without
the details: what is less urgent than information, and of the records about
requests what is less urgent than a warning.
-/

namespace ProxyLauncher

variable {κ η : Type}

/-! ## Records that a quiet log leaves out -/

namespace Log

namespace Record

/-- A record for finding faults. -/
def isDebug (record : Record) : Bool :=
  record.level == .debug

/-- A record that is left out of a quiet log. Where others set the level of its logger, verbosity
does not matter. -/
def isDetail (record : Record) : Bool :=
  record.ownThreshold.isNone &&
    !record.level.reaches (if record.isOfRequests then .warning else .info)

theorem isDetail_startupRecord (level : Level) (text : String) :
    (startupRecord level text).isDetail = !level.reaches .info := by
  rw [isDetail, isOfRequests_startupRecord]
  rfl

end Record

/-- Whatever reaches a threshold reaches a lower one too. -/
theorem Level.reaches_and_reaches (level : Level) {low high : Level}
    (ordered : low.value ≤ high.value) :
    (level.reaches low && level.reaches high) = level.reaches high := by
  by_cases reached : high.value ≤ level.value
  · simp [reaches, reached, Nat.le_trans ordered reached]
  · simp [reaches, reached]

namespace Setup

/-- A quiet log shows what a verbose one shows, without the details. -/
theorem shows_quiet (record : Record) :
    (configured false).shows record = ((configured true).shows record && !record.isDetail) := by
  rw [shows_configured, shows_configured, threshold, threshold, Record.isDetail]
  cases record.ownThreshold with
  | some own => simp
  | none =>
      -- Each of the two thresholds is higher in a quiet log than in a verbose one.
      have ofRequests : Level.info.value ≤ Level.warning.value := by decide
      have general : Level.debug.value ≤ Level.info.value := by decide
      cases record.isOfRequests with
      | true => simpa [requestThreshold] using (record.level.reaches_and_reaches ofRequests).symm
      | false => simpa [generalThreshold] using (record.level.reaches_and_reaches general).symm

theorem render_quiet (time : String) (record : Record) :
    (configured false).render time record =
      if record.isDetail then "" else (configured true).render time record := by
  unfold render
  rw [shows_quiet]
  cases record.isDetail <;> simp

end Setup

end Log

/-! ## Journals without records -/

/-- The entry logs a record of a kind. -/
def Entry.logs (kind : Log.Record → Bool) (entry : Entry κ η) : Bool :=
  entry.record?.any kind

/-- The entry is about the log: a record, or how the log is configured. -/
def Entry.isLog : Entry κ η → Bool
  | .record _ => true
  | .effect (.record _) => true
  | .configureLog _ => true
  | _ => false

namespace Journal

/-- The journal without the records of a kind. -/
def without (kind : Log.Record → Bool) (journal : Journal κ η) : Journal κ η :=
  journal.filter fun entry => !entry.logs kind

/-- The journal without all that is about the log. -/
def unlogged (journal : Journal κ η) : Journal κ η :=
  journal.filter fun entry => !entry.isLog

theorem without_append (kind : Log.Record → Bool) (first second : Journal κ η) :
    without kind (first ++ second) = without kind first ++ without kind second :=
  List.filter_append ..

theorem unlogged_append (first second : Journal κ η) :
    unlogged (first ++ second) = unlogged first ++ unlogged second :=
  List.filter_append ..

/-- Kinds that agree on all records of a journal leave the same out. -/
theorem without_congr {kind other : Log.Record → Bool} {journal : Journal κ η}
    (agree : ∀ record ∈ journal.records, kind record = other record) :
    journal.without kind = journal.without other := by
  apply List.filter_congr
  intro entry member
  cases logged : entry.record? with
  | none => rw [Entry.logs, Entry.logs, logged]; rfl
  | some record =>
      have recorded : record ∈ journal.records := List.mem_filterMap.mpr ⟨entry, member, logged⟩
      rw [Entry.logs, Entry.logs, logged, Option.any_some, Option.any_some, agree record recorded]

/-- What is not read off records and setups is the same without them. -/
theorem filterMap_unlogged {β : Type} {read : Entry κ η → Option β}
    (blind : ∀ entry, entry.isLog = true → read entry = none) (journal : Journal κ η) :
    journal.unlogged.filterMap read = journal.filterMap read := by
  rw [unlogged, List.filterMap_filter]
  congr 1
  funext entry
  cases logged : entry.isLog with
  | true => simp [blind entry logged]
  | false => rfl

variable (journal : Journal κ η)

theorem demands_unlogged : demands journal.unlogged = journal.demands := by
  apply filterMap_unlogged
  intro entry logged
  cases entry with
  | demand demand => cases logged
  | _ => rfl

theorem stages_unlogged : stages journal.unlogged = journal.stages := by
  apply filterMap_unlogged
  intro entry logged
  cases entry with
  | stage stage => cases logged
  | _ => rfl

theorem outputText_unlogged : outputText journal.unlogged = journal.outputText := by
  induction journal with
  | nil => rfl
  | cons entry rest ih =>
      have joined : outputText (entry :: rest) = outputText [entry] ++ outputText rest := by
        simp [outputText]
      rw [joined, ← ih]
      cases entry with
      | effect effect => cases effect <;> simp [unlogged, Entry.isLog, outputText]
      | _ => simp [unlogged, Entry.isLog, outputText]

theorem errorTextOf_quiet (time : String) (entry : Entry κ η) :
    errorTextOf time (.configured false) entry =
      if entry.logs Log.Record.isDetail then "" else errorTextOf time (.configured true) entry := by
  cases entry with
  | record record => exact Log.Setup.render_quiet time record
  | effect effect =>
      cases effect with
      | record record => exact Log.Setup.render_quiet time record
      | call call => rfl
  | _ => rfl

/-- While the log is not configured anew, a quiet log has the text of a verbose one without the
details. -/
theorem errorText_quiet (time : String) {journal : Journal κ η} (keeps : journal.KeepsLog) :
    errorText time (.configured false) journal =
      errorText time (.configured true) (journal.without Log.Record.isDetail) := by
  induction journal with
  | nil => rfl
  | cons entry rest ih =>
      have first := keeps entry List.mem_cons_self
      have restQuiet := ih fun later member => keeps later (List.mem_cons_of_mem _ member)
      rw [errorText, first, errorTextOf_quiet, restQuiet]
      cases detail : entry.logs Log.Record.isDetail with
      | true => simp [without, detail]
      | false => simp [without, detail, errorText, first]

end Journal

/-! ## Configurations that differ in verbosity -/

/-- Configurations that differ at most in verbosity and in the tags of their settings. -/
structure SameService (first second : Config) : Prop where
  host : first.host = second.host
  port : first.port = second.port
  timeout : first.timeout = second.timeout
  keyFile : first.keyFile = second.keyFile

theorem SameService.exists_eq {first second : Config} (same : SameService first second) :
    ∃ verbose sources, second = { first with verbose := verbose, sources := sources } := by
  rcases first with ⟨_, host, port, timeout, keyFile, _⟩
  rcases second with ⟨verbose, _, _, _, _, sources⟩
  rcases same with ⟨rfl, rfl, rfl, rfl⟩
  exact ⟨verbose, sources, rfl⟩

theorem SameService.validate_eq {first second : Config} (same : SameService first second) :
    first.validate = second.validate := by
  obtain ⟨_, _, rfl⟩ := same.exists_eq
  rfl

namespace Startup

open Activity Journal

/-! ## Journals that part in how the configuration is shown -/

/-- Journals that show one configuration each, and go on with the same entries. -/
def Swapped (verbose quiet : Config) (first second : Journal κ η) : Prop :=
  ∃ tail : Journal κ η, tail.KeepsLog ∧
    first = resolving verbose ++ tail ∧ second = resolving quiet ++ tail

namespace Swapped

variable {verbose quiet : Config} {first second : Journal κ η}

theorem refl : Swapped verbose quiet (resolving verbose : Journal κ η) (resolving quiet) :=
  ⟨[], by simp [KeepsLog], (List.append_nil _).symm, (List.append_nil _).symm⟩

theorem append (swapped : Swapped verbose quiet first second) {later : Journal κ η}
    (keeps : later.KeepsLog) : Swapped verbose quiet (first ++ later) (second ++ later) := by
  obtain ⟨tail, tailKeeps, rfl, rfl⟩ := swapped
  exact ⟨tail ++ later, tailKeeps.append keeps, List.append_assoc .., List.append_assoc ..⟩

theorem unlogged_resolving (config : Config) :
    unlogged (resolving config : Journal κ η) = [.stage .configResolved] := by
  simp [unlogged, resolving, showing, recording, Entry.isLog]

/-- Nothing but the log is different. -/
theorem unlogged_eq (swapped : Swapped verbose quiet first second) :
    second.unlogged = first.unlogged := by
  obtain ⟨tail, _, rfl, rfl⟩ := swapped
  rw [unlogged_append, unlogged_append, unlogged_resolving, unlogged_resolving]

/-- Once the log is configured, the lines of the configuration and the rest are left to write. -/
theorem errorText_resolving (config : Config) (time : String) (setup : Log.Setup)
    (rest : Journal κ η) :
    errorText time setup (resolving config ++ rest) =
      errorText time (.configured config.verbose)
        (config.dump.map (recording .debug) ++ .stage .configResolved :: rest) := by
  simp [resolving, showing, errorText, errorTextOf, setupAfter]

theorem without_shown (lines : List String) :
    without Log.Record.isDetail (lines.map (recording .debug) : Journal κ η) = [] := by
  have detail (line : String) : (Log.startupRecord .debug line).isDetail = true :=
    Log.Record.isDetail_startupRecord .debug line
  simp [without, recording, Entry.logs, Entry.record?, detail]

/-- Without the details, a resolved configuration only sets the log up. -/
theorem without_resolving (config : Config) :
    without Log.Record.isDetail (resolving config : Journal κ η) =
      [.configureLog config.verbose, .stage .configResolved] := by
  rw [resolving, showing, without_append, ← List.singleton_append, without_append, without_shown]
  rfl

/-- The quiet journal leaves the text of the verbose one without the details. -/
theorem errorText_eq (swapped : Swapped verbose quiet first second)
    (loud : verbose.verbose = true) (hushed : quiet.verbose = false) (time : String)
    (setup : Log.Setup) :
    second.errorText time setup =
      errorText time setup (first.without Log.Record.isDetail) := by
  obtain ⟨tail, keeps, rfl, rfl⟩ := swapped
  have shownKeeps : KeepsLog
      (quiet.dump.map (recording .debug) ++ .stage .configResolved :: tail : Journal κ η) := by
    apply KeepsLog.append
    · simp [KeepsLog, recording, setupAfter]
    · simpa [KeepsLog, setupAfter] using keeps
  -- Behind the setup both texts are those of one journal, in which only the stage is left of the
  -- resolved configuration.
  calc
    errorText time setup (resolving quiet ++ tail)
        = errorText time (.configured false)
            (quiet.dump.map (recording .debug) ++ .stage .configResolved :: tail) := by
          rw [errorText_resolving, hushed]
    _ = errorText time (.configured true) (without Log.Record.isDetail
          (quiet.dump.map (recording .debug) ++ .stage .configResolved :: tail)) :=
        errorText_quiet time shownKeeps
    _ = errorText time (.configured true)
          (.stage .configResolved :: without Log.Record.isDetail tail) := by
        rw [without_append, without_shown]
        rfl
    _ = errorText time setup (without Log.Record.isDetail (resolving verbose ++ tail)) := by
        rw [without_append, without_resolving, ← loud]
        simp [errorText, errorTextOf, setupAfter]

end Swapped

/-! ## Courses of swapped runs -/

section Courses

variable {collaborators : Collaborators κ η} {verbose quiet : Config}
  (same : SameService verbose quiet)

include same

theorem swapped_loading :
    Swapped verbose quiet (loading collaborators verbose) (loading collaborators quiet) := by
  obtain ⟨_, _, rfl⟩ := same.exists_eq
  exact Swapped.refl.append (keepsLog_asking _ _)

variable {launch other : Launch} (size : launch.cacheSize = other.cacheSize)

include size

theorem swapped_constructing (key : Option κ) :
    Swapped verbose quiet (constructing collaborators launch verbose key)
      (constructing collaborators other quiet key) := by
  rw [constructing, constructing, size]
  apply Swapped.append _ (keepsLog_asking _ _)
  apply (swapped_loading same).append
  simp [KeepsLog, recording, setupAfter]

theorem swapped_serving (key : Option κ) (handler : η) :
    Swapped verbose quiet (serving collaborators launch verbose key handler)
      (serving collaborators other quiet key handler) := by
  have constructed : Swapped verbose quiet (constructing collaborators launch verbose key)
      (constructing collaborators other quiet key) := swapped_constructing same size key
  obtain ⟨_, _, rfl⟩ := same.exists_eq
  apply Swapped.append _ (keepsLog_asking _ _)
  apply constructed.append
  simp [KeepsLog, announcing, recording, setupAfter]

/-- The quiet run takes the course of the verbose one. -/
theorem exists_swapped_course {start reached : Launcher κ η} {journal : Journal κ η}
    {last : Activity κ η Nat}
    (verboseResolved : Config.default.resolve launch.arguments launch.environment = .ok verbose)
    (quietResolved : Config.default.resolve other.arguments other.environment = .ok quiet)
    (course : Course collaborators launch start reached journal last) :
    ∃ hushedJournal, Swapped verbose quiet journal hushedJournal ∧
      Course collaborators other start { reached with config := some quiet } hushedJournal
        last := by
  cases course with
  | unresolved unresolved =>
      rw [verboseResolved] at unresolved
      contradiction
  | refused resolved refused =>
      cases verboseResolved.symm.trans resolved
      rw [same.validate_eq] at refused
      exact ⟨_, Swapped.refl, .refused quietResolved refused⟩
  | keyless resolved valid failed =>
      cases verboseResolved.symm.trans resolved
      rw [same.validate_eq] at valid
      rw [same.keyFile] at failed
      exact ⟨_, swapped_loading same, .keyless quietResolved valid failed⟩
  | handlerless resolved valid loaded failed =>
      cases verboseResolved.symm.trans resolved
      rw [same.validate_eq] at valid
      rw [same.keyFile] at loaded
      rw [same.timeout, size] at failed
      exact ⟨_, swapped_constructing same size _,
        .handlerless quietResolved valid loaded failed⟩
  | @served config key handler ready =>
      cases verboseResolved.symm.trans ready.resolved
      rcases ready with ⟨_, valid, loaded, constructed⟩
      rw [same.validate_eq] at valid
      rw [same.keyFile] at loaded
      rw [same.timeout, size] at constructed
      -- The last activity depends on the address, which has to be that of the quiet configuration.
      rw [same.host, same.port]
      exact ⟨_, swapped_serving same size _ _,
        .served ⟨quietResolved, valid, loaded, constructed⟩⟩

end Courses

/-! ## Hushed runs -/

/-- The outcome of a quiet run next to that of a verbose one, with a kind of records that the quiet
run leaves out of the standard error. -/
structure Hushed (kind : Log.Record → Bool) (verbose quiet : Outcome κ η Nat) : Prop where
  /-- All that is not about the log was entered in the same order. -/
  entered : quiet.journal.unlogged = verbose.journal.unlogged
  /-- Others were asked for the same. -/
  demands : quiet.journal.demands = verbose.journal.demands
  /-- The launcher went through the same stages. -/
  stages : quiet.journal.stages = verbose.journal.stages
  /-- The same was printed on the standard output. -/
  output : quiet.journal.outputText = verbose.journal.outputText
  /-- The standard error is that of the verbose run without the records of the kind. -/
  errors : ∀ time setup,
    quiet.journal.errorText time setup = (verbose.journal.without kind).errorText time setup
  /-- Both ended with the same exit status, or the same failure escaped. -/
  result : quiet.result = verbose.result
  /-- The launcher holds the same but for its configuration. -/
  held : quiet.launcher = { verbose.launcher with config := quiet.launcher.config }

/-- Outcomes with swapped journals differ in the details of the log alone. -/
theorem hushed_of_swapped {verbose quiet : Config} (loud : verbose.verbose = true)
    (hushed : quiet.verbose = false) {first second : Outcome κ η Nat}
    (swapped : Swapped verbose quiet first.journal second.journal)
    (result : second.result = first.result)
    (held : second.launcher = { first.launcher with config := second.launcher.config }) :
    Hushed Log.Record.isDetail first second where
  entered := swapped.unlogged_eq
  demands := by
    rw [← demands_unlogged second.journal, swapped.unlogged_eq, demands_unlogged]
  stages := by
    rw [← stages_unlogged second.journal, swapped.unlogged_eq, stages_unlogged]
  output := by
    rw [← outputText_unlogged second.journal, swapped.unlogged_eq, outputText_unlogged]
  errors := swapped.errorText_eq loud hushed
  result := result
  held := held

/-- What a kind of records does to the text depends on the records that were logged. -/
theorem Hushed.congr {kind other : Log.Record → Bool} {verbose quiet : Outcome κ η Nat}
    (hushed : Hushed kind verbose quiet)
    (agree : ∀ record ∈ verbose.journal.records, kind record = other record) :
    Hushed other verbose quiet :=
  { hushed with
    errors := fun time setup => by rw [hushed.errors, without_congr agree] }

/-- Those whose service reports one request. -/
def requestLogging : Collaborators Unit Unit where
  loadKey := fun _ => .done (some ())
  makeHandler := fun _ _ => .done ()
  assignTimeout := fun handler _ => .ok handler
  serve := fun _ _ _ =>
    .log { level := .info, logger := Log.requestLogger, text := "GET /health" }

/-- A launch with these arguments in an empty environment. -/
def launchWith (arguments : List String) : Launch where
  arguments := arguments
  environment := fun _ => none

/-- The flag alone makes a configuration verbose. -/
theorem exists_sameService :
    ∃ verbose quiet,
      Config.default.resolve (launchWith ["-verbose"]).arguments
        (launchWith ["-verbose"]).environment = .ok verbose ∧
      Config.default.resolve (launchWith []).arguments (launchWith []).environment = .ok quiet ∧
      SameService verbose quiet ∧ verbose.verbose = true ∧ quiet.verbose = false :=
  ⟨_, _, rfl, rfl, ⟨rfl, rfl, rfl, rfl⟩, rfl, rfl⟩

end Startup

end ProxyLauncher
