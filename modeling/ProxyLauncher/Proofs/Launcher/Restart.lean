import ProxyLauncher.Proofs.Launcher.Calls
import ProxyLauncher.Proofs.Launcher.Verbosity
import ProxyLauncher.Proofs.Log

/-!
# Runs of a used launcher

A launcher that has been used holds what earlier calls have left: a
configuration, a key, a handler, a stage and an exit status, each of an attempt
of its own.  The log of the process remembers how it was configured last.  None
of this is read by a run before the run itself has set it.

So a run of a used launcher does what a run of a new one does.  A course can be
taken from any launcher, with the same journal and the same last activity.  And
a run logs nothing until it has configured the log, which leaves nothing of how
the log was configured before.
-/

namespace ProxyLauncher

variable {κ η : Type}

/-! ## Journals and the log of the process -/

namespace Journal

/-- The root logger after an entry. -/
def rootAfter (root : Log.Root) : Entry κ η → Log.Root
  | .configureLog verbose => root.configure verbose
  | _ => root

/-- The texts that an entry leaves on the standard error at a time. -/
def textsOf (time : String) (root : Log.Root) : Entry κ η → List String
  | .record record => root.written time record
  | .effect (.record record) => root.written time record
  | .complaint text => [text]
  | .report text => [text ++ "\n"]
  | _ => []

/-- The entries, each with the texts that it leaves on the standard error. -/
def texts (time : String) : Log.Root → Journal κ η → List (Entry κ η × List String)
  | _, [] => []
  | root, entry :: rest =>
    (entry, textsOf time root entry) :: texts time (rootAfter root entry) rest

@[simp]
theorem rootAfter_root (setup : Log.Setup) (entry : Entry κ η) :
    rootAfter setup.root entry = (setupAfter setup entry).root := by
  cases entry with
  | configureLog verbose => exact setup.configure_root verbose
  | _ => rfl

theorem foldl_rootAfter (setup : Log.Setup) (journal : Journal κ η) :
    journal.foldl rootAfter setup.root = (journal.foldl setupAfter setup).root := by
  induction journal generalizing setup with
  | nil => rfl
  | cons entry rest ih => rw [List.foldl_cons, List.foldl_cons, rootAfter_root, ih]

theorem join_textsOf (time : String) (setup : Log.Setup) (entry : Entry κ η) :
    String.join (textsOf time setup.root entry) = errorTextOf time setup entry := by
  cases entry with
  | record record => exact setup.join_written time record
  | effect effect =>
      cases effect with
      | record record => exact setup.join_written time record
      | call call => rfl
  | complaint text => simp [textsOf, errorTextOf]
  | report text => simp [textsOf, errorTextOf]
  | _ => rfl

/-- All texts in a row are the text on the standard error. -/
theorem join_texts (time : String) (setup : Log.Setup) (journal : Journal κ η) :
    String.join ((journal.texts time setup.root).flatMap Prod.snd) =
      journal.errorText time setup := by
  induction journal generalizing setup with
  | nil => rfl
  | cons entry rest ih =>
      rw [texts, List.flatMap_cons, String.join_append, join_textsOf, rootAfter_root, ih, errorText]

/-- While the log is not configured anew, one root logger writes everything. -/
theorem texts_of_keepsLog (time : String) (setup : Log.Setup) {journal : Journal κ η}
    (keeps : journal.KeepsLog) :
    journal.texts time setup.root =
      journal.map fun entry => (entry, textsOf time setup.root entry) := by
  induction journal with
  | nil => rfl
  | cons entry rest ih =>
      have first := keeps entry List.mem_cons_self setup
      have others := ih fun later member => keeps later (List.mem_cons_of_mem _ member)
      rw [texts, rootAfter_root, first, others, List.map_cons]

theorem textsOf_of_recorded {time : String} {root : Log.Root} {entry : Entry κ η}
    {record : Log.Record} (recorded : entry.record? = some record) :
    textsOf time root entry = root.written time record := by
  cases entry with
  | record logged =>
      cases recorded
      rfl
  | effect effect =>
      cases effect with
      | record logged =>
          cases recorded
          rfl
      | call call => cases recorded
  | _ => cases recorded

theorem textsOf_of_unrecorded {time : String} {root other : Log.Root} {entry : Entry κ η}
    (unrecorded : entry.record? = none) : textsOf time root entry = textsOf time other entry := by
  cases entry with
  | record logged => cases unrecorded
  | effect effect =>
      cases effect with
      | record logged => cases unrecorded
      | call call => rfl
  | _ => rfl

end Journal

namespace Startup

open Activity Journal

variable {collaborators : Collaborators κ η} {launch : Launch}

/-! ## One course from any launcher -/

/-- A course can be taken from any launcher, to the same last activity. -/
theorem Course.elsewhere {start reached : Launcher κ η} {journal : Journal κ η}
    {last : Activity κ η Nat} (course : Course collaborators launch start reached journal last)
    (other : Launcher κ η) :
    ∃ twin, Course collaborators launch other twin journal last := by
  cases course with
  | unresolved unresolved => exact ⟨_, .unresolved unresolved⟩
  | refused resolved refused => exact ⟨_, .refused resolved refused⟩
  | keyless resolved valid failed => exact ⟨_, .keyless resolved valid failed⟩
  | handlerless resolved valid loaded failed =>
      exact ⟨_, .handlerless resolved valid loaded failed⟩
  | served ready => exact ⟨_, .served ready⟩

theorem run_alike (start other : Launcher κ η) :
    (run collaborators launch other).journal = (run collaborators launch start).journal ∧
      (run collaborators launch other).result = (run collaborators launch start).result := by
  obtain ⟨reached, journal, last, course⟩ := exists_course collaborators launch start
  obtain ⟨twin, twinCourse⟩ := course.elsewhere other
  have ends := endAlike_of_courses course twinCourse
  generalize run collaborators launch start = outcome at ends ⊢
  generalize run collaborators launch other = twinOutcome at ends ⊢
  cases ends with
  | stopped status keeps => exact ⟨rfl, rfl⟩
  | left failure => exact ⟨rfl, rfl⟩

/-! ## The log during a run -/

/-- What a run enters before anything is logged, and what follows: nothing is logged at all unless
the configuration is resolved, and then the log is configured first and once. -/
inductive Logging (launch : Launch) : Journal κ η → Prop
  | silent {fault : Config.ResolveFault} {journal : Journal κ η}
      (unresolved : Config.default.resolve launch.arguments launch.environment = .error fault)
      (keeps : journal.KeepsLog) (unrecorded : ∀ entry ∈ journal, entry.record? = none) :
      Logging launch journal
  | configured {config : Config} {later : Journal κ η}
      (resolved : Config.default.resolve launch.arguments launch.environment = .ok config)
      (keeps : later.KeepsLog) : Logging launch (.configureLog config.verbose :: later)

theorem keepsLog_shown (config : Config) {rest : Journal κ η} (keeps : rest.KeepsLog) :
    KeepsLog (config.dump.map (recording .debug) ++ .stage .configResolved :: rest) := by
  apply KeepsLog.append
  · simp [KeepsLog, recording, setupAfter]
  · simpa [KeepsLog, setupAfter] using keeps

/-- The journal of a course that is past the resolved configuration. -/
theorem Course.exists_tail {config : Config}
    (resolved : Config.default.resolve launch.arguments launch.environment = .ok config)
    {start reached : Launcher κ η} {journal : Journal κ η} {last : Activity κ η Nat}
    (course : Course collaborators launch start reached journal last) :
    ∃ tail : Journal κ η, tail.KeepsLog ∧ journal = resolving config ++ tail := by
  have same : SameService config config := ⟨rfl, rfl, rfl, rfl⟩
  obtain ⟨_, ⟨tail, keeps, journalEq, _⟩, _⟩ :=
    exists_swapped_course same rfl resolved resolved course
  exact ⟨tail, keeps, journalEq⟩

theorem logging_resolving {config : Config}
    (resolved : Config.default.resolve launch.arguments launch.environment = .ok config)
    {tail : Journal κ η} (keeps : tail.KeepsLog) : Logging launch (resolving config ++ tail) := by
  have shown : (resolving config ++ tail : Journal κ η) = .configureLog config.verbose ::
      (config.dump.map (recording .debug) ++ .stage .configResolved :: tail) := by
    simp [resolving, showing]
  rw [shown]
  exact .configured resolved (keepsLog_shown config keeps)

/-- A run configures the log before it logs, if it logs at all. -/
theorem logging_run (collaborators : Collaborators κ η) (launch : Launch) (start : Launcher κ η) :
    Logging launch (run collaborators launch start).journal := by
  cases resolved : Config.default.resolve launch.arguments launch.environment with
  | error fault =>
      rw [run_of_course (.unresolved resolved), Outcome.after_journal]
      have printed : (printing fault : Journal κ η).KeepsLog ∧
          ∀ entry ∈ (printing fault : Journal κ η), entry.record? = none := by
        cases fault <;> simp [printing, KeepsLog, setupAfter, Entry.record?]
      have dealt : ((dealWith .resolving fault.toFailure start).journal).KeepsLog ∧
          ∀ entry ∈ (dealWith .resolving fault.toFailure start).journal,
            entry.record? = none := by
        cases expected : Step.resolving.expected? fault.toFailure with
        | none =>
            rw [dealWith_of_unexpected expected]
            simp [KeepsLog]
        | some message =>
            rw [dealWith_of_expected expected, giveUp_apply]
            simp [Step.logged?, KeepsLog, setupAfter, Entry.record?]
      apply Logging.silent resolved (printed.1.append dealt.1)
      intro entry member
      rcases List.mem_append.mp member with early | late
      · exact printed.2 entry early
      · exact dealt.2 entry late
  | ok config =>
      obtain ⟨reached, journal, last, course⟩ := exists_course collaborators launch start
      obtain ⟨tail, keeps, rfl⟩ := course.exists_tail resolved
      have ends := endAlike_of_courses course course
      generalize run collaborators launch start = outcome at ends ⊢
      cases ends with
      | stopped status closes =>
          rw [List.append_assoc]
          exact logging_resolving resolved (keeps.append closes)
      | left failure => exact logging_resolving resolved keeps

section Logging

variable {journal : Journal κ η} (logging : Logging launch journal)

include logging

/-- It makes no difference how the log was configured before. -/
theorem Logging.texts_eq (time : String) (setup other : Log.Setup) :
    journal.texts time setup.root = journal.texts time other.root := by
  cases logging with
  | silent unresolved keeps unrecorded =>
      rw [texts_of_keepsLog time setup keeps, texts_of_keepsLog time other keeps]
      apply List.map_congr_left
      intro entry member
      rw [textsOf_of_unrecorded (unrecorded entry member)]
  | configured resolved keeps =>
      rw [texts, texts, rootAfter_root, rootAfter_root]
      rfl

/-- A record that is shown is written as one line, and any other not at all. -/
theorem Logging.written_once {time : String} {setup : Log.Setup} {entry : Entry κ η}
    {texts : List String} (entered : (entry, texts) ∈ journal.texts time setup.root)
    {record : Log.Record} (recorded : entry.record? = some record) :
    ∃ config, Config.default.resolve launch.arguments launch.environment = .ok config ∧
      texts = if (Log.Setup.configured config.verbose).shows record then [record.line time]
        else [] := by
  cases logging with
  | silent unresolved keeps unrecorded =>
      rw [texts_of_keepsLog time setup keeps] at entered
      obtain ⟨logged, member, equal⟩ := List.mem_map.mp entered
      cases equal
      rw [unrecorded entry member] at recorded
      contradiction
  | @configured config later resolved keeps =>
      refine ⟨config, resolved, ?_⟩
      rw [Journal.texts, rootAfter_root, setupAfter, texts_of_keepsLog time _ keeps] at entered
      rcases List.mem_cons.mp entered with first | rest
      · cases first
        cases recorded
      · obtain ⟨logged, _, equal⟩ := List.mem_map.mp rest
        cases equal
        rw [textsOf_of_recorded recorded, Log.Setup.written_configured]

end Logging

/-! ## Starting again -/

/-- The outcome of a run that was started again, after some history of the process, next to that of
a run of a new launcher. -/
structure Restarted (launch : Launch) (history : Journal κ η) (fresh again : Outcome κ η Nat) :
    Prop where
  /-- The same was done in the same order. -/
  entered : again.journal = fresh.journal
  /-- Others were asked for the same. -/
  demands : again.journal.demands = fresh.journal.demands
  /-- Both ended with the same exit status, or the same failure escaped. -/
  result : again.result = fresh.result
  /-- The same was printed on the standard output. -/
  output : again.journal.outputText = fresh.journal.outputText
  /-- Each entry left the same texts on the standard error, though the process has a history, and
  however the log was configured when the new launcher was run. -/
  errors : ∀ time (setup : Log.Setup),
    again.journal.texts time (history.foldl rootAfter {}) = fresh.journal.texts time setup.root
  /-- The whole text on the standard error is the same. -/
  text : ∀ time setup,
    again.journal.errorText time (history.foldl setupAfter .unconfigured) =
      fresh.journal.errorText time setup
  /-- Each record that the configuration lets through was written as one line, and no other record
  was written. -/
  once : ∀ time entry texts record,
    (entry, texts) ∈ again.journal.texts time (history.foldl rootAfter {}) →
      entry.record? = some record →
        ∃ config, Config.default.resolve launch.arguments launch.environment = .ok config ∧
          texts = if (Log.Setup.configured config.verbose).shows record then [record.line time]
            else []

/-- However a launcher has been used, a run of it does what a run of a new one does. -/
theorem run_restarted (launch : Launch) (calls : List (Call κ η))
    (collaborators : Collaborators κ η) :
    Restarted launch (callAll launch calls {}).journal (run collaborators launch {})
      (run collaborators launch (callAll launch calls {}).launcher) := by
  obtain ⟨entered, result⟩ :=
    @run_alike _ _ collaborators launch (callAll launch calls {}).launcher {}
  have logging := logging_run collaborators launch (callAll launch calls {}).launcher
  -- The process starts with the root logger of an unconfigured log.
  have rootEq := foldl_rootAfter .unconfigured (callAll launch calls {}).journal
  change List.foldl rootAfter {} _ = _ at rootEq
  constructor
  case entered => exact entered.symm
  case demands => rw [entered]
  case result => exact result.symm
  case output => rw [entered]
  case errors =>
    intro time setup
    rw [rootEq, entered]
    exact logging.texts_eq time _ setup
  case text =>
    intro time setup
    rw [← join_texts, ← join_texts, entered, logging.texts_eq time _ setup]
  case once =>
    intro time entry texts record member recorded
    rw [rootEq] at member
    exact logging.written_once member recorded

end Startup

end ProxyLauncher
