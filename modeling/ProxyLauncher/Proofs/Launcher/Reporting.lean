import ProxyLauncher.Proofs.Launcher.ExitStatus
import ProxyLauncher.Proofs.Launcher.TwoRuns

/-!
# What a run reports

A run tells how it ended on two channels: what it prints on the standard error,
and what it logs.  `Reporting` says how the two keep in step with the exit
status and with the service.

What a course has entered before its last activity is either unremarkable, which
means that nothing is printed yet and only details are logged, or it is followed
by the announcement of the service.  The stage that the course has led to tells
which.  Everything else is entered by the last activity.
-/

namespace ProxyLauncher

variable {κ η α : Type}

/-! ## What the launcher writes itself -/

/-- The text begins with a heading. -/
def Log.Record.isHeaded (heading : String) (record : Log.Record) : Bool :=
  heading.toList.isPrefixOf record.text.toList

@[simp]
theorem Log.isHeaded_startupRecord (heading rest : String) (level : Log.Level) :
    (Log.startupRecord level (heading ++ rest)).isHeaded heading = true := by
  simp [Log.Record.isHeaded, Log.startupRecord]

/-- A text that starts with another character does not begin with the heading. -/
theorem Log.Record.isHeaded_eq_false {heading : String} {record : Log.Record} {first other : Char}
    (headingStarts : heading.toList.head? = some first)
    (textStarts : record.text.toList.head? = some other) (differ : first ≠ other) :
    record.isHeaded heading = false := by
  obtain ⟨rest, headingEq⟩ := List.head?_eq_some_iff.mp headingStarts
  obtain ⟨others, textEq⟩ := List.head?_eq_some_iff.mp textStarts
  simp [isHeaded, headingEq, textEq, List.isPrefixOf, differ]

/-- The record of an entry that the launcher has logged itself. -/
def Entry.noted? : Entry κ η → Option Log.Record
  | .record logged => some logged
  | _ => none

/-- The text that an entry puts on the standard error, other than a record. -/
def Entry.printed? : Entry κ η → Option String
  | .report text => some (text ++ "\n")
  | .complaint text => some text
  | _ => none

namespace Journal

/-- The records that the launcher has logged itself. -/
def noted (journal : Journal κ η) : List Log.Record :=
  journal.filterMap Entry.noted?

/-- The texts on the standard error that are not records. -/
def printed (journal : Journal κ η) : List String :=
  journal.filterMap Entry.printed?

/-- The launcher's own records of a level. -/
def notedAt (level : Log.Level) (journal : Journal κ η) : List Log.Record :=
  journal.noted.filter (·.level = level)

/-- The launcher's own records whose text begins with a heading. -/
def notedUnder (heading : String) (journal : Journal κ η) : List Log.Record :=
  journal.noted.filter (·.isHeaded heading)

@[simp]
theorem noted_append (first second : Journal κ η) :
    noted (first ++ second) = noted first ++ noted second :=
  List.filterMap_append

@[simp]
theorem printed_append (first second : Journal κ η) :
    printed (first ++ second) = printed first ++ printed second :=
  List.filterMap_append

theorem notedAt_append (level : Log.Level) (first second : Journal κ η) :
    notedAt level (first ++ second) = notedAt level first ++ notedAt level second := by
  simp [notedAt]

theorem notedUnder_append (heading : String) (first second : Journal κ η) :
    notedUnder heading (first ++ second) =
      notedUnder heading first ++ notedUnder heading second := by
  simp [notedUnder]

/-- Others neither print nor log in the launcher's place. -/
@[simp]
theorem noted_asking (demand : Demand κ η) (reply : Reply α) :
    noted (Activity.asking demand reply) = [] := by
  simp [noted, Activity.asking, Entry.noted?]

@[simp]
theorem printed_asking (demand : Demand κ η) (reply : Reply α) :
    printed (Activity.asking demand reply) = [] := by
  simp [printed, Activity.asking, Entry.printed?]

/-! ## Unremarkable journals -/

/-- Nothing is printed, and the launcher logs details only. -/
structure Unremarkable (journal : Journal κ η) : Prop where
  printed : journal.printed = []
  noted : ∀ record ∈ journal.noted,
    record.level = .debug ∧ record.isHeaded "Listening on " = false

theorem Unremarkable.append {first second : Journal κ η} (unremarkable : first.Unremarkable)
    (others : second.Unremarkable) : Unremarkable (first ++ second) where
  printed := by rw [printed_append, unremarkable.printed, others.printed, List.append_nil]
  noted := by
    intro record member
    rw [noted_append] at member
    rcases List.mem_append.mp member with early | late
    · exact unremarkable.noted record early
    · exact others.noted record late

theorem unremarkable_asking (demand : Demand κ η) (reply : Reply α) :
    Unremarkable (Activity.asking demand reply) :=
  ⟨by simp, by simp⟩

section Unremarkable

variable {journal : Journal κ η} (unremarkable : journal.Unremarkable)

include unremarkable

theorem Unremarkable.notedAt_eq_nil {level : Log.Level} (urgent : level ≠ .debug) :
    journal.notedAt level = [] := by
  apply List.filter_eq_nil_iff.mpr
  intro record member
  rw [(unremarkable.noted record member).1]
  simpa using urgent.symm

theorem Unremarkable.notedUnder_eq_nil : journal.notedUnder "Listening on " = [] := by
  apply List.filter_eq_nil_iff.mpr
  intro record member
  rw [(unremarkable.noted record member).2]
  exact Bool.false_ne_true

end Unremarkable

end Journal

namespace Startup

open Activity Journal

variable {collaborators : Collaborators κ η} {launch : Launch}

/-! ## Journals of a course -/

theorem unremarkable_resolving (config : Config) :
    Unremarkable (resolving config : Journal κ η) where
  printed := by
    apply List.filterMap_eq_nil_iff.mpr
    intro entry member
    simp only [resolving, showing, List.mem_append, List.mem_cons, List.mem_map,
      List.not_mem_nil, or_false] at member
    rcases member with (rfl | ⟨line, _, rfl⟩) | rfl <;> rfl
  noted := by
    intro record member
    simp only [resolving, showing, recording, noted, Entry.noted?, List.cons_append,
      List.filterMap_cons, List.filterMap_append, List.filterMap_map, List.filterMap_nil,
      List.append_nil, List.mem_filterMap, Function.comp_apply, Option.some.injEq] at member
    obtain ⟨line, shown, rfl⟩ := member
    obtain ⟨setting, _, rfl⟩ := List.mem_map.mp shown
    refine ⟨rfl, Log.Record.isHeaded_eq_false rfl ?_ (by decide : 'L' ≠ 'c')⟩
    simp [Config.dumpLine]

theorem unremarkable_loading (config : Config) :
    Unremarkable (loading collaborators config) :=
  (unremarkable_resolving config).append (unremarkable_asking _ _)

theorem unremarkable_constructing (config : Config) (key : Option κ) :
    Unremarkable (constructing collaborators launch config key) := by
  apply Unremarkable.append _ (unremarkable_asking _ _)
  apply (unremarkable_loading config).append
  refine ⟨rfl, fun record member => ?_⟩
  obtain rfl := List.mem_singleton.mp member
  exact ⟨rfl, by decide⟩

/-- A course that has not led to the service, and whose last activity ends with a status, is
unremarkable.  It has entered nothing at all while the configuration is unresolved. -/
theorem Course.unremarkable {reached : Launcher κ η} {journal : Journal κ η}
    {last : Activity κ η Nat} {status : Nat}
    (course : Course collaborators launch {} reached journal last)
    (ended : (last reached).result = .ok status) (early : reached.stage ≠ .listening) :
    journal.Unremarkable ∧ (reached.stage = .unstarted → journal = []) := by
  cases course with
  | @unresolved fault unresolved =>
      cases fault with
      | flags stop => contradiction
      | environment fault => exact ⟨⟨rfl, by simp [printing, noted]⟩, fun _ => rfl⟩
  | refused => exact ⟨unremarkable_resolving _, by simp⟩
  | keyless => exact ⟨unremarkable_loading _, by simp⟩
  | handlerless => exact ⟨unremarkable_constructing _ _, by simp⟩
  | served => exact absurd rfl early

/-! ## Runs that give up -/

theorem message_of_expected {step : Step} {failure : Failure} {message : String}
    (expected : step.expected? failure = some message) : failure.message = message := by
  obtain ⟨⟩ := expected_iff.mpr ⟨message, expected⟩ <;> cases expected <;> rfl

/-- How the printed report of a failure begins, given the step that it is expected of. -/
def Step.heading : Step → String
  | .resolving => "Error reading environment: "
  | _ => "Error: "

theorem report_eq (step : Step) (message : String) :
    step.report message = step.heading ++ message := by
  cases step <;> rfl

/-- A run that gives up prints one report at the end, and logs its error before. -/
theorem journal_of_raised {step : Step} {failure : Failure}
    (raised : Raised collaborators launch (run collaborators launch {}).journal step failure)
    (expected : Expected step failure) :
    ∃ before : Journal κ η, before.Unremarkable ∧ (step = .resolving → before = []) ∧
      (run collaborators launch {}).journal =
        before ++ ((step.logged? failure.message).toList.map (recording .error) ++
          [.report (step.heading ++ failure.message), .stage .stopped]) := by
  obtain ⟨message, expected⟩ := expected_iff.mp expected
  obtain ⟨reached, before, stageEq, course⟩ := course_of_raised raised
  rw [dealWith_of_expected expected] at course
  have ended : (giveUp step message reached).result = .ok 1 := by rw [giveUp_apply]
  have early : reached.stage ≠ .listening := by
    rw [stageEq]
    cases step <;> simp [Step.stage]
  obtain ⟨unremarkable, nothing⟩ := course.unremarkable ended early
  refine ⟨before, unremarkable, ?_, ?_⟩
  · rintro rfl
    exact nothing stageEq
  · rw [run_of_course course, giveUp_apply, message_of_expected expected, report_eq]
    rfl

/-- Once the configuration is resolved, an error is logged under a heading.  The headings differ
from those of the service in their first character. -/
theorem exists_logged {step : Step} (late : step ≠ .resolving) :
    ∃ heading first, heading.toList.head? = some first ∧ first ≠ 'L' ∧ first ≠ 'S' ∧
      ∀ message, step.logged? message = some (heading ++ message) := by
  cases step with
  | resolving => contradiction
  | validating =>
      exact ⟨"Invalid configuration: ", 'I', rfl, by decide, by decide, fun _ => rfl⟩
  | loading =>
      exact ⟨"Failed to load private key: ", 'F', rfl, by decide, by decide, fun _ => rfl⟩
  | constructing =>
      exact ⟨"Error initializing proxy service: ", 'E', rfl, by decide, by decide, fun _ => rfl⟩

/-! ## Runs that are served -/

/-- The text that announces the service on a host and port. -/
def listeningText (host : Operand String) (port : Operand Int) : String :=
  "Listening on " ++ (host.render id ++ ":" ++ port.render toString ++ " (HTTP, no TLS)")

/-- The warning that goes with it. -/
def unencryptedText : String :=
  "Client traffic is NOT encrypted; run behind a TLS-terminating proxy"

/-- What is entered after the end of a service that gives the run a status. -/
inductive Closing : Except Failure Unit → Journal κ η → Prop
  | returned : Closing (.ok ()) [recording .info "Server stopped", .stage .stopped]
  | interrupted :
      Closing (.error .interrupted) [recording .info "Server stopped: interrupted", .stage .stopped]
  | refused (message : String) :
      Closing (.error (.system message))
        [recording .error ("Server stopped: " ++ message), .report ("Error: " ++ message),
          .stage .stopped]

theorem closing_conclude {ending : Except Failure Unit} {launcher : Launcher κ η} {status : Nat}
    (ended : (conclude ending launcher).result = .ok status) :
    Closing ending (conclude ending launcher).journal := by
  rcases ending_cases ending with rfl | rfl | ⟨message, rfl⟩ | ⟨failure, rfl, foreign⟩
  · rw [conclude_returned]
    exact .returned
  · rw [conclude_interrupted]
    exact .interrupted
  · rw [conclude_refused]
    exact .refused message
  · rw [conclude_foreign launcher foreign] at ended
    contradiction

/-- The end of the service is told in one record, and announces nothing. -/
theorem Closing.silent {ending : Except Failure Unit} {closing : Journal κ η}
    (closes : Closing ending closing) :
    closing.notedUnder "Listening on " = [] ∧ closing.notedAt .warning = [] := by
  cases closes with
  | returned => exact ⟨rfl, rfl⟩
  | interrupted => exact ⟨rfl, rfl⟩
  | refused message =>
      have unheaded : (Log.startupRecord .error ("Server stopped: " ++ message)).isHeaded
          "Listening on " = false :=
        Log.Record.isHeaded_eq_false rfl (by simp) (by decide : 'L' ≠ 'S')
      exact ⟨by simp [notedUnder, noted, Entry.noted?, recording, unheaded], rfl⟩

theorem Closing.exists_records {ending : Except Failure Unit} {closing : Journal κ η}
    (closes : Closing ending closing) :
    ∃ record, closing.records = [record] ∧ record.logger = Log.startupLogger ∧
      record.isHeaded "Server stopped" = true := by
  cases closes with
  | returned => exact ⟨_, rfl, rfl, by decide⟩
  | interrupted => exact ⟨_, rfl, rfl, by decide⟩
  | refused message =>
      refine ⟨_, rfl, rfl, ?_⟩
      have textEq : "Server stopped: " ++ message = "Server stopped" ++ (": " ++ message) := by
        rw [← String.append_assoc]
        rfl
      rw [textEq, Log.isHeaded_startupRecord]

/-- A run that is served announces the service right before it asks for it, and tells at the end
that it has stopped. -/
theorem journal_of_asked {status : Nat} {handler : Option η} {host : Operand String}
    {port : Operand Int} (ended : (run collaborators launch {}).result = .ok status)
    (asked : .demand (.serve handler host port) ∈ (run collaborators launch {}).journal) :
    ∃ before closing : Journal κ η, before.Unremarkable ∧
      Closing (collaborators.serve handler host port).result closing ∧
      (run collaborators launch {}).journal =
        before ++ [recording .info (listeningText host port), recording .warning unencryptedText] ++
          asking (.serve handler host port) (collaborators.serve handler host port) ++ closing := by
  obtain ⟨config, key, built, ready, rfl, rfl, rfl⟩ := mem_serve_iff.mp asked
  rw [run_of_course (.served ready)] at ended ⊢
  refine ⟨constructing collaborators launch config key ++
    [.stage .handlerConstructed, .stage .listening], _, ?_, closing_conclude ended, ?_⟩
  · apply (unremarkable_constructing config key).append
    exact ⟨rfl, by simp [noted, Entry.noted?]⟩
  · simp [serving, announcing, listeningText, unencryptedText, Config.address,
      String.append_assoc]

/-! ## What is to blame -/

/-- What can bring a run to status 1. -/
inductive Cause where
  | step (failed : Step)
  | service
  deriving DecidableEq, Repr

/-- How the printed report of a cause begins. -/
def Cause.heading : Cause → String
  | .step failed => failed.heading
  | .service => "Error: "

/-- A failure is to blame for the status of the run that left the journal: one that is expected of
the step that raised it, or the system's refusal of the service. -/
inductive Blamed (collaborators : Collaborators κ η) (launch : Launch) (journal : Journal κ η) :
    Cause → Failure → Prop
  | step {step : Step} {failure : Failure}
      (raised : Raised collaborators launch journal step failure)
      (expected : Expected step failure) :
      Blamed collaborators launch journal (.step step) failure
  | service {message : String} (served : Served collaborators journal (.error (.system message))) :
      Blamed collaborators launch journal .service (.system message)

section Ended

variable {status : Nat} (ended : (run collaborators launch {}).result = .ok status)

include ended

/-- A run that ends with a status has a step to blame, or it was served. -/
theorem raised_or_asked :
    (∃ step failure,
      Raised collaborators launch (run collaborators launch {}).journal step failure ∧
        Expected step failure ∧ status = 1) ∨
    ∃ handler host port,
      .demand (.serve handler host port) ∈ (run collaborators launch {}).journal := by
  rcases raised_or_served collaborators launch {} with
    ⟨step, failure, raised⟩ | ⟨ending, handler, host, port, asked, _⟩
  · have dealt := dealt_of_raised raised
    rw [ended] at dealt
    cases dealt with
    | gaveUp expected => exact .inl ⟨step, failure, raised, expected, rfl⟩
  · exact .inr ⟨handler, host, port, asked⟩

/-- Where a run ends with a status, whatever a step raised was expected. -/
theorem blamed_of_raised {step : Step} {failure : Failure}
    (raised : Raised collaborators launch (run collaborators launch {}).journal step failure) :
    Blamed collaborators launch (run collaborators launch {}).journal (.step step) failure := by
  have dealt := dealt_of_raised raised
  rw [ended] at dealt
  cases dealt with
  | gaveUp expected => exact .step raised expected

theorem exists_blamed_iff :
    status = 1 ↔ ∃ cause failure,
      Blamed collaborators launch (run collaborators launch {}).journal cause failure := by
  have failed := (run_exitLaw collaborators launch {}).failed
  rw [ended, Except.ok.injEq] at failed
  rw [failed]
  constructor
  · rintro (⟨step, failure, expected, raised⟩ | ⟨message, served⟩)
    · exact ⟨_, _, .step raised expected⟩
    · exact ⟨_, _, .service served⟩
  · rintro ⟨_, _, (⟨raised, expected⟩ | ⟨served⟩)⟩
    · exact .inl ⟨_, _, expected, raised⟩
    · exact .inr ⟨_, served⟩

end Ended

/-! ## What is read off the journal -/

theorem printed_of_raised {step : Step} {failure : Failure}
    (raised : Raised collaborators launch (run collaborators launch {}).journal step failure)
    (expected : Expected step failure) :
    (run collaborators launch {}).journal.printed = [step.heading ++ failure.message ++ "\n"] := by
  obtain ⟨before, unremarkable, _, journalEq⟩ := journal_of_raised raised expected
  rw [journalEq, printed_append, printed_append, unremarkable.printed]
  cases step.logged? failure.message <;> rfl

theorem errors_of_raised {step : Step} {failure : Failure}
    (raised : Raised collaborators launch (run collaborators launch {}).journal step failure)
    (expected : Expected step failure) :
    (run collaborators launch {}).journal.notedAt .error =
      (step.logged? failure.message).toList.map (Log.startupRecord .error ·) := by
  obtain ⟨before, unremarkable, _, journalEq⟩ := journal_of_raised raised expected
  rw [journalEq, notedAt_append, notedAt_append, unremarkable.notedAt_eq_nil (by decide)]
  cases step.logged? failure.message <;> rfl

/-- The records that announce a service on a host and port. -/
structure Announces (journal : Journal κ η) (host : Operand String) (port : Operand Int) :
    Prop where
  listening : journal.notedUnder "Listening on " =
    [Log.startupRecord .info (listeningText host port)]
  unencrypted : journal.notedAt .warning = [Log.startupRecord .warning unencryptedText]

/-- A run that gives up announces nothing. -/
theorem silent_of_raised {step : Step} {failure : Failure}
    (raised : Raised collaborators launch (run collaborators launch {}).journal step failure)
    (expected : Expected step failure) :
    (run collaborators launch {}).journal.notedUnder "Listening on " = [] ∧
      (run collaborators launch {}).journal.notedAt .warning = [] := by
  obtain ⟨before, unremarkable, _, journalEq⟩ := journal_of_raised raised expected
  rw [journalEq, notedUnder_append, notedAt_append, unremarkable.notedUnder_eq_nil,
    unremarkable.notedAt_eq_nil (by decide)]
  by_cases early : step = .resolving
  · subst early
    exact ⟨rfl, rfl⟩
  · obtain ⟨heading, first, starts, apart, _, logged⟩ := exists_logged early
    have unheaded : (Log.startupRecord .error (heading ++ failure.message)).isHeaded
        "Listening on " = false :=
      Log.Record.isHeaded_eq_false rfl (by simp [starts]) apart.symm
    rw [logged]
    constructor
    · simp [notedUnder, noted, Entry.noted?, recording, unheaded]
    · rfl

/-- The last record does not tell that the service has stopped when a step was to blame. -/
theorem last_of_raised {step : Step} {failure : Failure}
    (raised : Raised collaborators launch (run collaborators launch {}).journal step failure)
    (expected : Expected step failure) {record : Log.Record}
    (last : (run collaborators launch {}).journal.records.getLast? = some record) :
    record.isHeaded "Server stopped" = false := by
  obtain ⟨before, _, nothing, journalEq⟩ := journal_of_raised raised expected
  rw [journalEq, records_append, records_append] at last
  by_cases early : step = .resolving
  · subst early
    rw [nothing rfl] at last
    contradiction
  · obtain ⟨heading, first, starts, _, apart, logged⟩ := exists_logged early
    have recordEq : Log.startupRecord .error (heading ++ failure.message) = record := by
      rw [logged, List.getLast?_append] at last
      exact Option.some.inj last
    rw [← recordEq]
    exact Log.Record.isHeaded_eq_false rfl (by simp [starts]) apart.symm

section Asked

variable {status : Nat} {handler : Option η} {host : Operand String} {port : Operand Int}
  (ended : (run collaborators launch {}).result = .ok status)
  (asked : .demand (.serve handler host port) ∈ (run collaborators launch {}).journal)

include ended asked

theorem announces_of_asked : Announces (run collaborators launch {}).journal host port := by
  obtain ⟨before, closing, unremarkable, closes, journalEq⟩ := journal_of_asked ended asked
  have announced :
      noted ([recording .info (listeningText host port),
        recording .warning unencryptedText] : Journal κ η) =
      [Log.startupRecord .info (listeningText host port),
        Log.startupRecord .warning unencryptedText] := rfl
  rw [journalEq]
  constructor
  · rw [notedUnder_append, notedUnder_append, notedUnder_append, closes.silent.1,
      unremarkable.notedUnder_eq_nil, notedUnder, notedUnder, announced, noted_asking]
    simp only [List.filter_cons, listeningText, Log.isHeaded_startupRecord]
    rfl
  · rw [notedAt_append, notedAt_append, notedAt_append, closes.silent.2,
      unremarkable.notedAt_eq_nil (by decide), notedAt, notedAt, announced, noted_asking]
    rfl

/-- What is printed by a run that is served, and the errors and the last record of its log, are
entered at the end. -/
theorem exists_closing_of_asked :
    ∃ closing : Journal κ η, Closing (collaborators.serve handler host port).result closing ∧
      (run collaborators launch {}).journal.printed = closing.printed ∧
      (run collaborators launch {}).journal.notedAt .error = closing.notedAt .error ∧
      (run collaborators launch {}).journal.records.getLast? = closing.records.getLast? := by
  obtain ⟨before, closing, unremarkable, closes, journalEq⟩ := journal_of_asked ended asked
  refine ⟨closing, closes, ?_, ?_, ?_⟩
  · rw [journalEq, printed_append, printed_append, printed_append, unremarkable.printed,
      printed_asking]
    rfl
  · rw [journalEq, notedAt_append, notedAt_append, notedAt_append,
      unremarkable.notedAt_eq_nil (by decide), notedAt, notedAt, noted_asking]
    rfl
  · obtain ⟨record, recordsEq, _⟩ := closes.exists_records
    rw [journalEq, records_append, recordsEq, List.getLast?_append]
    rfl

end Asked

/-! ## The law of reporting -/

/-- How the journal of a run reports on it, given the exit status.  Others may log what they like;
but for the last record, only the launcher's own records are counted. -/
structure Reporting (collaborators : Collaborators κ η) (launch : Launch) (journal : Journal κ η)
    (status : Nat) : Prop where
  /-- The status is 1 exactly when some failure is to blame. -/
  blamed : status = 1 ↔ ∃ cause failure, Blamed collaborators launch journal cause failure
  /-- The failure to blame is all that is printed, once, with its text under a heading. -/
  printed : ∀ cause failure, Blamed collaborators launch journal cause failure →
    journal.printed = [cause.heading ++ failure.message ++ "\n"]
  /-- With any other status nothing is printed. -/
  unprinted : status ≠ 1 → journal.printed = []
  /-- The heading tells whether the configuration was not resolved. -/
  heading : ∀ text ∈ journal.printed,
    ("Error reading environment: ".toList <+: text.toList ↔
      ∃ failure, Raised collaborators launch journal .resolving failure)
  /-- Once the configuration is resolved, the failure to blame is the one error that is logged,
  with its text, right before it is printed. -/
  logged : ∀ cause failure, Blamed collaborators launch journal cause failure →
    cause ≠ .step .resolving → ∃ before heading later,
      journal = before ++ recording .error (heading ++ failure.message) ::
        .report (cause.heading ++ failure.message) :: later ∧
      journal.notedAt .error = [Log.startupRecord .error (heading ++ failure.message)]
  /-- No other error is logged. -/
  unlogged : (∀ cause failure, Blamed collaborators launch journal cause failure →
    cause = .step .resolving) → journal.notedAt .error = []
  /-- The service is announced right before it is asked for, by its address and a warning, each of
  them logged once. -/
  announced : ∀ handler host port, .demand (.serve handler host port) ∈ journal →
    Announces journal host port ∧ ∃ before later,
      journal = before ++ recording .info (listeningText host port) ::
        recording .warning unencryptedText :: .demand (.serve handler host port) :: later
  /-- Without a service nothing is announced. -/
  unannounced : (∀ handler host port, .demand (.serve handler host port) ∉ journal) →
    journal.notedUnder "Listening on " = [] ∧ journal.notedAt .warning = []
  /-- The last record of all tells that the service has stopped exactly when it was asked for. -/
  last : (∃ record, journal.records.getLast? = some record ∧
      record.logger = Log.startupLogger ∧ record.isHeaded "Server stopped" = true) ↔
    ∃ handler host port, .demand (.serve handler host port) ∈ journal

/-- The heading of a failed resolution is not that of any other cause. -/
theorem resolving_of_heading {cause : Cause} {message : String}
    (headed : "Error reading environment: ".toList <+: (cause.heading ++ message).toList) :
    cause = .step .resolving := by
  cases cause with
  | service => simp [Cause.heading] at headed
  | step failed =>
      cases failed with
      | resolving => rfl
      | validating => simp [Cause.heading, Step.heading] at headed
      | loading => simp [Cause.heading, Step.heading] at headed
      | constructing => simp [Cause.heading, Step.heading] at headed

section Ended

variable {status : Nat} (ended : (run collaborators launch {}).result = .ok status)

include ended

theorem printed_of_blamed {cause : Cause} {failure : Failure}
    (blamed : Blamed collaborators launch (run collaborators launch {}).journal cause failure) :
    (run collaborators launch {}).journal.printed =
      [cause.heading ++ failure.message ++ "\n"] := by
  cases blamed with
  | step raised expected => exact printed_of_raised raised expected
  | service served =>
      obtain ⟨handler, host, port, asked, refused⟩ := served
      obtain ⟨closing, closes, printedEq, _⟩ := exists_closing_of_asked ended asked
      rw [refused] at closes
      cases closes with
      | refused message => exact printedEq

/-- Right before a report that follows the resolved configuration, its error is logged, and no other
error is. -/
theorem logged_of_blamed {cause : Cause} {failure : Failure}
    (blamed : Blamed collaborators launch (run collaborators launch {}).journal cause failure)
    (late : cause ≠ .step .resolving) :
    ∃ before heading later,
      (run collaborators launch {}).journal =
        before ++ recording .error (heading ++ failure.message) ::
          .report (cause.heading ++ failure.message) :: later ∧
      (run collaborators launch {}).journal.notedAt .error =
        [Log.startupRecord .error (heading ++ failure.message)] := by
  cases blamed with
  | @step failed failure raised expected =>
      have lateStep : failed ≠ .resolving := fun early => late (congrArg Cause.step early)
      obtain ⟨heading, _, _, _, _, logged⟩ := exists_logged lateStep
      obtain ⟨before, _, _, journalEq⟩ := journal_of_raised raised expected
      have errors := errors_of_raised raised expected
      rw [logged] at journalEq errors
      exact ⟨before, heading, [.stage .stopped], journalEq, errors⟩
  | service served =>
      obtain ⟨handler, host, port, asked, refused⟩ := served
      obtain ⟨before, closing, unremarkable, closes, journalEq⟩ := journal_of_asked ended asked
      obtain ⟨again, closesToo, _, errors, _⟩ := exists_closing_of_asked ended asked
      rw [refused] at closes closesToo
      cases closes with
      | refused message =>
          cases closesToo with
          | refused =>
              exact ⟨_, "Server stopped: ", [.stage .stopped], journalEq, errors⟩

/-- What follows a service that ends with another status than 1. -/
theorem quiet_of_asked {handler : Option η} {host : Operand String} {port : Operand Int}
    (asked : .demand (.serve handler host port) ∈ (run collaborators launch {}).journal)
    (unblamed : ∀ message, ¬ Served collaborators (run collaborators launch {}).journal
      (.error (.system message))) :
    (run collaborators launch {}).journal.printed = [] ∧
      (run collaborators launch {}).journal.notedAt .error = [] := by
  obtain ⟨closing, closes, printedEq, errorsEq, _⟩ := exists_closing_of_asked ended asked
  rw [printedEq, errorsEq]
  generalize serves : (collaborators.serve handler host port).result = ending at closes
  cases closes with
  | returned => exact ⟨rfl, rfl⟩
  | interrupted => exact ⟨rfl, rfl⟩
  | refused message => exact absurd ⟨handler, host, port, asked, serves⟩ (unblamed message)

theorem printed_of_other (other : status ≠ 1) :
    (run collaborators launch {}).journal.printed = [] := by
  rcases raised_or_asked ended with ⟨_, _, _, _, isOne⟩ | ⟨handler, host, port, asked⟩
  · exact absurd isOne other
  · refine (quiet_of_asked ended asked fun message served => other ?_).1
    exact (exists_blamed_iff ended).mpr ⟨_, _, .service served⟩

/-- What is printed says what is to blame. -/
theorem exists_blamed_of_printed {text : String}
    (member : text ∈ (run collaborators launch {}).journal.printed) :
    ∃ cause failure,
      Blamed collaborators launch (run collaborators launch {}).journal cause failure ∧
        text = cause.heading ++ (failure.message ++ "\n") := by
  have isOne : status = 1 := by
    by_cases isOne : status = 1
    · exact isOne
    · rw [printed_of_other ended isOne] at member
      contradiction
  obtain ⟨cause, failure, blamed⟩ := (exists_blamed_iff ended).mp isOne
  rw [printed_of_blamed ended blamed, List.mem_singleton, String.append_assoc] at member
  exact ⟨cause, failure, blamed, member⟩

/-- The heading of what is printed tells whether the configuration was not resolved. -/
theorem headed_iff_of_printed {text : String}
    (member : text ∈ (run collaborators launch {}).journal.printed) :
    "Error reading environment: ".toList <+: text.toList ↔
      ∃ failure, Raised collaborators launch (run collaborators launch {}).journal .resolving
        failure := by
  constructor
  · intro headed
    obtain ⟨cause, failure, blamed, rfl⟩ := exists_blamed_of_printed ended member
    obtain rfl := resolving_of_heading headed
    cases blamed with
    | step raised _ => exact ⟨failure, raised⟩
  · rintro ⟨failure, raised⟩
    rw [printed_of_blamed ended (blamed_of_raised ended raised), List.mem_singleton,
      String.append_assoc] at member
    rw [member, String.toList_append]
    exact List.prefix_append _ _

/-- A run whose configuration was not resolved logs no error, and nor does one without blame. -/
theorem errors_of_early (early : ∀ cause failure,
    Blamed collaborators launch (run collaborators launch {}).journal cause failure →
      cause = .step .resolving) :
    (run collaborators launch {}).journal.notedAt .error = [] := by
  rcases raised_or_asked ended with ⟨step, failure, raised, expected, _⟩ | ⟨_, _, _, asked⟩
  · cases early _ _ (.step raised expected)
    exact errors_of_raised raised expected
  · refine (quiet_of_asked ended asked fun message served => ?_).2
    cases early _ _ (.service served)

/-- The last record tells that the service has stopped exactly when it was asked for. -/
theorem stopped_iff_asked :
    (∃ record, (run collaborators launch {}).journal.records.getLast? = some record ∧
        record.logger = Log.startupLogger ∧ record.isHeaded "Server stopped" = true) ↔
      ∃ handler host port,
        .demand (.serve handler host port) ∈ (run collaborators launch {}).journal := by
  constructor
  · rintro ⟨record, last, _, headed⟩
    rcases raised_or_asked ended with ⟨step, failure, raised, expected, _⟩ | served
    · rw [last_of_raised raised expected last] at headed
      contradiction
    · exact served
  · rintro ⟨handler, host, port, asked⟩
    obtain ⟨closing, closes, _, _, lastEq⟩ := exists_closing_of_asked ended asked
    obtain ⟨record, recordsEq, logger, headed⟩ := closes.exists_records
    rw [recordsEq] at lastEq
    exact ⟨record, lastEq, logger, headed⟩

end Ended

/-- Those whose service is refused by the system, since another program listens on the port. -/
def portInUse : Collaborators Unit Unit where
  loadKey := fun _ => .done (some ())
  makeHandler := fun _ _ => .done ()
  assignTimeout := fun handler _ => .ok handler
  serve := fun _ _ _ => .failed (.system "[Errno 98] Address already in use")

end Startup

end ProxyLauncher
