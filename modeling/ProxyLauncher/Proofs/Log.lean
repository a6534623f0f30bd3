import ProxyLauncher.Log

/-!
# The log of a process

The log belongs to the process and not to a launcher: all records come to one
root logger, and whoever resolves a configuration configures that logger.  A
handler is added only to a logger that has none, so that a record is not written
twice once the log has been configured twice; the thresholds are set each time.

`Setup.root` gives the root logger of a setup.  It follows that nothing is left
of earlier setups once the log is configured, and that a record is written at
most once.
-/

namespace ProxyLauncher.Log

/-- The logger that all records come to. -/
structure Root where
  /-- How many handlers there are. -/
  handlers : Nat := 0
  /-- The least level of records that are let through. -/
  general : Level := .warning
  /-- The least level of reports of single requests that are let through. -/
  requests : Level := .warning
  deriving DecidableEq, Repr

namespace Root

/-- The logger once it is configured. -/
def configure (root : Root) (verbose : Bool) : Root where
  handlers := if root.handlers = 0 then 1 else root.handlers
  general := if verbose then .debug else .info
  requests := if verbose then .info else .warning

/-- The logger of a record lets it through. -/
def passes (root : Root) (record : Record) : Bool :=
  record.level.reaches
    (record.ownThreshold.getD (if record.isOfRequests then root.requests else root.general))

/-- The texts that are written for a record: a line for each handler.  Where there is no handler at
all, warnings and what is more urgent are written as their bare text. -/
def written (root : Root) (time : String) (record : Record) : List String :=
  if root.passes record then
    if root.handlers = 0 then
      if record.level.reaches .warning then [record.text ++ "\n"] else []
    else List.replicate root.handlers (record.line time)
  else []

end Root

namespace Setup

/-- The root logger of a setup. -/
def root : Setup → Root
  | .unconfigured => {}
  | .configured verbose => Root.configure {} verbose

/-- Nothing is left of an earlier setup. -/
@[simp]
theorem configure_root (setup : Setup) (verbose : Bool) :
    setup.root.configure verbose = (configured verbose).root := by
  cases setup <;> rfl

theorem passes_root (setup : Setup) (record : Record) :
    setup.root.passes record = record.level.reaches (setup.threshold record) := by
  cases setup <;> rfl

theorem written_unconfigured (time : String) (record : Record) :
    unconfigured.root.written time record =
      if unconfigured.shows record then [record.text ++ "\n"] else [] := by
  have shown : unconfigured.shows record =
      (record.level.reaches (unconfigured.threshold record) && record.level.reaches .warning) :=
    rfl
  rw [Root.written, passes_root, shown]
  cases record.level.reaches (unconfigured.threshold record) <;> rfl

/-- Once the log is configured, a record that reaches its threshold is shown. -/
theorem shows_configured (verbose : Bool) (record : Record) :
    (configured verbose).shows record =
      record.level.reaches ((configured verbose).threshold record) :=
  Bool.and_true _

/-- Once the log is configured, a record that is shown is written as one line. -/
theorem written_configured (verbose : Bool) (time : String) (record : Record) :
    (configured verbose).root.written time record =
      if (configured verbose).shows record then [record.line time] else [] := by
  rw [Root.written, passes_root, shows_configured]
  rfl

/-- A setup renders what its root logger writes. -/
theorem join_written (setup : Setup) (time : String) (record : Record) :
    String.join (setup.root.written time record) = setup.render time record := by
  cases setup with
  | unconfigured =>
      rw [written_unconfigured, render]
      split <;> simp
  | configured verbose =>
      rw [written_configured, render]
      split <;> simp

end Setup

end ProxyLauncher.Log
