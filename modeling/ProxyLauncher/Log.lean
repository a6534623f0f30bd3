/-!
# Log records

A record has a level, the name of the logger that it comes from, and a text. It
is shown if its level reaches the threshold of its logger. Before the log is
configured only warnings and more urgent records are shown, as their bare text;
afterwards the verbosity sets the thresholds, and every line begins with a time.

The names of loggers form a hierarchy, in which each dot leads one step down. A
logger without a level of its own takes that of the nearest logger above it that
has one. The launcher gives levels to two loggers: to the one at the top, and to
the one for single requests, so that a quiet run shows no line for each request.
Others may give levels to loggers of theirs.
-/

namespace ProxyLauncher.Log

/-! ## Levels -/

/-- How urgent a record is. -/
structure Level where
  value : Nat
  deriving DecidableEq, Repr

namespace Level

/-- Details that only help to find a fault. -/
def debug : Level := ⟨10⟩

/-- What happens in the ordinary course. -/
def info : Level := ⟨20⟩

/-- What may lead to a fault. -/
def warning : Level := ⟨30⟩

/-- A fault. -/
def error : Level := ⟨40⟩

/-- The levels that have a name. Between them lie others, which have none. -/
def names : List (Nat × String) :=
  [(0, "NOTSET"), (10, "DEBUG"), (20, "INFO"), (30, "WARNING"), (40, "ERROR"), (50, "CRITICAL")]

/-- The name of a level in a line. -/
def name (level : Level) : String :=
  (names.lookup level.value).getD ("Level " ++ toString level.value)

/-- The level is at least as urgent as a threshold. -/
def reaches (level threshold : Level) : Bool :=
  threshold.value ≤ level.value

end Level

/-! ## Loggers -/

/-- The logger of the startup. -/
def startupLogger : String := "tesla_http_proxy.bootstrap"

/-- The logger of key files. -/
def credentialLogger : String := "tesla_http_proxy.credentials"

/-- The logger of the request handler. -/
def handlerLogger : String := "tesla_http_proxy.proxy"

/-- The logger of single requests. -/
def requestLogger : String := "werkzeug"

/-- A logger is the other one or lies below it. -/
def isWithin (logger other : String) : Bool :=
  logger == other || (other.toList ++ ['.']).isPrefixOf logger.toList

/-- A log record. -/
structure Record where
  level : Level
  logger : String
  text : String
  /-- The level that counts for the logger in place of those of the launcher, if others gave one to
  it or to a logger above it. -/
  ownThreshold : Option Level := none
  deriving DecidableEq, Repr

/-- A record of the startup. -/
def startupRecord (level : Level) (text : String) : Record where
  level := level
  logger := startupLogger
  text := text

@[simp]
theorem level_startupRecord (level : Level) (text : String) :
    (startupRecord level text).level = level :=
  rfl

@[simp]
theorem text_startupRecord (level : Level) (text : String) :
    (startupRecord level text).text = text :=
  rfl

/-- The record is about single requests. -/
def Record.isOfRequests (record : Record) : Bool :=
  isWithin record.logger requestLogger

theorem isOfRequests_startupRecord (level : Level) (text : String) :
    (startupRecord level text).isOfRequests = false := by
  have apart : isWithin startupLogger requestLogger = false := by decide +kernel
  exact apart

/-! ## Showing records -/

/-- How a line of the log is laid out. -/
def lineFormat : String := "%(asctime)s [%(levelname)s] %(name)s: %(message)s"

/-- The line of a record at a time. -/
def Record.line (time : String) (record : Record) : String :=
  time ++ " [" ++ record.level.name ++ "] " ++ record.logger ++ ": " ++ record.text ++ "\n"

/-- Whether the log has been configured, and how verbose it is then. -/
inductive Setup where
  | unconfigured
  | configured (verbose : Bool)
  deriving DecidableEq, Repr

namespace Setup

/-- The level that the launcher gives to the logger at the top. -/
def generalThreshold : Setup → Level
  | .unconfigured => .warning
  | .configured verbose => if verbose then .debug else .info

/-- The level that the launcher gives to the logger of single requests. -/
def requestThreshold : Setup → Level
  | .unconfigured => .warning
  | .configured verbose => if verbose then .info else .warning

/-- The least level at which a record of its logger is shown. -/
def threshold (setup : Setup) (record : Record) : Level :=
  record.ownThreshold.getD
    (if record.isOfRequests then setup.requestThreshold else setup.generalThreshold)

/-- A record is shown. Before the log is configured, nothing below a warning is. -/
def shows (setup : Setup) (record : Record) : Bool :=
  record.level.reaches (setup.threshold record) &&
    (setup != .unconfigured || record.level.reaches .warning)

/-- Records of the startup are shown by the level of the logger at the top. -/
theorem shows_startupRecord (setup : Setup) (level : Level) (text : String) :
    setup.shows (startupRecord level text) = level.reaches setup.generalThreshold := by
  have threshold : setup.threshold (startupRecord level text) = setup.generalThreshold := by
    rw [Setup.threshold, isOfRequests_startupRecord]
    rfl
  rw [shows, threshold, level_startupRecord]
  cases setup with
  | unconfigured => exact Bool.and_self _
  | configured verbose => exact Bool.and_true _

/-- What is written for a record: a line, a bare text or nothing. -/
def render (setup : Setup) (time : String) (record : Record) : String :=
  if setup.shows record then
    match setup with
    | .unconfigured => record.text ++ "\n"
    | .configured _ => record.line time
  else ""

end Setup

end ProxyLauncher.Log
