import ProxyLauncher.CommandLine.Usage
import ProxyLauncher.Config.Resolve

/-!
# Failures

Everything that can end a step of the launcher before its time. The first four
kinds are the launcher's own; the others come from the system, from values that
cannot be used, or from outside.

Each fault of a part becomes a failure here, with its wording in one place.
-/

namespace ProxyLauncher

open Number

/-- What a request to exit asks for. -/
inductive ExitRequest where
  | status (code : Nat)
  | text (message : String)
  deriving DecidableEq, Repr

/-- A failure of a step. -/
inductive Failure where
  /-- A configuration value is malformed or out of range. -/
  | configuration (message : String)
  /-- The private key is missing or unusable. -/
  | credential (message : String)
  /-- The request handler could not be built. -/
  | handler (message : String)
  /-- Any other failure of the launcher itself. -/
  | launcher (message : String)
  /-- The operating system refused something. -/
  | system (message : String)
  /-- A value cannot be converted. -/
  | value (message : String)
  /-- Something went wrong while running. -/
  | fault (message : String)
  /-- The user interrupted the run. -/
  | interrupted
  /-- The process was asked to exit. -/
  | exit (request : ExitRequest)
  /-- Something was used that is not there. -/
  | missing
  /-- An operation was given a value of the wrong kind. -/
  | unsuitable
  /-- A host name cannot be encoded. -/
  | hostName
  /-- A key uses an algorithm or a curve that is not supported. -/
  | unsupportedAlgorithm
  deriving DecidableEq, Repr

/-- The text that a failure carries. -/
def Failure.message : Failure → String
  | .configuration message => message
  | .credential message => message
  | .handler message => message
  | .launcher message => message
  | .system message => message
  | .value message => message
  | .fault message => message
  | .interrupted => ""
  | .exit (.status code) => toString code
  | .exit (.text message) => message
  | .missing => ""
  | .unsuitable => ""
  | .hostName => ""
  | .unsupportedAlgorithm => ""

namespace Config

/-- The failure of an unusable configuration. -/
def Fault.toFailure : Fault → Failure
  | .portOutOfRange port => .configuration ("port out of range: " ++ toString port)
  | .negativeTimeout timeout => .configuration ("negative timeout: " ++ timeout.render ++ "s")
  | .noValue _ => .unsuitable

/-- The failure of a variable that cannot be read. A port with too many digits is well formed and
yet cannot be converted. -/
def EnvironmentFault.toFailure : EnvironmentFault → Failure
  | .portMalformed text => .configuration ("invalid port: " ++ text)
  | .portTooLong digits =>
    .value ("Exceeds the limit (4300 digits) for integer string conversion: value has " ++
      toString digits ++ " digits; use sys.set_int_max_str_digits() to increase the limit")
  | .timeoutMalformed text => .configuration ("invalid timeout: " ++ text)

/-- The failure of a command line and an environment that make no configuration. -/
def ResolveFault.toFailure : ResolveFault → Failure
  | .flags stop => .exit (.status stop.status)
  | .environment fault => fault.toFailure

end Config

end ProxyLauncher
