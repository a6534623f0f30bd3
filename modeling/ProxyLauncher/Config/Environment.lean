import ProxyLauncher.Config.Assignment
import ProxyLauncher.Duration

/-!
# The environment layer

A variable of the environment gives its setting a value when nothing else has
given one yet. The host and the key file are taken as they stand. Verbosity is
on unless the text is `false` or `0`. The port is a plain decimal integer, and
the timeout a duration.

The variables are read in a fixed order, host, verbosity, port, timeout and key
file, and the first one that cannot be read decides the failure. No override is
made then.
-/

namespace ProxyLauncher

open Number

/-- The environment of a process, as a partial map from names to texts. -/
abbrev Environment := String → Option String

/-- The environment that lists the variables that are set. The first of two entries for one name
counts. -/
def Environment.ofList (entries : List (String × String)) : Environment :=
  fun name => entries.lookup name

namespace Config

/-- Why a variable could not be read. -/
inductive EnvironmentFault where
  | portMalformed (text : String)
  | portTooLong (digits : Nat)
  | timeoutMalformed (text : String)
  deriving DecidableEq, Repr

/-- Reads a verbosity text: everything but `false` and `0` switches it on. -/
def readVerbosity (text : String) : Bool :=
  text != "false" && text != "0"

/-- Reads a port text. -/
def readPort (text : String) : Except EnvironmentFault Int :=
  match Integer.readPlain text.toList with
  | .ok port => .ok port
  | .error .malformed => .error (.portMalformed text)
  | .error (.tooManyDigits digits) => .error (.portTooLong digits)

/-- Reads a timeout text. -/
def readTimeout (text : String) : Except EnvironmentFault Binary64 :=
  match Duration.read? text with
  | some timeout => .ok timeout
  | none => .error (.timeoutMalformed text)

/-- The text that the environment has for a setting, unless the setting already has a source. -/
def variableText (config : Config) (environment : Environment) (setting : Setting) :
    Option String :=
  if config.sourceOf setting = .default then environment setting.variableName else none

/-- The assignment of at most one variable. -/
def readVariable (text : Option String) (read : String → Except EnvironmentFault Assignment) :
    Except EnvironmentFault (List Assignment) :=
  match text with
  | some text => (read text).map ([·])
  | none => .ok []

/-- The assignments that the environment makes. -/
def readEnvironment (config : Config) (environment : Environment) :
    Except EnvironmentFault (List Assignment) := do
  let text := config.variableText environment
  let host ← readVariable (text .host) fun text => .ok (.host (.given text))
  let verbose ← readVariable (text .verbose) fun text => .ok (.verbose (readVerbosity text))
  let port ← readVariable (text .port) fun text => (readPort text).map (.port <| .given ·)
  let timeout ← readVariable (text .timeout) fun text =>
    (readTimeout text).map (.timeout <| .given ·)
  let keyFile ← readVariable (text .keyFile) fun text => .ok (.keyFile (.given text))
  return host ++ verbose ++ port ++ timeout ++ keyFile

/-- Lays the environment over the settings that have no source yet. -/
def withEnvironment (config : Config) (environment : Environment) :
    Except EnvironmentFault Config :=
  (readEnvironment config environment).map (config.overlay .environment)

end Config

end ProxyLauncher
