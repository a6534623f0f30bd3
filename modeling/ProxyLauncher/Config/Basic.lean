import ProxyLauncher.Config.Default
import ProxyLauncher.Config.Operand
import ProxyLauncher.Config.Setting
import ProxyLauncher.Number.Shortest

/-!
# Configurations

A configuration holds the five settings and their tags. It is a value: every
layer that overrides settings yields a new configuration.

`validate` refuses settings that could be read but cannot be listened with. It
looks at the port first, and a setting without a value cannot be compared at
all.
-/

namespace ProxyLauncher

open Number

/-- The settings of a run and where they came from. -/
structure Config where
  verbose : Bool := false
  host : Operand String := .given Default.host
  port : Operand Int := .given Default.port
  timeout : Operand Binary64 := .given Default.timeout
  keyFile : Option (Operand String) := none
  sources : Sources := Sources.none

namespace Config

/-- Every setting at its built-in value, without a tag. -/
def default : Config := {}

/-- The source under a name; names that are no settings count as built-in unless they are tagged. -/
def source (config : Config) (name : String) : Source :=
  config.sources.sourceOfName name

/-- The source of a setting. -/
def sourceOf (config : Config) (setting : Setting) : Source :=
  config.sources.sourceOf setting

/-- The address to listen on, host and port with a colon between. -/
def address (config : Config) : String :=
  config.host.render id ++ ":" ++ config.port.render toString

/-- Equality of configurations: of all five values and of the tags. A timeout that is no number
equals itself, and the two zeros are equal. -/
def same (left right : Config) : Bool :=
  left.verbose == right.verbose && left.host == right.host && left.port == right.port &&
    left.timeout.sameBy Binary64.alike right.timeout && left.keyFile == right.keyFile &&
    left.sources.same right.sources

/-- A configuration is fingerprinted by its values; a setting without a value has no
fingerprint. -/
def hasFingerprint (config : Config) : Bool :=
  config.host != .dropped && config.port != .dropped && config.timeout != .dropped &&
    config.keyFile != some .dropped

/-! ## Validation -/

/-- What makes a configuration unusable. -/
inductive Fault where
  | portOutOfRange (port : Int)
  | negativeTimeout (timeout : Binary64)
  | noValue (setting : Setting)
  deriving DecidableEq, Repr

/-- The greatest port. -/
def greatestPort : Int := 65535

/-- A port that can be listened on. -/
def portInRange (port : Int) : Bool :=
  0 ≤ port && port ≤ greatestPort

/-- A timeout below zero. The negative zero is not below zero, and neither is what is no number. -/
def timeoutIsNegative (timeout : Binary64) : Bool :=
  timeout.less (.zeroOf false)

/-- Refuses a port out of range, then a negative timeout. -/
def validate (config : Config) : Except Fault Unit :=
  match config.port with
  | .dropped => .error (.noValue .port)
  | .given port =>
    if portInRange port then
      match config.timeout with
      | .dropped => .error (.noValue .timeout)
      | .given timeout =>
        if timeoutIsNegative timeout then .error (.negativeTimeout timeout) else .ok ()
    else .error (.portOutOfRange port)

end Config

end ProxyLauncher
