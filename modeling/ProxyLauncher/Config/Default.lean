import ProxyLauncher.Number.Binary64

/-!
# Built-in values

The values that hold where neither a flag nor the environment says otherwise.
-/

namespace ProxyLauncher.Default

open Number

/-- The version of the launcher. -/
def version : String := "0.1.0"

/-- The host to listen on. -/
def host : String := "localhost"

/-- The port to listen on. -/
def port : Int := 8080

/-- The seconds allowed for a command round trip. -/
def timeout : Binary64 := .ofDecimal false 10 0

/-- The number of vehicle sessions that are kept. -/
def cacheSize : Int := 10000

/-- The number of connections that may wait to be accepted. -/
def backlog : Nat := 128

end ProxyLauncher.Default
