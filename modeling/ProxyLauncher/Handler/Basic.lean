import ProxyLauncher.Config.Default
import ProxyLauncher.Config.Operand
import ProxyLauncher.Key.Material
import ProxyLauncher.Reply

/-!
# Request handlers

A handler is built from a private key for vehicle commands and the number of
sessions to keep. It starts with a timeout of its own, which the launcher then
replaces by the configured one.

The number of sessions is told where it is refused and where a handler was
built. A number with too many digits cannot be told: to refuse it fails as a
matter of the value, and there is no record of the handler.
-/

namespace ProxyLauncher

open Number

/-- A request handler. -/
structure Handler where
  key : Key.Material
  cacheSize : Int
  timeout : Operand Binary64 := .given Default.timeout
  deriving DecidableEq, Repr

namespace Handler

/-- Why no handler can be built. -/
inductive Fault where
  | unsuitableKey
  | cacheSizeNotPositive (cacheSize : Int)
  deriving DecidableEq, Repr

/-- The failure of a handler that cannot be built. -/
def Fault.toFailure : Fault → Failure
  | .unsuitableKey => .handler "private key must be a NIST P-256 elliptic-curve key"
  | .cacheSizeNotPositive cacheSize =>
    match Integer.write? cacheSize with
    | some text => .handler ("cache size must be positive, got " ++ text)
    | none => .value Integer.unwritten

/-- Builds a handler. The key is checked before the number of sessions. -/
def build (key : Option Key.Material) (cacheSize : Int) : Except Fault Handler :=
  match key with
  | none => .error .unsuitableKey
  | some material =>
    if !material.isCommandKey then .error .unsuitableKey
    else if cacheSize ≤ 0 then .error (.cacheSizeNotPositive cacheSize)
    else .ok { key := material, cacheSize := cacheSize }

/-- What is logged when a handler was built. -/
def builtRecord? (cacheSize : Int) : Option Log.Record :=
  (Integer.write? cacheSize).map fun text =>
    { level := .debug
      logger := Log.handlerLogger
      text := "Proxy created with session cache size " ++ text }

/-- Replaces the timeout of a handler. -/
def withTimeout (handler : Handler) (timeout : Operand Binary64) : Handler :=
  { handler with timeout := timeout }

end Handler

end ProxyLauncher
