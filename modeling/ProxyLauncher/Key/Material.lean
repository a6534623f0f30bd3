import ProxyLauncher.Key.Curve

/-!
# Key material

What a key file can turn out to hold: a private scalar on a named curve, or
some other kind of key. Only scalars on one curve are of use for vehicle
commands.
-/

namespace ProxyLauncher.Key

/-- A key that was read. -/
inductive Material where
  /-- A private scalar on a curve. -/
  | elliptic (curve : Curve) (scalar : Nat)
  /-- A key, or anything else, that is no elliptic-curve private key. -/
  | foreign
  deriving DecidableEq, Repr

/-- The curve of vehicle commands. -/
def commandCurve : Curve := .secp256r1

/-- A private scalar on the curve of vehicle commands. -/
def Material.isCommandKey : Material → Bool
  | .elliptic curve _ => curve == commandCurve
  | .foreign => false

/-- Why the contents of a key file are no key. -/
inductive Fault where
  /-- They cannot be read, for a reason that the reader gives. -/
  | malformed (reason : String)
  | encrypted
  | unsupported
  deriving DecidableEq, Repr

/-- The fault of contents that are no structure of any kind of key. -/
def Fault.unreadable : Fault := .malformed "could not deserialize key data"

end ProxyLauncher.Key
