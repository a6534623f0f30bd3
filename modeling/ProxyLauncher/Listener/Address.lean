import ProxyLauncher.Config.Operand

/-!
# Addresses to listen on

The text of a host decides the family of its address: a scheme in front names a
local socket, a colon an address of the sixth version, and anything else one of
the fourth. A host that cannot be resolved is passed on as it is.
-/

namespace ProxyLauncher.Listener

/-- The families of addresses. -/
inductive Family where
  | version4
  | version6
  | localPath
  deriving DecidableEq, Repr

/-- The scheme that marks the path of a local socket. -/
def localScheme : List Char := "unix://".toList

/-- The family of a host. -/
def Family.ofHost (host : List Char) : Family :=
  if localScheme.isPrefixOf host then .localPath
  else if host.contains ':' then .version6
  else .version4

/-- The name of a family. -/
def Family.name : Family → String
  | .version4 => "AF_INET"
  | .version6 => "AF_INET6"
  | .localPath => "AF_UNIX"

/-- An address that a socket is bound to. -/
inductive Address where
  /-- A numeric address of the fourth version. -/
  | version4 (text : String) (port : Int)
  /-- A numeric address of the sixth version, without flow or scope. -/
  | version6 (text : String) (port : Int)
  /-- A host that could not be resolved. -/
  | unresolved (host : String) (port : Int)
  /-- The path of a local socket. -/
  | localPath (path : String)
  deriving DecidableEq, Repr

end ProxyLauncher.Listener
