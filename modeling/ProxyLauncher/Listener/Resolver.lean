import ProxyLauncher.Config.Operand
import ProxyLauncher.Failure
import ProxyLauncher.Listener.Address
import ProxyLauncher.Listener.HostName
import ProxyLauncher.Listener.LocalPath
import ProxyLauncher.Listener.Version6

/-!
# Resolving addresses

The address of a host and port is found by its family. The path of a local
socket is made absolute; any other host is encoded and looked up, and passed on
as it is if nothing is known of it.
-/

namespace ProxyLauncher.Listener

/-- What addresses are found with. -/
structure Resolver where
  /-- Prepares a label beyond ASCII for its encoding, unless it may not be used. -/
  prepare : List Char → Option (List Char)
  /-- The numeric address of a host, if it has one in the family. -/
  lookUp : Family → String → Except Failure (Option String)
  /-- The directory that paths of local sockets are seen from. -/
  directory : String

namespace Resolver

/-- The canonical text of a numeric address of a family. -/
def numeric? (family : Family) (host : String) : Option String :=
  match family with
  | .version4 => (Version4.read? host.toList).map Version4.render
  | .version6 => (Version6.read? host.toList).map Version6.render
  | .localPath => none

/-- Looks hosts up in a table of numeric addresses. A host that is not listed may be a numeric
address itself. -/
def lookUpIn (table : List (String × String)) (family : Family) (host : String) : Option String :=
  numeric? family ((table.lookup host).getD host)

/-- A resolver that only knows a table of names. Labels beyond ASCII are taken as they stand. -/
def ofTable (table : List (String × String)) (directory : String) : Resolver where
  prepare := some
  lookUp := fun family host => .ok (lookUpIn table family host)
  directory := directory

/-- The path behind the scheme of a local socket, made absolute. -/
def localPath (directory : String) (host : List Char) : String :=
  String.ofList (LocalPath.beforeZero (LocalPath.withoutDetours
    (LocalPath.seenFrom directory.toList (host.drop localScheme.length))))

/-- The number of a port. A port without a value is refused where a number is needed. -/
def portNumber : Operand Int → Except Failure Int
  | .given port => .ok port
  | .dropped => .error (.system "Int or String expected")

/-- The address of a host and port in a family of numeric addresses. -/
def numericAddress (resolver : Resolver) (family : Family) (host : String) (port : Operand Int) :
    Except Failure Address :=
  if HostName.isEncodable resolver.prepare host.toList then
    match portNumber port with
    | .error failure => .error failure
    | .ok number =>
      match resolver.lookUp family host with
      | .error failure => .error failure
      | .ok none => .ok (.unresolved host number)
      | .ok (some text) =>
        .ok (if family = .version6 then .version6 text number else .version4 text number)
  else .error .hostName

/-- The address of a host and port. -/
def addressOf (resolver : Resolver) (host : String) (port : Operand Int) :
    Except Failure Address :=
  match Family.ofHost host.toList with
  | .localPath => .ok (.localPath (localPath resolver.directory host.toList))
  | family => resolver.numericAddress family host port

end Resolver

end ProxyLauncher.Listener
