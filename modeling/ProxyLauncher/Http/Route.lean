/-!
# Routes

Two kinds of paths lead somewhere: the path of the health report and the paths
of static files. Strokes in front of a path count as one. Where a path leads
nowhere, every pair of strokes in it is merged, and a request that would then
lead somewhere is sent there; three strokes leave two.
-/

namespace ProxyLauncher.Http

/-- What a path can lead to. -/
inductive Resource where
  | health
  | file (name : List Char)
  deriving DecidableEq, Repr

/-- Where a request ends. -/
inductive Destination where
  | found (resource : Resource)
  | moved (path : List Char)
  | methodNotAllowed
  | nowhere
  deriving DecidableEq, Repr

/-- The methods that every resource takes, in alphabetical order. -/
def allowedMethods : List String := ["GET", "HEAD", "OPTIONS"]

namespace Resource

/-- The path of the health report. -/
def healthPath : List Char := "/health".toList

/-- What the paths of static files begin with. -/
def filePath : List Char := "/static/".toList

/-- The name of a static file: it does not begin with a stroke, and only its first character may be
a line feed. -/
def isFileName : List Char → Bool
  | [] => false
  | first :: rest => first != '/' && !rest.contains '\n'

/-- What a path leads to. -/
def ofPath? (path : List Char) : Option Resource :=
  if path = healthPath then some .health
  else if filePath.isPrefixOf path && isFileName (path.drop filePath.length) then
    some (.file (path.drop filePath.length))
  else none

end Resource

namespace Destination

/-- Makes the strokes in front of a path one. -/
def normalizeFront (path : List Char) : List Char :=
  '/' :: path.dropWhile (· = '/')

/-- Merges every pair of strokes. -/
def mergePairs : List Char → List Char
  | '/' :: '/' :: rest => '/' :: mergePairs rest
  | character :: rest => character :: mergePairs rest
  | [] => []

/-- Where a request for a path ends, given whether its method is taken. -/
def ofPath (methodTaken : Bool) (path : List Char) : Destination :=
  match Resource.ofPath? path, Resource.ofPath? (mergePairs path) with
  | some resource, _ => if methodTaken then .found resource else .methodNotAllowed
  | none, some _ => if methodTaken then .moved (mergePairs path) else .methodNotAllowed
  | none, none => .nowhere

/-- Where a request ends. The case of the method does not matter. -/
def ofRequest (method path : String) : Destination :=
  ofPath (allowedMethods.contains method.toUpper) (normalizeFront path.toList)

end Destination

end ProxyLauncher.Http
