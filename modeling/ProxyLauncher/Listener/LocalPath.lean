/-!
# Paths of local sockets

The path of a local socket is made absolute and free of detours before it is
used: empty names and single dots are dropped, and two dots take the name before
them away. Two strokes in front stay two, more count as one. A path ends at its
first zero byte.
-/

namespace ProxyLauncher.Listener.LocalPath

/-- Takes one name into the names so far, which stand in reverse. -/
def addName (names : List (List Char)) (name : List Char) : List (List Char) :=
  if name = [] || name = ['.'] then names
  else if name = ['.', '.'] then names.drop 1
  else name :: names

/-- The names along an absolute path, without detours. -/
def plainNames (path : List Char) : List (List Char) :=
  ((path.splitOnP (· = '/')).foldl addName []).reverse

/-- The strokes in front of an absolute path. -/
def front : List Char → List Char
  | '/' :: '/' :: '/' :: _ => ['/']
  | '/' :: '/' :: _ => ['/', '/']
  | _ => ['/']

/-- An absolute path without detours. -/
def withoutDetours (path : List Char) : List Char :=
  front path ++ ['/'].intercalate (plainNames path)

/-- A path as seen from a directory. -/
def seenFrom (directory path : List Char) : List Char :=
  if path.head? = some '/' then path else directory ++ '/' :: path

/-- The part of a path that the system takes. -/
def beforeZero (path : List Char) : List Char :=
  path.takeWhile (· ≠ '\x00')

end ProxyLauncher.Listener.LocalPath
