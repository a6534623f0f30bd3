import ProxyLauncher.Config.Operand
import ProxyLauncher.Failure
import ProxyLauncher.FileTree
import ProxyLauncher.Key.Contents
import ProxyLauncher.Log

/-!
# Loading the key

The private key is read from the configured file. Every step on the way can
fail: no file is configured, the file cannot be read, its contents are no key,
or the key is not on the curve of vehicle commands. Most of these are failures
of the credential and name the file; a path that no system takes and an
algorithm that is not supported are failures of their own.

How files are read, and how their contents are decoded, is left to others; this
library has a decoder of its own.
-/

namespace ProxyLauncher

namespace Key

/-- The files that keys come from. -/
structure Files where
  /-- Reads the contents of the file at a path. -/
  read : String → Except FileTree.Fault Bytes
  /-- Decodes the contents of a key file. -/
  decode : Bytes → Except Fault Material

/-- Files whose contents are decoded by this library, given how they are read. -/
def Files.ofRead (read : String → Except FileTree.Fault Bytes) : Files where
  read := read
  decode := decodeFile

/-- Why a key could not be loaded. -/
inductive LoadFault where
  /-- No key file is configured. -/
  | noPath
  /-- The file cannot be read. -/
  | unreadable (path : String) (fault : FileTree.Fault)
  /-- The contents are no key. -/
  | unusable (path : String) (fault : Fault)
  /-- The key is no elliptic-curve key. -/
  | foreign (path : String)
  /-- The key is on a curve that vehicle commands do not use. -/
  | otherCurve (path : String) (curve : Curve)
  deriving DecidableEq, Repr

/-- The failure of a key that could not be loaded. -/
def LoadFault.toFailure : LoadFault → Failure
  | .noPath => .credential "no private key file configured (use -key-file or TESLA_KEY_FILE)"
  | .unreadable _ .zeroByte => .value FileTree.Fault.zeroByte.message
  | .unreadable path fault =>
    .credential ("cannot read private key " ++ path ++ ": " ++ fault.message)
  | .unusable path (.malformed reason) =>
    .credential ("invalid private key in " ++ path ++ ": " ++ reason)
  | .unusable path .encrypted =>
    .credential ("invalid private key in " ++ path ++
      ": Password was not given but private key is encrypted")
  | .unusable _ .unsupported => .unsupportedAlgorithm
  | .foreign path => .credential ("private key in " ++ path ++ " is not an elliptic-curve key")
  | .otherCurve path curve =>
    .credential ("private key in " ++ path ++ " uses curve " ++ curve.name ++ ", expected " ++
      commandCurve.name)

/-- The path of a configured key file. An empty path configures none. -/
def configuredPath? : Option (Operand String) → Option String
  | some (.given path) => if path = "" then none else some path
  | some .dropped => none
  | none => none

/-- Accepts only a key on the curve of vehicle commands. -/
def requireCommandKey (path : String) : Material → Except LoadFault Material
  | .foreign => .error (.foreign path)
  | .elliptic curve scalar =>
    if curve = commandCurve then .ok (.elliptic curve scalar) else .error (.otherCurve path curve)

/-- Loads the private key at a path. -/
def loadFrom (files : Files) (path : String) : Except LoadFault Material := do
  let contents ← (files.read path).mapError (.unreadable path)
  let material ← (files.decode contents).mapError (.unusable path)
  requireCommandKey path material

/-- Loads the private key of a configured file. -/
def load (files : Files) (configured : Option (Operand String)) : Except LoadFault Material :=
  match configuredPath? configured with
  | none => .error .noPath
  | some path => loadFrom files path

/-- What is logged when a key was loaded. -/
def loadedRecord (path : String) : Log.Record where
  level := .debug
  logger := Log.credentialLogger
  text := "Loaded private key from " ++ path

end Key

/-- The files of a tree as those that keys come from. -/
def FileTree.keyFiles (tree : FileTree) : Key.Files :=
  .ofRead tree.read

end ProxyLauncher
