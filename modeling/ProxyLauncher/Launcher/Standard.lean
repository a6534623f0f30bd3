import ProxyLauncher.Handler.Answer
import ProxyLauncher.Key.Load
import ProxyLauncher.Launcher.Startup
import ProxyLauncher.Listener.Socket

/-!
# The launcher as it is shipped

Keys come from files, handlers are those of this library, and requests are
served on a socket.
-/

namespace ProxyLauncher.Standard

/-- Loads a key from a file and logs that. -/
def loadKey (files : Key.Files) (configured : Option (Operand String)) :
    Reply (Option Key.Material) :=
  match Key.configuredPath? configured with
  | none => .failed Key.LoadFault.noPath.toFailure
  | some path =>
    match Key.loadFrom files path with
    | .ok material => ⟨[.record (Key.loadedRecord path)], .ok (some material)⟩
    | .error fault => .failed fault.toFailure

/-- Builds a handler and logs that. -/
def makeHandler (key : Option Key.Material) (cacheSize : Int) : Reply Handler :=
  match Handler.build key cacheSize with
  | .ok handler => ⟨(Handler.builtRecord? cacheSize).toList.map .record, .ok handler⟩
  | .error fault => .failed fault.toFailure

/-- Those who work for the launcher, given the files that keys come from and how serving goes. -/
def collaborators (files : Key.Files)
    (serve : Option Handler → Operand String → Operand Int → Reply Unit) :
    Collaborators Key.Material Handler where
  loadKey := loadKey files
  makeHandler := makeHandler
  assignTimeout handler timeout := .ok (handler.withTimeout timeout)
  serve := serve

/-- Those who work for the launcher on a network. -/
def onNetwork (files : Key.Files) (network : Listener.Network) :
    Collaborators Key.Material Handler :=
  collaborators files fun handler host port => Listener.serve network handler.isSome host port

/-- The failure with which the whole program ends: the exit status of its run, or what escaped. -/
def programEnd (files : Key.Files) (network : Listener.Network) (launch : Launch) :
    Journal Key.Material Handler × Failure :=
  let outcome := Startup.run (onNetwork files network) launch {}
  (outcome.journal,
    match outcome.result with
    | .ok status => .exit (.status status)
    | .error failure => failure)

end ProxyLauncher.Standard
