import ProxyLauncher.Config.Default
import ProxyLauncher.Listener.Resolver
import ProxyLauncher.Reply

/-!
# Listening

The listener opens a socket, binds it to the address of the host and port, and
starts to listen; on top of it a server is built, which then answers requests.
The socket is closed again if the system refuses to bind or to listen, and in
any case once the server was built or could not be built. Other failures of the
steps before that leave the socket open.
-/

namespace ProxyLauncher.Listener

/-- The network as the listener finds it. -/
structure Network where
  /-- How the system answers each kind of call. -/
  respond : Operation → Except Failure Unit
  /-- What comes of looking for the address of a host and port. -/
  addressOf : String → Operand Int → Except Failure Address

/-- Makes a call. -/
def Network.perform (network : Network) (call : Call) : Reply Unit :=
  ⟨[.call call], network.respond call.operation⟩

/-- Binds the socket and starts to listen. -/
def bindAndListen (network : Network) (host : String) (port : Operand Int) : Reply Unit := do
  let address ← .ofExcept (network.addressOf host port)
  network.perform (.bind address)
  network.perform (.listen Default.backlog)

/-- Opens a socket that listens on a host and port. -/
def openSocket (network : Network) (host : Operand String) (port : Operand Int) : Reply Unit := do
  match host with
  | .dropped => .failed .missing
  | .given host =>
    network.perform (.openSocket (Family.ofHost host.toList))
    network.perform .allowReuse
    (bindAndListen network host port).andIfRefused (network.perform .close)

/-- Answers requests on a host and port until something ends the service. -/
def serve (network : Network) (hasHandler : Bool) (host : Operand String) (port : Operand Int) :
    Reply Unit := do
  openSocket network host port
  (network.perform (.buildServer hasHandler (host.render id) port)).andAlways
    (network.perform .close)
  network.perform .answerRequests

end ProxyLauncher.Listener
