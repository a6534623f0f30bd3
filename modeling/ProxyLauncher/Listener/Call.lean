import ProxyLauncher.Listener.Address

/-!
# Calls to the system

What the listener asks of the system. Every call can fail, and a call that
fails has still been made.
-/

namespace ProxyLauncher.Listener

/-- A call to the system. -/
inductive Call where
  /-- Opens a stream socket. -/
  | openSocket (family : Family)
  /-- Allows the address of an earlier socket to be used again. -/
  | allowReuse
  | bind (address : Address)
  | listen (backlog : Nat)
  /-- Builds a server, with a thread for each request, on top of the socket. There may be no handler
  to answer the requests. -/
  | buildServer (hasHandler : Bool) (host : String) (port : Operand Int)
  /-- Closes the socket; a server that was built goes on with a copy of its own. -/
  | close
  /-- Answers requests until something ends the service. -/
  | answerRequests
  deriving DecidableEq, Repr

/-- The kinds of calls. -/
inductive Operation where
  | openSocket
  | allowReuse
  | bind
  | listen
  | buildServer
  | close
  | answerRequests
  deriving DecidableEq, Repr

/-- The kind of a call. -/
def Call.operation : Call → Operation
  | .openSocket _ => .openSocket
  | .allowReuse => .allowReuse
  | .bind _ => .bind
  | .listen _ => .listen
  | .buildServer _ _ _ => .buildServer
  | .close => .close
  | .answerRequests => .answerRequests

end ProxyLauncher.Listener
