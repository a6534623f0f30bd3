/-!
# Stages

The launcher goes through stages, from one to the next, and ends stopped.
-/

namespace ProxyLauncher

/-- The stages of the launcher. -/
inductive Stage where
  | unstarted
  | configResolved
  | credentialLoaded
  | handlerConstructed
  | listening
  | stopped
  deriving DecidableEq, Repr

namespace Stage

/-- Every stage, in order. -/
def all : List Stage :=
  [.unstarted, .configResolved, .credentialLoaded, .handlerConstructed, .listening, .stopped]

/-- The name of a stage. -/
def name : Stage → String
  | .unstarted => "unstarted"
  | .configResolved => "config_resolved"
  | .credentialLoaded => "credential_loaded"
  | .handlerConstructed => "handler_constructed"
  | .listening => "listening"
  | .stopped => "stopped"

end Stage

end ProxyLauncher
