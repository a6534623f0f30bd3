import ProxyLauncher.Config.Dump
import ProxyLauncher.Launcher.Activity

/-!
# Startup

The launcher resolves its configuration, loads the key, builds the handler and
listens. Each step moves it one stage further. A run does all steps in turn; a
failure of the kind that a step is expected to have is reported and stops the
launcher, and any other failure escapes and leaves the launcher where it is.

Loading the key, building the handler and serving are done by others, whose
behaviour is given.
-/

namespace ProxyLauncher

open Number

/-- Those who work for the launcher. -/
structure Collaborators (κ η : Type) where
  /-- Loads the key of a configured file. -/
  loadKey : Option (Operand String) → Reply (Option κ)
  /-- Builds a handler from a key and the number of sessions to keep. -/
  makeHandler : Option κ → Int → Reply η
  /-- Replaces the timeout of a handler. -/
  assignTimeout : η → Operand Binary64 → Except Failure η
  /-- Serves requests on a host and port until something ends the service. -/
  serve : Option η → Operand String → Operand Int → Reply Unit

/-- What a launcher is started with. -/
structure Launch where
  arguments : List String
  environment : Environment
  cacheSize : Int := Default.cacheSize

namespace Startup

variable {κ η : Type}

open Activity

/-- Stops the launcher with an exit status. -/
def stop (status : Nat) : Activity κ η Nat := do
  moveTo .stopped
  change fun launcher => { launcher with exitStatus := some status }
  return status

/-- Prints what the command line asks to be printed when it ends the launcher. -/
def printStop (stop : CommandLine.Stop) : Activity κ η Unit := do
  enter (.output stop.output)
  enter (.complaint stop.complaint)

/-- Resolves the configuration over the built-in one. -/
def readConfig (launch : Launch) : Activity κ η Config := do
  match Config.default.resolve launch.arguments launch.environment with
  | .ok config => return config
  | .error fault =>
    match fault with
    | .flags stop => printStop stop
    | .environment _ => pure ()
    fail fault.toFailure

/-- Shows the configuration in the log, line by line. -/
def logDump : List String → Activity κ η Unit
  | [] => return ()
  | line :: rest => do
    log .debug line
    logDump rest

/-- Resolves the configuration, configures the log and shows the configuration there. -/
def resolveConfig (launch : Launch) : Activity κ η Config := do
  let config ← readConfig launch
  enter (.configureLog config.verbose)
  logDump config.dump
  change fun launcher => { launcher with config := some config }
  moveTo .configResolved
  return config

/-- Refuses a configuration that cannot be listened with. -/
def validate : Activity κ η Unit := do
  let config ← requireConfig
  ofExcept (config.validate.mapError Config.Fault.toFailure)

/-- Loads the key of the configured file. -/
def loadCredentials (collaborators : Collaborators κ η) : Activity κ η Unit := do
  let config ← requireConfig
  let key ← ask (.loadKey config.keyFile) (collaborators.loadKey config.keyFile)
  change fun launcher => { launcher with key := key }
  moveTo .credentialLoaded

/-- Builds the handler and gives it the configured timeout. -/
def constructHandler (collaborators : Collaborators κ η) (cacheSize : Int) :
    Activity κ η Unit := do
  log .debug "Creating proxy"
  let key := (← held).key
  let handler ← ask (.makeHandler key cacheSize) (collaborators.makeHandler key cacheSize)
  let config ← requireConfig
  let handler ← ofExcept (collaborators.assignTimeout handler config.timeout)
  change fun launcher => { launcher with handler := some handler }
  moveTo .handlerConstructed

/-- Tells in the log on which address the launcher listens. -/
def announce (config : Config) : Activity κ η Unit := do
  log .info ("Listening on " ++ config.address ++ " (HTTP, no TLS)")
  log .warning "Client traffic is NOT encrypted; run behind a TLS-terminating proxy"

/-- Stops the launcher after the service ended. A refusal of the system is an error, an interruption
is a way to end of its own, and any other failure escapes. -/
def conclude (ending : Except Failure Unit) : Activity κ η Nat := do
  match ending with
  | .ok () =>
    log .info "Server stopped"
    stop 0
  | .error .interrupted =>
    log .info "Server stopped: interrupted"
    stop 130
  | .error (.system message) =>
    log .error ("Server stopped: " ++ message)
    enter (.report ("Error: " ++ message))
    stop 1
  | .error failure => fail failure

/-- Listens, and serves until something ends the service. The stage changes before anything else can
fail. -/
def listen (collaborators : Collaborators κ η) : Activity κ η Nat := do
  moveTo .listening
  let config ← requireConfig
  announce config
  let handler := (← held).handler
  let ending ← attempt
    (ask (.serve handler config.host config.port)
      (collaborators.serve handler config.host config.port))
  conclude ending

/-! ## Runs -/

/-- The steps of a run that can fail in a way of their own. -/
inductive Step where
  | resolving
  | validating
  | loading
  | constructing
  deriving DecidableEq, Repr

/-- The message of a failure that is expected of a step. -/
def Step.expected? : Step → Failure → Option String
  | .resolving, .configuration message => some message
  | .validating, .configuration message => some message
  | .loading, .credential message => some message
  | .constructing, .handler message => some message
  | _, _ => none

/-- How an expected failure is logged. Before the configuration is resolved, nothing is. -/
def Step.logged? : Step → String → Option String
  | .resolving, _ => none
  | .validating, message => some ("Invalid configuration: " ++ message)
  | .loading, message => some ("Failed to load private key: " ++ message)
  | .constructing, message => some ("Error initializing proxy service: " ++ message)

/-- How an expected failure is reported. -/
def Step.report : Step → String → String
  | .resolving, message => "Error reading environment: " ++ message
  | _, message => "Error: " ++ message

/-- Stops the launcher after an expected failure. -/
def giveUp (step : Step) (message : String) : Activity κ η Nat := do
  match step.logged? message with
  | some text => log .error text
  | none => pure ()
  enter (.report (step.report message))
  stop 1

/-- Does one step of a run and goes on, unless the step failed. -/
def proceed {α : Type} (step : Step) (activity : Activity κ η α) (next : Activity κ η Nat) :
    Activity κ η Nat := do
  match ← attempt activity with
  | .ok _ => next
  | .error failure =>
    match step.expected? failure with
    | some message => giveUp step message
    | none => fail failure

/-- Does all steps in turn and ends with the exit status. -/
def run (collaborators : Collaborators κ η) (launch : Launch) : Activity κ η Nat :=
  proceed .resolving (resolveConfig launch) <|
  proceed .validating validate <|
  proceed .loading (loadCredentials collaborators) <|
  proceed .constructing (constructHandler collaborators launch.cacheSize) <|
  listen collaborators

/-! ## Single steps -/

/-- The steps that can be asked for one by one. -/
inductive Command where
  | resolveConfig
  | loadCredentials
  | constructHandler
  | listen
  | run
  | validate
  deriving DecidableEq, Repr

/-- Does what a command says. Only listening and running end with an exit status. -/
def perform (collaborators : Collaborators κ η) (launch : Launch) :
    Command → Activity κ η (Option Nat)
  | .resolveConfig => do
    discard (resolveConfig launch)
    return none
  | .loadCredentials => do
    loadCredentials collaborators
    return none
  | .constructHandler => do
    constructHandler collaborators launch.cacheSize
    return none
  | .listen => do
    return some (← listen collaborators)
  | .run => do
    return some (← run collaborators launch)
  | .validate => do
    validate
    return none

end Startup

end ProxyLauncher
