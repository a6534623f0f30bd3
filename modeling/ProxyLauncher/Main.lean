import ProxyLauncher.Launcher.Standard
import Std.Async
import Std.Http.Server

/-!
# The program

The launcher as a program. What it decides is decided by the library; here the
environment is read, the journal is written to the outputs, and requests are
served on a real socket.

The launcher is run twice: first to learn whether it comes to serve and with
what, and once the service has ended, with the way in which it ended. Both runs
agree up to the point at which serving begins.
-/

namespace ProxyLauncher.Program

open Std.Async

abbrev Running := Outcome Key.Material Handler Nat

/-! ## The outputs -/

/-- A number with at least so many digits. -/
def padded (width number : Nat) : String :=
  let digits := toString number
  String.ofList (List.replicate (width - digits.length) '0') ++ digits

/-- The time as it stands in the log. -/
def currentTime : IO String := do
  let moment := (← Std.Time.DateTime.now).date.get
  let day := "-".intercalate
    [toString moment.date.year.toInt, padded 2 moment.date.month.val.toNat,
     padded 2 moment.date.day.val.toNat]
  let clock := ":".intercalate
    [padded 2 moment.time.hour.val.toNat, padded 2 moment.time.minute.val.toNat,
     padded 2 moment.time.second.val.toNat]
  return day ++ " " ++ clock ++ "," ++ padded 3 (moment.time.nanosecond.val.toNat / 1000000)

/-- Writes what the entries of a journal leave on the outputs. -/
def write (setup : Log.Setup) (journal : Journal Key.Material Handler) : IO Log.Setup := do
  let mut setup := setup
  for entry in journal do
    IO.print (Journal.outputText [entry])
    IO.eprint (Journal.errorTextOf (← currentTime) setup entry)
    setup := Journal.setupAfter setup entry
  (← IO.getStdout).flush
  return setup

/-! ## The surroundings -/

/-- The environment variables of the settings. -/
def readEnvironment : IO Environment := do
  let mut entries := []
  for setting in Setting.all do
    if let some text ← IO.getEnv setting.variableName then
      entries := (setting.variableName, text) :: entries
  return Environment.ofList entries

/-- How the system words an error. -/
def describe : IO.Error → String
  | .permissionDenied _ _ details => details
  | .resourceBusy _ details => details
  | .unsupportedOperation _ details => details
  | .otherError _ details => details
  | error => toString error

/-- The fault of a file that could not be read. -/
def readFault : IO.Error → FileTree.Fault
  | .noFileOrDirectory _ _ _ => .missing
  | .inappropriateType _ code _ => if code = 21 then .isDirectory else .notDirectory
  | error => .other (describe error)

/-- The contents of a file. -/
def readFile (path : String) : IO (Except FileTree.Fault Bytes) := do
  try
    return .ok (← IO.FS.readBinFile path).toList
  catch error =>
    return .error (readFault error)

/-- The contents of the key file that a launch would read. -/
def readKeyFile (launch : Launch) : IO (Except FileTree.Fault Bytes) := do
  match Config.default.resolve launch.arguments launch.environment with
  | .ok config =>
    match Key.configuredPath? config.keyFile with
    | some path => readFile path
    | none => return .error .missing
  | .error _ => return .error .missing

/-! ## Serving -/

/-- A request as the library sees it. -/
def requestOf (head : Std.Http.Request.Head) : Http.Request :=
  let query := (toString head.uri).toList.dropWhile (· != '?')
  { method := toString head.method
    path := "/" ++ "/".intercalate head.uri.path.toDecodedSegments.toList
    query := String.ofList (query.drop 1) }

/-- The status as the server writes it. -/
def statusOf : Http.Status → Std.Http.Status
  | .ok => .ok
  | .permanentRedirect => .permanentRedirect
  | .notFound => .notFound
  | .methodNotAllowed => .methodNotAllowed

/-- Answers one request. The server states the length of the body itself. -/
def respond (handler : Handler) (request : Std.Http.Request Std.Http.Body.Stream) :
    ContextAsync (Std.Http.Response Std.Http.Body.Any) := do
  let answer := handler.answer (requestOf request.line)
  let mut builder := Std.Http.Response.withStatus (statusOf answer.status)
  for (name, value) in answer.headers do
    if name != "Content-Length" then
      builder := (builder.header? name value).getD builder
  let body ← Std.Http.Body.Full.ofByteArray answer.body.toUTF8
  return builder.body (.ofBody body)

/-- The socket address of a host and port. -/
def socketAddress? (host : String) (port : UInt16) : IO (Option Std.Net.SocketAddress) := do
  let family := Listener.Family.ofHost host.toList
  let version := if family = .version6 then Std.Net.AddressFamily.ipv6 else .ipv4
  let found ← (DNS.getAddrInfo host (toString port) (some version)).block
  return found[0]?.map fun
    | .v4 address => .v4 ⟨address, port⟩
    | .v6 address => .v6 ⟨address, port⟩

/-- Serves requests until the user interrupts the service. -/
def serveUntilInterrupted (handler : Handler) (host : String) (port : Int) :
    IO (Except Failure Unit) := do
  try
    let some address ← socketAddress? host (UInt16.ofNat port.toNat) |
      return .error (.system "Name or service not known")
    let interrupt ← (← Signal.Waiter.mk .sigint false).wait
    let stateless : Std.Http.Server.StatelessHandler := { onRequest := respond handler }
    let server ← (Std.Http.Server.serve address stateless).block
    discard interrupt.block
    server.shutdown.block
    return .error .interrupted
  catch error =>
    return .error (.system (describe error))

/-- Serves what the launcher asks to be served. -/
def serve : Demand Key.Material Handler → IO (Except Failure Unit)
  | .serve (some handler) (.given host) (.given port) => serveUntilInterrupted handler host port
  | _ => return .error .missing

/-! ## The run -/

/-- A demand for service. -/
def isServiceDemand : Entry Key.Material Handler → Bool
  | .demand (.serve _ _ _) => true
  | _ => false

/-- The run of a launcher, given the contents of the key file and how the service ends. -/
def runWith (launch : Launch) (contents : Except FileTree.Fault Bytes)
    (ending : Except Failure Unit) : Running :=
  Startup.run (Standard.collaborators (.ofRead fun _ => contents) fun _ _ _ => .ofExcept ending)
    launch {}

/-- Ends the program as a run ended. -/
def exitCode (outcome : Running) : IO UInt32 := do
  match outcome.result with
  | .ok status => return UInt32.ofNat status
  | .error (.exit (.status status)) => return UInt32.ofNat status
  | .error failure =>
    IO.eprintln failure.message
    return 1

/-- Runs the program. -/
def run (arguments : List String) : IO UInt32 := do
  let launch : Launch := { arguments := arguments, environment := ← readEnvironment }
  let contents ← readKeyFile launch
  let trial := runWith launch contents (.ok ())
  let (before, rest) := trial.journal.span (!isServiceDemand ·)
  let setup ← write .unconfigured before
  match rest with
  | .demand demand :: _ =>
    let final := runWith launch contents (← serve demand)
    discard (write setup (final.journal.drop before.length))
    exitCode final
  | _ => exitCode trial

end ProxyLauncher.Program

/-- Runs the launcher with the arguments of the command line. -/
def main (arguments : List String) : IO UInt32 :=
  ProxyLauncher.Program.run arguments
