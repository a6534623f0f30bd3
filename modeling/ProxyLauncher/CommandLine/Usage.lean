import ProxyLauncher.CommandLine.Reading

/-!
# Usage and help

The texts that the command line writes about itself. Help goes to the standard
output and ends with status 0. A rejected command line writes the usage and one
complaint to the standard error and ends with status 2.
-/

namespace ProxyLauncher.CommandLine

/-- The name of the program. -/
def program : String := "tesla-http-proxy-insecure"

/-- Lines of text, each with its line break. -/
def lines (texts : List String) : String :=
  String.join (texts.map (· ++ "\n"))

/-- The summary of the flags. -/
def usageText : String :=
  lines
    ["usage: tesla-http-proxy-insecure [-h] [-verbose [BOOL]] [-host HOSTNAME]",
     "                                 [-port PORT] [-timeout DURATION]",
     "                                 [-key-file FILE]"]

/-- The full description of the program and its flags. -/
def helpText : String :=
  usageText ++ lines
    ["",
     "A server that exposes a REST API for sending commands to Tesla vehicles over HTTP.",
     "",
     "WARNING: This proxy does NOT encrypt client traffic. Use only behind TLS-terminating",
     "infrastructure (Cloud Run, nginx, Traefik, K8s ingress) or in local development.",
     "",
     "options:",
     "  -h, --help            show this help message and exit",
     "  -verbose [BOOL], --verbose [BOOL], --no-verbose [BOOL]",
     "                        Enable verbose logging",
     "  -host HOSTNAME, --host HOSTNAME",
     "                        Proxy server hostname (default: localhost)",
     "  -port PORT, --port PORT",
     "                        Port to listen on (default: 8080)",
     "  -timeout DURATION, --timeout DURATION",
     "                        Timeout interval when sending commands (default: 10s)",
     "  -key-file FILE, --key-file FILE",
     "                        PEM-encoded private key used to authenticate commands",
     "",
     "environment variables (used only when the matching flag is not given):",
     "  TESLA_HTTP_PROXY_HOST, TESLA_HTTP_PROXY_PORT, TESLA_HTTP_PROXY_TIMEOUT, TESLA_VERBOSE, " ++
       "TESLA_KEY_FILE"]

namespace Stop

/-- The exit status with which reading stops. -/
def status : Stop → Nat
  | .help => 0
  | .rejected _ => 2

/-- What stopping writes to the standard output. -/
def output : Stop → String
  | .help => helpText
  | .rejected _ => ""

/-- What stopping writes to the standard error. -/
def complaint : Stop → String
  | .help => ""
  | .rejected rejection => usageText ++ program ++ ": error: " ++ rejection.message ++ "\n"

end Stop

end ProxyLauncher.CommandLine
