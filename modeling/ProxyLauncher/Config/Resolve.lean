import ProxyLauncher.CommandLine.Reading
import ProxyLauncher.Config.Environment

/-!
# Resolving a configuration

The flags are laid over the given defaults, and the environment over what the
flags left alone. So flags win over variables, and variables over defaults.
-/

namespace ProxyLauncher.Config

/-- Lays the flags of a command line over a configuration. -/
def withFlags (config : Config) (arguments : List String) : Except CommandLine.Stop Config :=
  (CommandLine.read arguments).map (config.overlay .flag)

/-- Why a configuration could not be resolved. -/
inductive ResolveFault where
  | flags (stop : CommandLine.Stop)
  | environment (fault : EnvironmentFault)
  deriving DecidableEq, Repr

/-- Resolves the configuration of a command line and an environment over defaults. -/
def resolve (defaults : Config) (arguments : List String) (environment : Environment) :
    Except ResolveFault Config :=
  match defaults.withFlags arguments with
  | .error stop => .error (.flags stop)
  | .ok flagged => (flagged.withEnvironment environment).mapError .environment

end ProxyLauncher.Config
