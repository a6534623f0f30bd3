/-!
# Flags and their spellings

Every flag has a list of declared spellings, and the flags stand in a fixed
order. The verbosity flag has a spelling that negates it.
-/

namespace ProxyLauncher.CommandLine

/-- The flags of the command line. -/
inductive Flag where
  | help
  | verbose
  | host
  | port
  | timeout
  | keyFile
  deriving DecidableEq, Repr

namespace Flag

/-- Every flag, in the order of declaration. -/
def all : List Flag :=
  [.help, .verbose, .host, .port, .timeout, .keyFile]

/-- The declared spellings of a flag. -/
def spellings : Flag → List String
  | .help => ["-h", "--help"]
  | .verbose => ["-verbose", "--verbose", "--no-verbose"]
  | .host => ["-host", "--host"]
  | .port => ["-port", "--port"]
  | .timeout => ["-timeout", "--timeout"]
  | .keyFile => ["-key-file", "--key-file"]

/-- The name of a flag in complaints: its spellings with strokes between. -/
def title (flag : Flag) : String :=
  String.intercalate "/" flag.spellings

end Flag

/-- The spelling that switches verbosity off. -/
def negatedSpelling : String := "--no-verbose"

/-- Every declared spelling with its flag, in the order of declaration. -/
def declared : List (String × Flag) :=
  Flag.all.flatMap fun flag => flag.spellings.map (·, flag)

/-- The flag of a declared spelling. -/
def flagOf? (spelling : String) : Option Flag :=
  declared.lookup spelling

end ProxyLauncher.CommandLine
