import ProxyLauncher.CommandLine.Word
import ProxyLauncher.Duration

/-!
# Rejected command lines

What can be wrong with a command line, and how each fault is worded.
-/

namespace ProxyLauncher.CommandLine

open ProxyLauncher.Text

/-- The fault for which a command line is rejected. -/
inductive Rejection where
  | ambiguous (ambiguity : Ambiguity)
  | missingOperand (flag : Flag)
  | superfluousOperand (operand : String)
  | malformedPort (operand : String)
  | malformedTimeout (operand : String)
  | malformedVerbosity (operand : String)
  | negatedOperand
  | unrecognized (arguments : List String)
  deriving DecidableEq, Repr

namespace Rejection

/-- A complaint about the operand of a flag. -/
def aboutFlag (flag : Flag) (complaint : String) : String :=
  "argument " ++ flag.title ++ ": " ++ complaint

/-- The wording of a fault. -/
def message : Rejection → String
  | .ambiguous ambiguity =>
    "ambiguous option: " ++ ambiguity.text ++ " could match " ++
      String.intercalate ", " ambiguity.spellings
  | .missingOperand flag => aboutFlag flag "expected one argument"
  | .superfluousOperand operand => aboutFlag .help ("ignored explicit argument " ++ quoted operand)
  | .malformedPort operand => aboutFlag .port ("invalid int value: " ++ quoted operand)
  | .malformedTimeout operand => aboutFlag .timeout (Duration.complaint operand)
  | .malformedVerbosity operand => aboutFlag .verbose ("invalid boolean value: " ++ quoted operand)
  | .negatedOperand => aboutFlag .verbose (negatedSpelling ++ " takes no value")
  | .unrecognized arguments => "unrecognized arguments: " ++ String.intercalate " " arguments

end Rejection

end ProxyLauncher.CommandLine
