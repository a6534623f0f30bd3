import ProxyLauncher.CommandLine.Rejection
import ProxyLauncher.Config.Assignment

/-!
# Reading flags

Classified arguments are read from left to right. A flag takes the operand that
is attached to it, or else the next argument if that is plain; the verbosity
flag does without an operand, the help flag refuses one, and the others need
one. Every other argument is a stray, and strays are complained about only at
the end.

Reading is a fold: its state holds the assignments so far, the strays so far,
and the flag that still waits for the next argument. So reading a command line
in two parts is reading it whole.
-/

namespace ProxyLauncher.CommandLine

open Number

/-- Why reading ends before the configuration is known. -/
inductive Stop where
  | help
  | rejected (rejection : Rejection)
  deriving DecidableEq, Repr

/-! ## Operands -/

/-- The operands of the verbosity flag. -/
def verbosityOf? (operand : String) : Option Bool :=
  if ["1", "t", "T", "TRUE", "true", "True"].contains operand then some true
  else if ["0", "f", "F", "FALSE", "false", "False"].contains operand then some false
  else none

/-- The mark that ends the flags; as an operand it is dropped. -/
def droppedOperand : String := "--"

/-- What the verbosity flag assigns. A dropped operand counts as none. -/
def assignVerbosity (spelling : String) (operand : Option String) : Except Rejection Assignment :=
  let negated := spelling = negatedSpelling
  match operand.filter (· != droppedOperand) with
  | none => .ok (.verbose (!negated))
  | some text =>
    if negated then .error .negatedOperand
    else
      match verbosityOf? text with
      | some value => .ok (.verbose value)
      | none => .error (.malformedVerbosity text)

/-- Converts an operand, unless it is dropped. -/
def convertOperand {α : Type} (convert : String → Except Rejection α) (operand : String) :
    Except Rejection (Operand α) :=
  if operand = droppedOperand then .ok .dropped else (convert operand).map .given

/-- Reads the operand of the port flag. -/
def convertPort (operand : String) : Except Rejection Int :=
  match Integer.readLenient? operand.toList with
  | some port => .ok port
  | none => .error (.malformedPort operand)

/-- Reads the operand of the timeout flag. -/
def convertTimeout (operand : String) : Except Rejection Binary64 :=
  match Duration.read? operand with
  | some timeout => .ok timeout
  | none => .error (.malformedTimeout operand)

/-- The help flag with an operand attached to its short spelling is read as a cluster of short
flags. Every member of the cluster has to be the help flag again; what is left at the first that is
not is refused. -/
def readHelpCluster : List Char → Stop
  | [] => .help
  | 'h' :: rest => readHelpCluster rest
  | rest => .rejected (.superfluousOperand (String.ofList rest))

/-- How the help flag ends the reading. The long spelling takes no operand at all, and neither
spelling takes an empty one. -/
def stopForHelp (spelling : String) (attached : Option String) : Stop :=
  match attached with
  | none => .help
  | some operand =>
    if spelling = "-h" ∧ operand ≠ "" then readHelpCluster operand.toList
    else .rejected (.superfluousOperand operand)

/-- What a flag does once its operand, if any, is known. -/
def useFlag (flag : Flag) (spelling : String) (operand : Option String) :
    Except Stop Assignment :=
  match flag, operand with
  | .help, _ => .error (stopForHelp spelling operand)
  | .verbose, _ => (assignVerbosity spelling operand).mapError .rejected
  | flag, none => .error (.rejected (.missingOperand flag))
  | .host, some text => ((convertOperand .ok text).map .host).mapError .rejected
  | .port, some text => ((convertOperand convertPort text).map .port).mapError .rejected
  | .timeout, some text => ((convertOperand convertTimeout text).map .timeout).mapError .rejected
  | .keyFile, some text => ((convertOperand .ok text).map .keyFile).mapError .rejected

/-! ## The fold -/

/-- How far the reading of a command line has come. -/
structure Progress where
  waiting : Option (Flag × String) := none
  assigned : List Assignment := []
  strays : List String := []
  deriving DecidableEq, Repr

namespace Progress

/-- Nothing read yet. -/
def start : Progress := {}

/-- Uses a flag and notes what it assigns. No flag waits afterwards. -/
def use (progress : Progress) (flag : Flag) (spelling : String) (operand : Option String) :
    Except Stop Progress :=
  (useFlag flag spelling operand).map fun assignment =>
    { progress with waiting := none, assigned := progress.assigned ++ [assignment] }

/-- The waiting flag, if any, has to do without an operand. -/
def settle (progress : Progress) : Except Stop Progress :=
  match progress.waiting with
  | some (flag, spelling) => progress.use flag spelling none
  | none => .ok progress

/-- Reads an argument that no flag is waiting for. -/
def begin (progress : Progress) (argument : Argument) : Except Stop Progress :=
  match argument.word with
  | .flag .help spelling attached => .error (stopForHelp spelling attached)
  | .flag flag spelling (some operand) => progress.use flag spelling (some operand)
  | .flag flag spelling none => .ok { progress with waiting := some (flag, spelling) }
  | _ => .ok { progress with strays := progress.strays ++ [argument.text] }

/-- Reads one argument. A plain one is the operand of the flag that waits for it. -/
def step (progress : Progress) (argument : Argument) : Except Stop Progress :=
  match progress.waiting, argument.word with
  | some (flag, spelling), .plain => progress.use flag spelling (some argument.text)
  | _, _ => progress.settle >>= fun settled => settled.begin argument

end Progress

/-- Reads classified arguments from left to right. -/
def readArguments (arguments : List Argument) (progress : Progress) : Except Stop Progress :=
  arguments.foldlM Progress.step progress

/-- The end of the command line: the waiting flag gets no operand, and strays are refused. -/
def finish (progress : Progress) : Except Stop (List Assignment) :=
  progress.settle >>= fun settled =>
    if settled.strays.isEmpty then .ok settled.assigned
    else .error (.rejected (.unrecognized settled.strays))

/-- The assignments of a command line. -/
def read (arguments : List String) : Except Stop (List Assignment) :=
  match classifyAll arguments with
  | .error ambiguity => .error (.rejected (.ambiguous ambiguity))
  | .ok classified => readArguments classified Progress.start >>= finish

end ProxyLauncher.CommandLine
