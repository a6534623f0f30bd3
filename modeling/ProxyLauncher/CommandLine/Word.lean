import ProxyLauncher.CommandLine.Flag
import ProxyLauncher.Text.DecimalDigit

/-!
# Classifying arguments

Before any flag takes effect, every argument is classified by its own text.
The first argument that is two dashes ends the flags: it and what follows are
plain. Before it, an argument that starts with a dash is a flag if it is a
declared spelling, or a declared spelling with an operand attached by an equals
sign, or, with a single dash, if exactly one declared spelling is hinted at. A
spelling is hinted at when it starts with the whole argument, or when it is the
argument's first two characters, the rest being the operand. Two hints make the
argument ambiguous.

What hints at nothing is plain if it is a negative number or holds a space, and
an unknown flag otherwise.
-/

namespace ProxyLauncher.CommandLine

open ProxyLauncher.Text

/-- The class of an argument. -/
inductive Word where
  | plain
  | separator
  | flag (flag : Flag) (spelling : String) (attached : Option String)
  | unknown
  deriving DecidableEq, Repr

/-- An argument hints at several spellings. -/
structure Ambiguity where
  text : String
  spellings : List String
  deriving DecidableEq, Repr

/-! ## Flags by their text -/

/-- Splits a text at its first equals sign. -/
def splitAtEquals? (text : List Char) : Option (List Char × List Char) :=
  match text.dropWhile (· != '=') with
  | _ :: value => some (text.takeWhile (· != '='), value)
  | [] => none

/-- A declared spelling with an operand attached by an equals sign. -/
def attachedFlag? (text : List Char) : Option Word :=
  match splitAtEquals? text with
  | some (name, value) =>
    let spelling := String.ofList name
    (flagOf? spelling).map fun flag => .flag flag spelling (some (String.ofList value))
  | none => none

/-- The spellings at which an argument with a single dash hints, with the words it would be. -/
def hints (text : List Char) : List (String × Word) :=
  declared.filterMap fun (spelling, flag) =>
    if spelling.toList = text.take 2 then
      some (spelling, .flag flag spelling (some (String.ofList (text.drop 2))))
    else if text.isPrefixOf spelling.toList then some (spelling, .flag flag spelling none)
    else none

/-! ## Plain texts that start with a dash -/

/-- The text without a line break at its very end. -/
def dropFinalBreak (text : List Char) : List Char :=
  if text.getLast? = some '\n' then text.dropLast else text

/-- A dash followed by digits of any script, or by digits of which one or more stand after a point.
A line break may follow. -/
def isNegativeNumber (text : List Char) : Bool :=
  match dropFinalBreak text with
  | '-' :: body =>
    match body.dropWhile isDecimalDigit with
    | [] => !body.isEmpty
    | '.' :: fraction => !fraction.isEmpty && fraction.all isDecimalDigit
    | _ => false
  | _ => false

/-! ## Classification -/

/-- The class of an argument that starts with a dash and is no declared spelling. -/
def classifyDashed (text : List Char) : Except Ambiguity Word :=
  match attachedFlag? text with
  | some word => .ok word
  | none =>
    let hinted := if text.take 2 = ['-', '-'] then [] else hints text
    match hinted with
    | [(_, word)] => .ok word
    | [] =>
      if isNegativeNumber text || text.contains ' ' then .ok .plain else .ok .unknown
    | several => .error ⟨String.ofList text, several.map (·.1)⟩

/-- The class of an argument that stands before the separator. -/
def classify (text : String) : Except Ambiguity Word :=
  match text.toList with
  | '-' :: rest =>
    if rest = ['-'] then .ok .separator
    else
      match flagOf? text with
      | some flag => .ok (.flag flag text none)
      | none => if rest.isEmpty then .ok .plain else classifyDashed ('-' :: rest)
  | _ => .ok .plain

/-- An argument with its class. -/
structure Argument where
  text : String
  word : Word
  deriving DecidableEq, Repr

/-- Classifies the arguments of a command line in order. The first ambiguous one decides. -/
def classifyAll : List String → Except Ambiguity (List Argument)
  | [] => .ok []
  | text :: rest =>
    match classify text with
    | .error ambiguity => .error ambiguity
    | .ok .separator => .ok (⟨text, .separator⟩ :: rest.map (⟨·, .plain⟩))
    | .ok word => (classifyAll rest).map (⟨text, word⟩ :: ·)

end ProxyLauncher.CommandLine
