import ProxyLauncher.Number.Shortest
import ProxyLauncher.Text.Quoted

/-!
# Compact structured text

Values are written without any blanks, the fields of an object in the given
order. Text is kept to printable ASCII: everything else is escaped by the
sixteen-bit units of its code point. Numbers that are infinite or no numbers at
all have names.
-/

namespace ProxyLauncher.Http

open Number

/-- The values that answers are made of. -/
inductive Json where
  | boolean (value : Bool)
  | integer (value : Int)
  | binary (value : Binary64)
  | text (value : String)
  | emptyList
  | object (fields : List (String × Json))

namespace Json

/-- A sixteen-bit unit, escaped. -/
def escapedUnit (value : Nat) : List Char :=
  '\\' :: 'u' :: Text.hexDigits 4 value

/-- A character between quotation marks. -/
def escapedCharacter (character : Char) : List Char :=
  if character = '"' || character = '\\' then ['\\', character]
  else if character = '\n' then ['\\', 'n']
  else if character = '\r' then ['\\', 'r']
  else if character = '\t' then ['\\', 't']
  else if character = '\x08' then ['\\', 'b']
  else if character = '\x0c' then ['\\', 'f']
  else if character.toNat < 0x20 || (0x7f ≤ character.toNat && character.toNat < 0x10000) then
    escapedUnit character.toNat
  else if 0x10000 ≤ character.toNat then
    escapedUnit (0xd800 + (character.toNat - 0x10000) / 0x400) ++
      escapedUnit (0xdc00 + (character.toNat - 0x10000) % 0x400)
  else [character]

/-- A text between quotation marks. -/
def quote (text : String) : String :=
  "\"" ++ String.ofList (text.toList.flatMap escapedCharacter) ++ "\""

mutual

/-- The written form of a value. -/
def render : Json → String
  | .boolean value => if value then "true" else "false"
  | .integer value => toString value
  | .binary value => value.renderWith "Infinity" "NaN"
  | .text value => quote value
  | .emptyList => "[]"
  | .object fields => "\x7b" ++ ",".intercalate (renderFields fields) ++ "\x7d"

/-- The written forms of the fields of an object. -/
def renderFields : List (String × Json) → List String
  | [] => []
  | (name, value) :: rest => (quote name ++ ":" ++ render value) :: renderFields rest

end

end Json

end ProxyLauncher.Http
