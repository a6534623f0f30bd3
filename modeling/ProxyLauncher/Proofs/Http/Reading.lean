import ProxyLauncher.Http.Json
import ProxyLauncher.Proofs.Number.ReadBack

/-!
# Reading structured text

An object is read in two steps.  Its text is first cut into tokens: marks, texts
between quotation marks, and words, which are names of values or numbers.  The
tokens then have to be the fields of one object, each with a name and a single
token for its value.  Objects within objects and escaped characters are not
read, and blanks between tokens are passed over.

An object that is written reads back, field by field, when its values are of the
kinds that can be read.
-/

namespace ProxyLauncher.Http.Json

open Number

/-! ## Tokens -/

/-- A token of structured text. -/
inductive Token where
  | mark (character : Char)
  | text (content : List Char)
  | word (characters : List Char)
  deriving DecidableEq, Repr

/-- The characters that may stand between tokens. -/
def blanks : List Char := [' ', '\t', '\n', '\r']

/-- The characters that are tokens of their own. -/
def marks : List Char := ['\x7b', '\x7d', '[', ']', ':', ',']

/-- A character of a word. -/
def isWordCharacter (character : Char) : Bool :=
  !('"' :: (blanks ++ marks)).contains character

/-- Puts a character in front of tokens. It joins the word that they begin with, or is a word by
itself. -/
def prependToWord (character : Char) (joins : Bool) : List Token → List Token
  | .word characters :: rest =>
    if joins then .word (character :: characters) :: rest
    else .word [character] :: .word characters :: rest
  | tokens => .word [character] :: tokens

/-- Cuts a text into tokens, given what has been read of a text between quotation marks. -/
def tokens? : Option (List Char) → List Char → Option (List Token)
  | none, [] => some []
  | some _, [] => none
  | none, character :: rest =>
    if character = '"' then tokens? (some []) rest
    else if blanks.contains character then tokens? none rest
    else if marks.contains character then (tokens? none rest).map (.mark character :: ·)
    else (tokens? none rest).map (prependToWord character (rest.head?.any isWordCharacter))
  | some content, character :: rest =>
    if character = '"' then (tokens? none rest).map (.text content :: ·)
    else if character = '\\' || character.toNat < 0x20 then none
    else tokens? (some (content ++ [character])) rest

/-! ## Values and fields -/

/-- Reads an integer, which has no zeros in front. -/
def integer? : List Char → Option Int
  | '-' :: digits =>
    if Binary64.isWhole digits then (Integer.readPlain ('-' :: digits)).toOption else none
  | digits => if Binary64.isWhole digits then (Integer.readPlain digits).toOption else none

/-- Reads a word. A number is an integer unless it has a point or an exponent. -/
def word? (word : List Char) : Option Json :=
  if word = "true".toList then some (.boolean true)
  else if word = "false".toList then some (.boolean false)
  else if word.any Binary64.isRealMark then (Binary64.read? word).map .binary
  else (integer? word).map .integer

/-- Reads a value that is a single token. -/
def value? : Token → Option Json
  | .mark _ => none
  | .text content => some (.text (String.ofList content))
  | .word word => word? word

/-- Reads the fields of an object and the mark at its end. -/
def fields? : List Token → Option (List (String × Json))
  | [.text name, .mark ':', token, .mark '\x7d'] =>
    (value? token).map fun value => [(String.ofList name, value)]
  | .text name :: .mark ':' :: token :: .mark ',' :: rest =>
    match value? token, fields? rest with
    | some value, some fields => some ((String.ofList name, value) :: fields)
    | _, _ => none
  | _ => none

/-- Reads the fields of the object that a text is. -/
def object? (text : List Char) : Option (List (String × Json)) :=
  match tokens? none text with
  | some (.mark '\x7b' :: tokens) =>
    if tokens = [.mark '\x7d'] then some [] else fields? tokens
  | _ => none

/-! ## Cutting into tokens -/

theorem apart_of_word {character : Char} (ofWord : isWordCharacter character = true) :
    character ≠ '"' ∧ ¬ blanks.contains character = true ∧ ¬ marks.contains character = true := by
  simp only [isWordCharacter, Bool.not_eq_true', List.contains_eq_mem, decide_eq_false_iff_not,
    List.mem_cons, List.mem_append, not_or] at ofWord
  simpa using ofWord

theorem tokens?_mark {character : Char} (mark : character ∈ marks) (rest : List Char) :
    tokens? none (character :: rest) = (tokens? none rest).map (.mark character :: ·) := by
  have apart : ∀ other ∈ marks, other ≠ '"' ∧ ¬ blanks.contains other = true := by
    simp [marks, blanks]
  obtain ⟨unquoted, visible⟩ := apart character mark
  rw [tokens?, if_neg unquoted, if_neg visible, if_pos (List.contains_iff_mem.mpr mark)]

/-- No character of a word follows. -/
def Stops (rest : List Char) : Prop :=
  rest.head?.any isWordCharacter = false

/-- A word is cut off where no character of a word follows. -/
theorem tokens?_word {word : List Char} (nonempty : word ≠ [])
    (ofWord : ∀ character ∈ word, isWordCharacter character = true) {rest : List Char}
    (stops : Stops rest) :
    tokens? none (word ++ rest) = (tokens? none rest).map (.word word :: ·) := by
  induction word with
  | nil => contradiction
  | cons first others ih =>
      obtain ⟨unquoted, visible, unmarked⟩ := apart_of_word (ofWord first List.mem_cons_self)
      rw [List.cons_append, tokens?, if_neg unquoted, if_neg visible, if_neg unmarked]
      cases others with
      | nil =>
          rw [List.nil_append, stops]
          congr 1
          funext tokens
          unfold prependToWord
          split <;> rfl
      | cons second others =>
          have restOfWord : ∀ character ∈ second :: others, isWordCharacter character = true := by
            intro character member
            exact ofWord character (List.mem_cons_of_mem first member)
          have joins : ((second :: others ++ rest).head?.any isWordCharacter) = true :=
            restOfWord second List.mem_cons_self
          rw [ih (by simp) restOfWord, joins, Option.map_map]
          rfl

/-- A character that stands for itself between quotation marks. -/
def IsPlain (character : Char) : Prop :=
  escapedCharacter character = [character]

instance : DecidablePred IsPlain := fun character =>
  inferInstanceAs (Decidable (escapedCharacter character = [character]))

theorem plain_of_all {text : String} (all : text.toList.all (decide <| IsPlain ·) = true) :
    ∀ character ∈ text.toList, IsPlain character := by
  intro character member
  exact of_decide_eq_true (List.all_eq_true.mp all character member)

theorem allowed_of_isPlain {character : Char} (plain : IsPlain character) :
    character ≠ '"' ∧ ¬ (character = '\\' || decide (character.toNat < 0x20)) = true := by
  unfold IsPlain escapedCharacter at plain
  -- What is escaped is written by more than one character.
  have single := congrArg List.length plain
  constructor
  · rintro rfl
    cases plain
  · intro refused
    rw [Bool.or_eq_true, decide_eq_true_eq, decide_eq_true_eq] at refused
    rcases refused with rfl | control
    · cases plain
    · simp only [control, decide_true, Bool.true_or, if_true] at single
      split_ifs at single
      all_goals simp [escapedUnit, Text.hexDigits_length] at single

theorem tokens?_quoted {content : List Char} (plain : ∀ character ∈ content, IsPlain character)
    (front rest : List Char) :
    tokens? (some front) (content ++ '"' :: rest) =
      (tokens? none rest).map (.text (front ++ content) :: ·) := by
  induction content generalizing front with
  | nil => simp [tokens?]
  | cons first others ih =>
      obtain ⟨unquoted, allowed⟩ := allowed_of_isPlain (plain first List.mem_cons_self)
      have restPlain : ∀ character ∈ others, IsPlain character := by
        intro character member
        exact plain character (List.mem_cons_of_mem first member)
      rw [List.cons_append, tokens?, if_neg unquoted, if_neg allowed, ih restPlain,
        List.append_assoc, List.singleton_append]

/-- A plain text is cut off with its quotation marks. -/
theorem tokens?_quote {text : String} (plain : ∀ character ∈ text.toList, IsPlain character)
    (rest : List Char) :
    tokens? none ((quote text).toList ++ rest) =
      (tokens? none rest).map (.text text.toList :: ·) := by
  have written : (quote text).toList = '"' :: (text.toList ++ ['"']) := by
    have unescaped : text.toList.flatMap escapedCharacter = text.toList := by
      have listed : text.toList.flatMap escapedCharacter = text.toList.flatMap fun c => [c] :=
        List.flatMap_congr plain
      rw [listed, List.flatMap_singleton']
    simp [quote, unescaped]
  rw [written]
  simp [tokens?, tokens?_quoted plain]

/-! ## Values -/

/-- A value that can be read: a single token, and a number within the limits of reading. -/
inductive Readable : Json → Prop
  | boolean (value : Bool) : Readable (.boolean value)
  | integer {value : Int} (short : Decimal.digitCount value.natAbs ≤ Integer.digitLimit) :
      Readable (.integer value)
  | binary {number : Binary64} (canonical : number.Canonical) (finite : number.isFinite = true) :
      Readable (.binary number)
  | text {content : String} (plain : ∀ character ∈ content.toList, IsPlain character) :
      Readable (.text content)

/-- The token that a value is written as. -/
def tokenOf : Json → Token
  | .text content => .text content.toList
  | value => .word (render value).toList

theorem isWordCharacter_of_number {character : Char}
    (numeric : Binary64.isNumberCharacter character = true) :
    isWordCharacter character = true := by
  have apart : ∀ other ∈ '"' :: (blanks ++ marks), (!Binary64.isNumberCharacter other) = true :=
    List.all_eq_true.mp (by decide)
  rw [isWordCharacter, Bool.not_eq_true', List.contains_eq_mem, decide_eq_false_iff_not]
  intro member
  have unlike := apart character member
  rw [numeric] at unlike
  cases unlike

/-- A number is no name of a value. -/
theorem word?_of_numeric {word : List Char}
    (numeric : ∀ character ∈ word, Binary64.isNumberCharacter character = true) :
    word? word =
      if word.any Binary64.isRealMark then (Binary64.read? word).map .binary
      else (integer? word).map .integer := by
  have notTrue : word ≠ "true".toList := by
    rintro rfl
    exact absurd (numeric 't' (by decide)) (by decide)
  have notFalse : word ≠ "false".toList := by
    rintro rfl
    exact absurd (numeric 'f' (by decide)) (by decide)
  rw [word?, if_neg notTrue, if_neg notFalse]

theorem isWhole_toDigits (value : Nat) : Binary64.isWhole (Nat.toDigits 10 value) = true := by
  rcases Nat.eq_zero_or_pos value with rfl | positive
  · decide
  · exact Binary64.isWhole_of_front (Integer.numeral_toDigits value)
      (Integer.head?_toDigits_ne positive)

theorem integer?_toString {value : Int}
    (short : Decimal.digitCount value.natAbs ≤ Integer.digitLimit) :
    integer? (toString value).toList = some value := by
  have reads := Integer.readPlain_toString short
  have whole := isWhole_toDigits value.natAbs
  rw [Integer.toList_toString] at reads ⊢
  by_cases negative : value < 0
  · rw [if_pos negative] at reads ⊢
    rw [List.singleton_append] at reads ⊢
    rw [integer?, if_pos whole, reads]
    rfl
  · rw [if_neg negative, List.nil_append] at reads ⊢
    have ascii := (Integer.numeral_toDigits value.natAbs).2
    unfold integer?
    split
    case h_1 digits signed =>
      rw [signed] at ascii
      exact absurd (ascii '-' List.mem_cons_self) (by decide)
    case h_2 =>
      rw [if_pos whole, reads]
      rfl

theorem word?_integer {value : Int}
    (short : Decimal.digitCount value.natAbs ≤ Integer.digitLimit) :
    word? (toString value).toList = some (.integer value) := by
  have unmarked : ¬ (toString value).toList.any Binary64.isRealMark = true := by
    rw [List.any_eq_true]
    rintro ⟨character, member, mark⟩
    rcases Integer.digit_or_sign_of_mem_toString member with rfl | digit
    · exact absurd mark (by decide)
    · rw [Binary64.isRealMark_of_digit digit] at mark
      contradiction
  rw [word?_of_numeric (Binary64.numeric_toString value), if_neg unmarked, integer?_toString short]
  rfl

theorem word?_binary {number : Binary64} (canonical : number.Canonical)
    (finite : number.isFinite = true) (infinity noNumber : String) :
    word? (number.renderWith infinity noNumber).toList = some (.binary number) := by
  obtain ⟨numeric, marked⟩ := Binary64.numeric_renderWith canonical finite infinity noNumber
  rw [word?_of_numeric numeric, if_pos marked, Binary64.read?_renderWith canonical finite]
  rfl

/-- The token of a readable value is read as the value. -/
theorem value?_tokenOf {value : Json} (readable : Readable value) :
    value? (tokenOf value) = some value := by
  cases readable with
  | boolean value => cases value <;> rfl
  | integer short => exact word?_integer short
  | binary canonical finite => exact word?_binary canonical finite _ _
  | text plain => simp [tokenOf, value?]

theorem tokens?_numeric {word : List Char} (nonempty : word ≠ [])
    (numeric : ∀ character ∈ word, Binary64.isNumberCharacter character = true)
    {rest : List Char} (stops : Stops rest) :
    tokens? none (word ++ rest) = (tokens? none rest).map (.word word :: ·) := by
  apply tokens?_word nonempty _ stops
  intro character member
  exact isWordCharacter_of_number (numeric character member)

/-- A readable value is cut off as its token. -/
theorem tokens?_render {value : Json} (readable : Readable value) {rest : List Char}
    (stops : Stops rest) :
    tokens? none ((render value).toList ++ rest) =
      (tokens? none rest).map (tokenOf value :: ·) := by
  cases readable with
  | boolean value =>
      cases value with
      | true => exact tokens?_word (by decide) (List.all_eq_true.mp (by decide)) stops
      | false => exact tokens?_word (by decide) (List.all_eq_true.mp (by decide)) stops
  | @integer value short =>
      have nonempty : (toString value).toList ≠ [] := by
        rw [Integer.toList_toString]
        exact List.append_ne_nil_of_right_ne_nil _ Nat.toDigits_ne_nil
      exact tokens?_numeric nonempty (Binary64.numeric_toString value) stops
  | @binary number canonical finite =>
      obtain ⟨numeric, marked⟩ := Binary64.numeric_renderWith canonical finite "Infinity" "NaN"
      have nonempty : (number.renderWith "Infinity" "NaN").toList ≠ [] := by
        intro empty
        rw [empty] at marked
        cases marked
      exact tokens?_numeric nonempty numeric stops
  | text plain => exact tokens?_quote plain rest

/-! ## Objects -/

/-- The tokens of the fields of an object and of the mark at its end. -/
def fieldTokens : List (String × Json) → List Token
  | [] => [.mark '\x7d']
  | [(name, value)] => [.text name.toList, .mark ':', tokenOf value, .mark '\x7d']
  | (name, value) :: rest =>
    .text name.toList :: .mark ':' :: tokenOf value :: .mark ',' :: fieldTokens rest

/-- A field that can be read: a plain name and a readable value. -/
structure ReadableField (field : String × Json) : Prop where
  plain : ∀ character ∈ field.1.toList, IsPlain character
  readable : Readable field.2

theorem ReadableField.of_all {name : String} {value : Json}
    (all : name.toList.all (decide <| IsPlain ·) = true) (readable : Readable value) :
    ReadableField (name, value) :=
  ⟨plain_of_all all, readable⟩

theorem tokens?_field {field : String × Json} (readable : ReadableField field) {rest : List Char}
    (stops : Stops rest) :
    tokens? none ((quote field.1 ++ ":" ++ render field.2).toList ++ rest) =
      (tokens? none rest).map fun tokens =>
        .text field.1.toList :: .mark ':' :: tokenOf field.2 :: tokens := by
  have written : (quote field.1 ++ ":" ++ render field.2).toList ++ rest =
      (quote field.1).toList ++ (':' :: ((render field.2).toList ++ rest)) := by
    simp
  rw [written, tokens?_quote readable.plain, tokens?_mark (by decide),
    tokens?_render readable.readable stops, Option.map_map, Option.map_map]
  rfl

theorem stops_of_mark {character : Char} (mark : character ∈ marks) (rest : List Char) :
    Stops (character :: rest) := by
  simp [Stops, isWordCharacter, mark]

theorem tokens?_fields {fields : List (String × Json)} (nonempty : fields ≠ [])
    (readable : ∀ field ∈ fields, ReadableField field) (rest : List Char) :
    tokens? none ((",".intercalate (renderFields fields)).toList ++ '\x7d' :: rest) =
      (tokens? none rest).map (fieldTokens fields ++ ·) := by
  induction fields with
  | nil => contradiction
  | cons first others ih =>
      have firstReadable := readable first List.mem_cons_self
      cases others with
      | nil =>
          have stops := stops_of_mark (by decide : '\x7d' ∈ marks) rest
          rw [renderFields, renderFields, String.intercalate_singleton,
            tokens?_field firstReadable stops, tokens?_mark (by decide), Option.map_map]
          rfl
      | cons second others =>
          have later := ih (by simp) fun field member =>
            readable field (List.mem_cons_of_mem first member)
          have written : ",".intercalate (renderFields (first :: second :: others)) =
              quote first.1 ++ ":" ++ render first.2 ++ "," ++
                ",".intercalate (renderFields (second :: others)) := by
            rw [renderFields, renderFields, String.intercalate_cons_cons]
          have split : (",".intercalate (renderFields (first :: second :: others))).toList ++
                '\x7d' :: rest =
              (quote first.1 ++ ":" ++ render first.2).toList ++
                (',' :: ((",".intercalate (renderFields (second :: others))).toList ++
                  '\x7d' :: rest)) := by
            rw [written]
            simp
          have stops := stops_of_mark (by decide : ',' ∈ marks)
            ((",".intercalate (renderFields (second :: others))).toList ++ '\x7d' :: rest)
          rw [split, tokens?_field firstReadable stops, tokens?_mark (by decide), later,
            Option.map_map, Option.map_map]
          rfl

theorem fields?_fieldTokens {fields : List (String × Json)} (nonempty : fields ≠ [])
    (readable : ∀ field ∈ fields, ReadableField field) :
    fields? (fieldTokens fields) = some fields := by
  induction fields with
  | nil => contradiction
  | cons first others ih =>
      have value := value?_tokenOf (readable first List.mem_cons_self).readable
      cases others with
      | nil => simp [fieldTokens, fields?, value]
      | cons second others =>
          have later := ih (by simp) fun field member =>
            readable field (List.mem_cons_of_mem first member)
          simp [fieldTokens, fields?, value, later]

/-- An object that is written reads back. -/
theorem object?_render {fields : List (String × Json)}
    (readable : ∀ field ∈ fields, ReadableField field) :
    object? (render (.object fields) ++ "\n").toList = some fields := by
  have written : (render (.object fields) ++ "\n").toList =
      '\x7b' :: ((",".intercalate (renderFields fields)).toList ++ '\x7d' :: ['\n']) := by
    simp [render]
  have newline : tokens? none ['\n'] = some [] := rfl
  unfold object?
  rw [written]
  cases fields with
  | nil => rfl
  | cons first others =>
      rw [tokens?_mark (by decide), tokens?_fields (by simp) readable, newline]
      have several : fieldTokens (first :: others) ≠ [.mark '\x7d'] := by
        cases others <;> simp [fieldTokens]
      rw [Option.map_some, Option.map_some, List.append_nil]
      change (if fieldTokens (first :: others) = [.mark '\x7d'] then some []
        else fields? (fieldTokens (first :: others))) = _
      rw [if_neg several, fields?_fieldTokens (by simp) readable]

/-- Blanks between tokens do not matter. -/
example : object? "\x7b \"size\" : -12,\n\"on\":true \x7d".toList =
    some [("size", .integer (-12)), ("on", .boolean true)] := by
  rfl

end ProxyLauncher.Http.Json
