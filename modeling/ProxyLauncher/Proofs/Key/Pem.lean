import Mathlib.Data.List.Chain
import Mathlib.Data.Option.Basic
import ProxyLauncher.Key.Contents
import ProxyLauncher.Proofs.Attempt
import ProxyLauncher.Proofs.Key.Base64

/-!
# Writing PEM blocks

A block stands between its two marks, and its contents stand there as lines of
Base64.  How wide the lines are and how they end makes no difference, and nor
does what stands around the block, as long as no dash in it can be taken for
the beginning of a mark.

No line is empty, so no two line breaks follow each other.  This is what keeps
the reader from taking the first lines for headers.
-/

namespace ProxyLauncher.Key.Pem

open Text

/-! ## Marks -/

section Mark

variable {first : UInt8} {others : Bytes}

/-- What does not begin the mark is passed over. -/
theorem passMark?_skip {before : Bytes} (absent : first ∉ before) (passed : Nat) (rest : Bytes) :
    passMark? (first :: others) passed (first :: others) (before ++ rest) =
      passMark? (first :: others) (passed + before.length) (first :: others) rest := by
  induction before generalizing passed with
  | nil => rfl
  | cons byte before ih =>
      rw [List.mem_cons, not_or] at absent
      have differs : byte ≠ first := fun same => absent.1 same.symm
      have skipped :
          passMark? (first :: others) passed (first :: others) (byte :: (before ++ rest)) =
            passMark? (first :: others) (passed + 1) (first :: others) (before ++ rest) := by
        cases others with
        | nil => rw [passMark?, if_neg differs]
        | cons next more => rw [passMark?, if_neg differs]
      rw [List.cons_append, skipped, ih absent.2, List.length_cons, Nat.add_right_comm,
        Nat.add_assoc]

theorem passMark?_through (mark : Bytes) {left : Bytes} (nonempty : left ≠ []) (passed : Nat)
    (rest : Bytes) :
    passMark? mark passed left (left ++ rest) = some (passed + left.length, rest) := by
  induction left generalizing passed with
  | nil => contradiction
  | cons byte left ih =>
      cases left with
      | nil => simp [passMark?]
      | cons next more =>
          rw [List.cons_append, List.cons_append, passMark?, if_pos rfl, ← List.cons_append,
            ih (List.cons_ne_nil _ _), List.length_cons]
          congr 2
          simp only [List.length_cons]
          omega

/-- The input is cut at the mark when nothing before it begins the mark. -/
theorem cutAt?_append {mark before : Bytes} (begins : mark.head? = some first)
    (absent : first ∉ before) (rest : Bytes) :
    cutAt? mark (before ++ (mark ++ rest)) = some (before, rest) := by
  obtain ⟨others, rfl⟩ := List.head?_eq_some_iff.mp begins
  rw [cutAt?, passMark?_skip absent, passMark?_through _ (List.cons_ne_nil _ _)]
  simp

theorem cutAt?_eq_none {mark input : Bytes} (begins : mark.head? = some first)
    (absent : first ∉ input) : cutAt? mark input = none := by
  obtain ⟨others, rfl⟩ := List.head?_eq_some_iff.mp begins
  have passed : passMark? (first :: others) 0 (first :: others) (input ++ []) = none :=
    (passMark?_skip absent 0 []).trans rfl
  rw [List.append_nil] at passed
  rw [cutAt?, passed]
  rfl

end Mark

/-- A mark is only found where it stands.  While it is looked for, `begun` is the part of it that
has been passed and `left` the part that is still to come. -/
theorem isInfix_of_passMark? {mark left input rest : Bytes} {passed reached : Nat}
    (found : passMark? mark passed left input = some (reached, rest)) (begun : Bytes)
    (markEq : mark = begun ++ left) : mark <:+: begun ++ input := by
  have behind (before : Bytes) (byte : UInt8) (after : Bytes) :
      after <:+: before ++ byte :: after :=
    ⟨before ++ [byte], [], by simp⟩
  fun_induction passMark? mark passed left input generalizing begun with
  | case1 => contradiction
  | case2 passed byte after ih => exact (ih found [] rfl).trans (behind begun byte after)
  | case3 passed last after => exact ⟨[], after, by simp [markEq]⟩
  | case4 passed last byte after differs ih =>
      exact (ih found [] rfl).trans (behind begun byte after)
  | case5 passed next more byte after ih =>
      have later := ih found (begun ++ [byte]) (by simp [markEq])
      simpa using later
  | case6 passed expected next more byte after differs ih =>
      exact (ih found [] rfl).trans (behind begun byte after)

theorem cutAt?_eq_none_of_not_isInfix {mark input : Bytes} (absent : ¬ mark <:+: input) :
    cutAt? mark input = none := by
  rw [cutAt?, Option.map_eq_none_iff]
  cases found : passMark? mark 0 mark input with
  | none => rfl
  | some reached => exact absurd (isInfix_of_passMark? found [] rfl) absent

/-! ## Lines -/

/-- The byte that begins every mark. -/
def dash : UInt8 := 0x2D

/-- A line of written characters, with blanks and a line break behind them. -/
structure Line where
  chunk : List Char
  blanks : Bytes
  lineBreak : Bytes
  nonempty : chunk ≠ []
  written : ∀ character ∈ chunk, Base64.isWritten character = true
  areBlanks : ∀ byte ∈ blanks, byte = 0x20 ∨ byte = 0x09
  isBreak : lineBreak ∈ [[0x0A], [0x0D, 0x0A], [0x0D]]

/-- The bytes of a line. -/
def Line.bytes (line : Line) : Bytes :=
  line.chunk.flatMap encodeCharacter ++ (line.blanks ++ line.lineBreak)

/-- The bytes of lines. -/
def linesBytes (lines : List Line) : Bytes :=
  lines.flatMap Line.bytes

/-- Written characters on lines of 64. -/
def breakLines (text : List Char)
    (written : ∀ character ∈ text, Base64.isWritten character = true) : List Line :=
  if empty : text = [] then []
  else
    { chunk := text.take 64
      blanks := []
      lineBreak := [0x0A]
      nonempty := by simpa using empty
      written := fun character member => written character (List.mem_of_mem_take member)
      areBlanks := by simp
      isBreak := by simp } ::
      breakLines (text.drop 64) fun character member =>
        written character (List.mem_of_mem_drop member)
termination_by text.length
decreasing_by
  have nonempty := List.length_pos_iff.mpr empty
  rw [List.length_drop]
  omega

/-- Breaking lines loses nothing. -/
theorem flatMap_chunk_breakLines (text : List Char)
    (written : ∀ character ∈ text, Base64.isWritten character = true) :
    (breakLines text written).flatMap Line.chunk = text := by
  fun_induction breakLines text written with
  | case1 => rfl
  | case2 text written nonempty ih => rw [List.flatMap_cons, ih, List.take_append_drop]

/-- The byte that a written character takes is no dash and no white space. -/
theorem byte_of_isWritten {character : Char} (written : Base64.isWritten character = true) :
    encodeCharacter character = [UInt8.ofNat character.toNat] ∧
      UInt8.ofNat character.toNat ∉ [dash, 0x20, 0x09, 0x0A, 0x0D] := by
  have every : (Base64.pad :: Base64.alphabet).all fun character =>
      encodeCharacter character = [UInt8.ofNat character.toNat] ∧
        UInt8.ofNat character.toNat ∉ [dash, 0x20, 0x09, 0x0A, 0x0D] := by
    decide +kernel
  have member : character ∈ Base64.pad :: Base64.alphabet := by
    simpa [Base64.isWritten] using written
  exact of_decide_eq_true (List.all_eq_true.mp every character member)

theorem not_mem_of_mem_chunk {line : Line} :
    ∀ byte ∈ line.chunk.flatMap encodeCharacter, byte ∉ [dash, 0x20, 0x09, 0x0A, 0x0D] := by
  intro byte member
  obtain ⟨character, ofChunk, ofCharacter⟩ := List.mem_flatMap.mp member
  obtain ⟨single, apart⟩ := byte_of_isWritten (line.written character ofChunk)
  rw [single, List.mem_singleton] at ofCharacter
  exact ofCharacter ▸ apart

theorem dash_not_mem_line (line : Line) : dash ∉ line.bytes := by
  intro member
  rcases List.mem_append.mp member with ofChunk | ofEnd
  · exact not_mem_of_mem_chunk dash ofChunk List.mem_cons_self
  · rcases List.mem_append.mp ofEnd with ofBlanks | ofBreak
    · rcases line.areBlanks dash ofBlanks with same | same <;> exact absurd same (by decide)
    · have every : ∀ lineBreak ∈ [[0x0A], [0x0D, 0x0A], [0x0D]], dash ∉ lineBreak := by decide
      exact every line.lineBreak line.isBreak ofBreak

theorem dash_not_mem_lines (lines : List Line) : dash ∉ linesBytes lines := by
  intro member
  obtain ⟨line, _, ofLine⟩ := List.mem_flatMap.mp member
  exact dash_not_mem_line line ofLine

/-- Lines begin with a written character. -/
theorem head?_linesBytes {lines : List Line} :
    ∀ byte ∈ (linesBytes lines).head?, byte ∉ [dash, 0x20, 0x09, 0x0A, 0x0D] := by
  cases lines with
  | nil => simp [linesBytes]
  | cons line rest =>
      obtain ⟨character, others, chunkEq⟩ := List.exists_cons_of_ne_nil line.nonempty
      have isWritten := line.written character (by simp [chunkEq])
      obtain ⟨single, apart⟩ := byte_of_isWritten isWritten
      intro byte isHead
      simp only [linesBytes, List.flatMap_cons, Line.bytes, chunkEq, single, List.cons_append,
        List.head?_cons, Option.mem_some_iff] at isHead
      exact isHead ▸ apart

/-! ## No empty line -/

/-- Behind a line break no other one begins. -/
def Apart (byte next : UInt8) : Prop :=
  byte = 0x0A → next ≠ 0x0A ∧ next ≠ 0x0D

theorem isChain_append {front after : Bytes} (plain : 0x0A ∉ front)
    (chain : List.IsChain Apart after) : List.IsChain Apart (front ++ after) := by
  induction front with
  | nil => exact chain
  | cons byte front ih =>
      rw [List.mem_cons, not_or] at plain
      rw [List.cons_append, List.isChain_cons]
      exact ⟨fun _ _ breaks => absurd breaks.symm plain.1, ih plain.2⟩

/-- A line has a line feed at its very end, or none. -/
theorem Line.bytes_cases (line : Line) :
    (∃ front, 0x0A ∉ front ∧ line.bytes = front ++ [0x0A]) ∨ 0x0A ∉ line.bytes := by
  have plain : 0x0A ∉ line.chunk.flatMap encodeCharacter ++ line.blanks := by
    intro member
    rcases List.mem_append.mp member with ofChunk | ofBlanks
    · exact not_mem_of_mem_chunk 0x0A ofChunk (by decide)
    · rcases line.areBlanks 0x0A ofBlanks with same | same <;> exact absurd same (by decide)
  have isBreak := line.isBreak
  simp only [List.mem_cons, List.not_mem_nil, or_false] at isBreak
  rw [Line.bytes, ← List.append_assoc]
  generalize line.chunk.flatMap encodeCharacter ++ line.blanks = front at plain
  rcases isBreak with feed | both | carriage
  · exact .inl ⟨front, plain, by rw [feed]⟩
  · exact .inl ⟨front ++ [0x0D], by simpa using plain, by rw [both]; simp⟩
  · right
    rw [carriage]
    simpa using plain

theorem isChain_linesBytes (lines : List Line) : List.IsChain Apart (linesBytes lines) := by
  induction lines with
  | nil => exact .nil
  | cons line rest ih =>
      rw [linesBytes, List.flatMap_cons, ← linesBytes]
      rcases line.bytes_cases with ⟨front, plain, bytesEq⟩ | plain
      · rw [bytesEq, List.append_assoc]
        apply isChain_append plain
        rw [List.singleton_append, List.isChain_cons]
        refine ⟨fun next isHead _ => ?_, ih⟩
        have apart := head?_linesBytes next isHead
        simp only [List.mem_cons, not_or] at apart
        exact ⟨apart.2.2.2.1, apart.2.2.2.2.1⟩
      · exact isChain_append plain ih

theorem isChain_of_isInfix {inner bytes : Bytes} (inside : inner <:+: bytes)
    (chain : List.IsChain Apart bytes) : List.IsChain Apart inner := by
  obtain ⟨before, after, rfl⟩ := inside
  exact chain.left_of_append.right_of_append

/-- Lines are not taken for headers. -/
theorem splitHeaders_linesBytes (lines : List Line) :
    splitHeaders (linesBytes lines) = ([], linesBytes lines) := by
  have feeds : ¬ [0x0A, 0x0A] <:+: linesBytes lines := by
    intro inside
    have chain := isChain_of_isInfix inside (isChain_linesBytes lines)
    simp [Apart] at chain
  have both : ¬ [0x0D, 0x0A, 0x0D, 0x0A] <:+: linesBytes lines := by
    intro inside
    have chain := isChain_of_isInfix inside (isChain_linesBytes lines)
    simp [Apart] at chain
  rw [splitHeaders, cutAt?_eq_none_of_not_isInfix feeds, cutAt?_eq_none_of_not_isInfix both]

/-! ## The text of lines -/

/-- The character of a byte that stands for itself. -/
def characterOf (byte : UInt8) : Char :=
  Char.ofNat byte.toNat

theorem decodeUtf8?_of_plain {bytes : Bytes} (plain : ∀ byte ∈ bytes, byte.toNat < 0x80) :
    decodeUtf8? bytes = some (bytes.map characterOf) := by
  induction bytes with
  | nil => rfl
  | cons byte rest ih =>
      unfold decodeUtf8?
      rw [if_pos (plain byte List.mem_cons_self),
        ih fun later member => plain later (List.mem_cons_of_mem byte member)]
      rfl

/-- A written character comes back from its byte, and it means something. -/
theorem map_encodeCharacter {character : Char} (written : Base64.isWritten character = true) :
    (encodeCharacter character).map characterOf = [character] ∧
      ∀ byte ∈ encodeCharacter character, byte.toNat < 0x80 := by
  have plain := (Base64.plain_of_isWritten written).1
  have small : (UInt8.ofNat character.toNat).toNat = character.toNat := by
    rw [UInt8.toNat_ofNat']
    exact Nat.mod_eq_of_lt (by omega)
  rw [(byte_of_isWritten written).1]
  simp only [List.map_cons, List.map_nil, List.mem_singleton, forall_eq, characterOf, small]
  exact ⟨by rw [Char.ofNat_toNat], plain⟩

theorem blank_of_mem_break {lineBreak : Bytes}
    (isBreak : lineBreak ∈ [[0x0A], [0x0D, 0x0A], [0x0D]]) :
    ∀ byte ∈ lineBreak, byte.toNat < 0x80 ∧ isBlank (characterOf byte) = true := by
  have every : [[0x0A], [0x0D, 0x0A], [0x0D]].all fun lineBreak => lineBreak.all fun byte =>
      byte.toNat < 0x80 && isBlank (characterOf byte) := by
    decide
  intro byte member
  simpa using List.all_eq_true.mp (List.all_eq_true.mp every lineBreak isBreak) byte member

/-- What stands behind the chunk of a line is blank. -/
theorem Line.blank_of_mem_end (line : Line) :
    ∀ byte ∈ line.blanks ++ line.lineBreak,
      byte.toNat < 0x80 ∧ isBlank (characterOf byte) = true := by
  intro byte member
  rcases List.mem_append.mp member with ofBlanks | ofBreak
  · rcases line.areBlanks byte ofBlanks with rfl | rfl <;> decide
  · exact blank_of_mem_break line.isBreak byte ofBreak

theorem Line.plain (line : Line) : ∀ byte ∈ line.bytes, byte.toNat < 0x80 := by
  intro byte member
  rcases List.mem_append.mp member with ofChunk | ofEnd
  · obtain ⟨character, ofLine, ofCharacter⟩ := List.mem_flatMap.mp ofChunk
    exact (map_encodeCharacter (line.written character ofLine)).2 byte ofCharacter
  · exact (line.blank_of_mem_end byte ofEnd).1

/-- Without white space the chunk of a line is left. -/
theorem Line.filter_bytes (line : Line) :
    (line.bytes.map characterOf).filter (fun character => !isBlank character) = line.chunk := by
  have chunk : (line.chunk.flatMap encodeCharacter).map characterOf = line.chunk := by
    rw [List.map_flatMap, List.flatMap_congr fun character member =>
      (map_encodeCharacter (line.written character member)).1]
    simp
  have kept : line.chunk.filter (fun character => !isBlank character) = line.chunk := by
    apply List.filter_eq_self.mpr
    intro character member
    simp [(Base64.plain_of_isWritten (line.written character member)).2]
  have dropped : ((line.blanks ++ line.lineBreak).map characterOf).filter
      (fun character => !isBlank character) = [] := by
    apply List.filter_eq_nil_iff.mpr
    intro character member
    obtain ⟨byte, ofEnd, rfl⟩ := List.mem_map.mp member
    simp [(line.blank_of_mem_end byte ofEnd).2]
  rw [Line.bytes, List.map_append, List.filter_append, chunk, kept, dropped, List.append_nil]

theorem plain_linesBytes (lines : List Line) : ∀ byte ∈ linesBytes lines, byte.toNat < 0x80 := by
  intro byte member
  obtain ⟨line, _, ofLine⟩ := List.mem_flatMap.mp member
  exact line.plain byte ofLine

/-- Without white space the chunks of the lines are left, one behind the other. -/
theorem filter_linesBytes (lines : List Line) :
    ((linesBytes lines).map characterOf).filter (fun character => !isBlank character) =
      lines.flatMap Line.chunk := by
  induction lines with
  | nil => rfl
  | cons line rest ih =>
      rw [linesBytes, List.flatMap_cons, ← linesBytes, List.map_append, List.filter_append,
        line.filter_bytes, ih, List.flatMap_cons]

/-! ## Blocks -/

/-- White space between the label of a block and its lines. -/
def isSpace (byte : UInt8) : Bool :=
  byte = 0x20 || byte = 0x09 || byte = 0x0A || byte = 0x0D

theorem not_isSpace {byte : UInt8} (apart : byte ∉ [dash, 0x20, 0x09, 0x0A, 0x0D]) :
    isSpace byte = false := by
  simp only [List.mem_cons, List.not_mem_nil, or_false, not_or] at apart
  simp [isSpace, apart]

theorem skipSpace_append {gap rest : Bytes} (spaces : ∀ byte ∈ gap, isSpace byte = true)
    (begins : ∀ byte ∈ rest.head?, isSpace byte = false) : skipSpace (gap ++ rest) = rest := by
  change (gap ++ rest).dropWhile isSpace = rest
  rw [List.dropWhile_append_of_pos spaces]
  cases rest with
  | nil => rfl
  | cons byte rest => simp [begins byte rfl]

theorem not_mem_skipSpace {byte : UInt8} {input : Bytes} (absent : byte ∉ input) :
    byte ∉ skipSpace input :=
  fun member => absent ((List.dropWhile_sublist _).subset member)

/-- The bytes of a label. -/
def labelBytes (label : Label) : Bytes :=
  encodeUtf8 label.text

theorem dash_not_mem_labelBytes (label : Label) : dash ∉ labelBytes label := by
  cases label <;> decide +kernel

/-- A label reads back from its bytes. -/
theorem decodeUtf8?_labelBytes (label : Label) :
    decodeUtf8? (labelBytes label) = some label.text.toList := by
  cases label <;> decide +kernel

theorem text_ne_nil (label : Label) : label.text.toList ≠ [] := by
  cases label <;> decide

/-- A label is known by its text. -/
theorem ofText?_text (label : Label) : Label.ofText? label.text.toList = some label := by
  cases label <;> decide +kernel

/-- A file with one block: what stands before it, white space behind its label, its lines, and
what follows it. -/
structure Armour (label : Label) (contents : Bytes) where
  preamble : Bytes
  gap : Bytes
  lines : List Line
  trailer : Bytes
  preambleFree : dash ∉ preamble
  gapBlank : ∀ byte ∈ gap, isSpace byte = true
  carries : lines.flatMap Line.chunk = Base64.encode contents
  trailerFree : dash ∉ trailer

namespace Armour

variable {label : Label} {contents : Bytes}

/-- A block the way files are written: after some text, on lines of 64 characters. -/
def ofContents (label : Label) (contents preamble : Bytes) (preambleFree : dash ∉ preamble) :
    Armour label contents where
  preamble := preamble
  gap := [0x0A]
  lines := breakLines (Base64.encode contents) Base64.isWritten_of_mem_encode
  trailer := [0x0A]
  preambleFree := preambleFree
  gapBlank := by simp [isSpace]
  carries := flatMap_chunk_breakLines _ _
  trailerFree := by decide

/-- The bytes of the file. -/
def bytes (armour : Armour label contents) : Bytes :=
  armour.preamble ++ (beginMark ++ (labelBytes label ++ (labelMark ++ (armour.gap ++
    (linesBytes armour.lines ++ (endMark ++ (labelBytes label ++ (labelMark ++
      armour.trailer))))))))

/-- The block as it stands in the file. -/
def frame (armour : Armour label contents) : Frame :=
  ⟨labelBytes label, linesBytes armour.lines, labelBytes label⟩

/-- Every mark begins with a dash. -/
theorem head?_marks : beginMark.head? = some dash ∧ endMark.head? = some dash ∧
    labelMark.head? = some dash := by
  decide +kernel

theorem nextFrame?_bytes (armour : Armour label contents) :
    nextFrame? armour.bytes = some (armour.frame, skipSpace armour.trailer) := by
  obtain ⟨beginMarkHead, endMarkHead, labelMarkHead⟩ := head?_marks
  have labelFree := dash_not_mem_labelBytes label
  have linesBegin : ∀ byte ∈ (linesBytes armour.lines ++ (endMark ++ (labelBytes label ++
      (labelMark ++ armour.trailer)))).head?, isSpace byte = false := by
    intro byte isHead
    rw [List.head?_append, List.head?_append, endMarkHead] at isHead
    cases first : (linesBytes armour.lines).head? with
    | none =>
        rw [first] at isHead
        cases isHead
        rfl
    | some next =>
        rw [first] at isHead
        cases isHead
        exact not_isSpace (head?_linesBytes byte first)
  simp only [nextFrame?, bytes, cutAt?_append beginMarkHead armour.preambleFree,
    cutAt?_append labelMarkHead labelFree, skipSpace_append armour.gapBlank linesBegin,
    cutAt?_append endMarkHead (dash_not_mem_lines armour.lines), Option.bind_some,
    Option.map_some, frame]

theorem frames_bytes (armour : Armour label contents) : frames armour.bytes = [armour.frame] := by
  have nothing : nextFrame? (skipSpace armour.trailer) = none := by
    rw [nextFrame?, cutAt?_eq_none head?_marks.1 (not_mem_skipSpace armour.trailerFree)]
    rfl
  have after : frames (skipSpace armour.trailer) = [] := by
    rw [frames]
    split
    case h_1 found => rw [nothing] at found; cases found
    case h_2 => rfl
  rw [frames]
  split
  case h_1 frame rest found =>
    rw [nextFrame?_bytes] at found
    cases found
    rw [after]
  case h_2 found =>
    rw [nextFrame?_bytes] at found
    cases found

/-- The block is read with its contents. -/
theorem block?_frame (armour : Armour label contents) :
    armour.frame.block? = some ⟨label.text.toList, [], contents⟩ := by
  have labelRead := decodeUtf8?_labelBytes label
  have bodyRead := decodeUtf8?_of_plain (plain_linesBytes armour.lines)
  have contentsRead : Base64.decode? (((linesBytes armour.lines).map characterOf).filter
      fun character => !isBlank character) = some contents := by
    rw [filter_linesBytes, armour.carries, Base64.decode?_encode]
  have headersRead : (linesOf []).mapM readHeader? = some [] := rfl
  have nothingRead : decodeUtf8? [] = some [] := rfl
  simp only [Frame.block?, frame, labelRead, splitHeaders_linesBytes, bodyRead, contentsRead,
    nothingRead, headersRead, Option.bind_eq_bind, Option.bind_some]
  simp [text_ne_nil label]

/-- The file decodes as its label says. -/
theorem decodeFile_bytes (armour : Armour label contents) :
    decodeFile armour.bytes = label.decode contents := by
  have read : blocks? armour.bytes = some [⟨label.text.toList, [], contents⟩] := by
    simp [blocks?, armour.frames_bytes, armour.block?_frame]
  have first : firstKeyBlock? [⟨label.text.toList, [], contents⟩] =
      some (label, ⟨label.text.toList, [], contents⟩) := by
    simp [firstKeyBlock?, ofText?_text label]
  have notEncrypted : checkEncryption ⟨label.text.toList, [], contents⟩ = .ok () := rfl
  simp only [decodeFile, read, wellFormed, ok_bind, first, notEncrypted]

end Armour

end ProxyLauncher.Key.Pem
