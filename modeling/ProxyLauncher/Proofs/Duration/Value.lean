import ProxyLauncher.CommandLine.Reading
import ProxyLauncher.Config.Environment
import ProxyLauncher.Proofs.Duration.Reading
import ProxyLauncher.Proofs.Number.Size

/-!
# What durations are worth

A text is read exactly when it is a duration, and as the seconds that it is.
What is added up on the way are sizes, so the sum is never the value that is no
number: a sum that is not too long is finite, and the reader need not ask.

The flag and the variable of the timeout read durations and nothing else.
-/

namespace ProxyLauncher

open Number

/-- The length of a unit is a finite number above zero. -/
theorem TimeUnit.exists_seconds (unit : TimeUnit) :
    ∃ mantissa exponent, 0 < mantissa ∧ unit.seconds = .finite false mantissa exponent := by
  cases unit with
  | nanosecond => exact ⟨4835703278458517, -82, by decide, by decide +kernel⟩
  | microsecond => exact ⟨4722366482869645, -72, by decide, by decide +kernel⟩
  | millisecond => exact ⟨4611686018427388, -62, by decide, by decide +kernel⟩
  | second => exact ⟨4503599627370496, -52, by decide, by decide +kernel⟩
  | minute => exact ⟨8444249301319680, -47, by decide, by decide +kernel⟩
  | hour => exact ⟨7916483719987200, -41, by decide, by decide +kernel⟩

namespace Duration

open Integer

/-! ## Sums -/

theorem WrittenGroup.isSize_seconds (group : WrittenGroup) : group.seconds.IsSize := by
  obtain ⟨mantissa, exponent, positive, secondsEq⟩ := group.unit.exists_seconds
  rw [WrittenGroup.seconds, secondsEq]
  exact (Binary64.isSize_roundMagnitude group.amount).mul positive exponent

theorem isSize_sum (groups : List WrittenGroup) : (sum groups).IsSize := by
  apply Binary64.isSize_sum _ Binary64.isSize_zeroOf
  intro number member
  obtain ⟨group, _, rfl⟩ := List.mem_map.mp member
  exact group.isSize_seconds

/-- A sum is usable when it is finite and not beyond the longest duration. -/
theorem withinBounds_sum_iff {groups : List WrittenGroup} :
    withinBounds (sum groups) = true ↔
      (sum groups).isFinite = true ∧ longest.less (sum groups) = false := by
  rw [(isSize_sum groups).isFinite_iff, withinBounds, Bool.and_eq_true, Bool.not_eq_true',
    Bool.not_eq_true']

theorem total_eq_sum {groups : List Group} {written : List WrittenGroup}
    (same : groups.map Group.seconds = written.map WrittenGroup.seconds) :
    total groups = sum written := by
  rw [sum, ← same, List.foldl_map]
  rfl

/-! ## Reading a duration -/

theorem written_ne_nil {groups : List WrittenGroup} (nonempty : groups ≠ []) :
    written groups ≠ [] := by
  intro empty
  exact nonempty (written_injective empty)

/-- A group takes two characters at least, one for its amount and one for its unit. -/
theorem written_ne_zero (groups : List WrittenGroup) : written groups ≠ ['0'] := by
  intro single
  cases groups with
  | nil => contradiction
  | cons first rest =>
      have number := List.length_pos_iff.mpr first.isAmount.ne_nil
      have spelling := List.length_pos_iff.mpr (spelling_ne_nil first.isSpelling)
      have length := congrArg List.length single
      rw [written, List.flatMap_cons, WrittenGroup.text, List.length_append, List.length_append,
        List.length_singleton] at length
      omega

theorem denotes_of_readList? {text : List Char} {seconds : Binary64}
    (reads : readList? text = some seconds) : Denotes text seconds := by
  have isSigned := signed_splitSign text
  unfold readList? at reads
  generalize splitSign text = split at reads isSigned
  obtain ⟨negative, unsigned⟩ := split
  dsimp only at reads isSigned
  split at reads
  case isTrue lone =>
    cases reads
    rw [lone] at isSigned
    exact .zero isSigned
  case isFalse =>
    split at reads
    case isTrue => contradiction
    case isFalse present =>
      split at reads
      case h_2 => contradiction
      case h_1 groups found =>
        obtain ⟨written, rfl, secondsEq⟩ := exists_written_of_readGroups? found
        rw [total_eq_sum secondsEq] at reads
        split at reads
        case isFalse => contradiction
        case isTrue within =>
          cases reads
          obtain ⟨finite, bounded⟩ := withinBounds_sum_iff.mp within
          have nonempty : written ≠ [] := by
            rintro rfl
            exact present rfl
          exact .sum isSigned nonempty finite bounded

/-- A text that is made of groups is read as their sum, with its sign, if the sum is usable. -/
theorem readList?_of_signed {text : List Char} {negative : Bool} {groups : List WrittenGroup}
    (isSigned : Signed text negative (written groups)) (nonempty : groups ≠ []) :
    readList? text =
      if withinBounds (sum groups) then
        some (if negative then (sum groups).negate else sum groups)
      else none := by
  obtain ⟨found, reads, secondsEq⟩ := readGroups?_written groups
  unfold readList?
  rw [isSigned.splitSign_eq (unsigned_written groups)]
  dsimp only
  rw [if_neg (written_ne_zero groups), if_neg (by simpa using written_ne_nil nonempty), reads]
  dsimp only
  rw [total_eq_sum secondsEq]

theorem readList?_of_denotes {text : List Char} {seconds : Binary64}
    (denotes : Denotes text seconds) : readList? text = some seconds := by
  cases denotes with
  | zero isSigned =>
      have unsigned : ∀ character, ['0'].head? = some character → isSign character = false := by
        rintro character ⟨⟩
        rfl
      unfold readList?
      rw [isSigned.splitSign_eq unsigned]
      rfl
  | @sum negative groups isSigned nonempty finite bounded =>
      rw [readList?_of_signed isSigned nonempty,
        if_pos (withinBounds_sum_iff.mpr ⟨finite, bounded⟩)]

/-- A text is read as the seconds that it is. -/
theorem read?_eq_some_iff {text : String} {seconds : Binary64} :
    read? text = some seconds ↔ Denotes text.toList seconds :=
  ⟨denotes_of_readList?, readList?_of_denotes⟩

/-- The law of reading a text as a duration. -/
structure GrammarLaw (text : String) : Prop where
  /-- The text is read exactly when it is a duration, and as the seconds that it is. -/
  reads : ∀ seconds, read text = .ok seconds ↔ Denotes text.toList seconds
  /-- Any other text is refused, and the complaint shows all of it between quotation marks. -/
  refuses : ∀ complaint, read text = .error complaint ↔
    (¬ ∃ seconds, Denotes text.toList seconds) ∧
      complaint = "invalid duration " ++ Text.quoted text
  /-- The text has one sign and is made of groups in one way, if it is made of groups at all. -/
  unique : ∀ {negative other : Bool} {groups others : List WrittenGroup},
    Signed text.toList negative (written groups) → Signed text.toList other (written others) →
      negative = other ∧ groups = others
  /-- The flag of the timeout reads durations and passes the complaint on. -/
  flag : (CommandLine.convertTimeout text).mapError CommandLine.Rejection.message =
    (read text).mapError (CommandLine.Rejection.aboutFlag .timeout)
  /-- The variable of the timeout reads durations and has a complaint of its own. -/
  environment : Config.readTimeout text = (read text).mapError fun _ => .timeoutMalformed text

/-- Every text obeys the law: the reader, which never looks back, misses no duration and takes
nothing else for one. -/
theorem read_grammar (text : String) : GrammarLaw text := by
  constructor
  case reads =>
    intro seconds
    rw [← read?_eq_some_iff, read]
    cases read? text <;> simp
  case refuses =>
    intro complaint
    change _ ↔ _ ∧ complaint = Duration.complaint text
    simp only [← read?_eq_some_iff, read]
    cases read? text <;> simp [eq_comm]
  case unique =>
    intro negative other groups others isSigned isOther
    have same := isSigned.splitSign_eq (unsigned_written groups)
    rw [isOther.splitSign_eq (unsigned_written others)] at same
    cases (Prod.mk.inj same).1
    exact ⟨rfl, written_injective (Prod.mk.inj same).2.symm⟩
  case flag =>
    rw [CommandLine.convertTimeout, read]
    cases read? text <;> rfl
  case environment =>
    rw [Config.readTimeout, read]
    cases read? text <;> rfl

end Duration

end ProxyLauncher
