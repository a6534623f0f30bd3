import ProxyLauncher.Proofs.Config.EnvironmentFaults
import ProxyLauncher.Proofs.Duration.Value

/-!
# Which complaint an environment gets

Two texts of an environment can be complained about, and both by their
characters alone: a port that is not digits behind at most one sign, and a
timeout that is no duration.  The port comes first.  A timeout is complained
about only when nothing is wrong with the port.

A text that is never read cannot be wrong: that of a setting which already has a
value from elsewhere, and those of the other settings.

All this is for ports of no more digits than are converted.
-/

namespace ProxyLauncher.Config

open Number Number.Integer

/-! ## Ports as texts -/

/-- A text is ASCII digits from end to end, behind at most one sign. -/
def IsPlain (text : String) : Prop :=
  ∃ negative digits, Signed text.toList negative digits ∧ IsNumeral digits

section Plain

variable {text : String}

/-- Blanks, line ends, underscores, letters and digits of other scripts stand nowhere. -/
theorem IsPlain.characters (plain : IsPlain text) :
    ∀ character ∈ text.toList, isSign character = true ∨ isAsciiDigit character = true := by
  intro character member
  obtain ⟨negative, digits, isSigned, numeral⟩ := plain
  generalize text.toList = characters at isSigned member
  cases isSigned with
  | bare => exact .inr (numeral.2 character member)
  | plus =>
      rcases List.mem_cons.mp member with rfl | later
      · exact .inl rfl
      · exact .inr (numeral.2 character later)
  | minus =>
      rcases List.mem_cons.mp member with rfl | later
      · exact .inl rfl
      · exact .inr (numeral.2 character later)

/-- The digits behind a sign are all among the characters of the text. -/
theorem length_le_countP {characters digits : List Char} {negative : Bool}
    (isSigned : Signed characters negative digits) (numeral : IsNumeral digits) :
    digits.length ≤ characters.countP isAsciiDigit := by
  have all : digits.countP isAsciiDigit = digits.length := List.countP_eq_length.mpr numeral.2
  rw [← all]
  cases isSigned with
  | bare => exact Nat.le_refl _
  | plus => exact (List.sublist_cons_self '+' digits).countP_le
  | minus => exact (List.sublist_cons_self '-' digits).countP_le

theorem not_overlong_of_few {characters : List Char} {count : Nat}
    (few : characters.countP isAsciiDigit ≤ digitLimit) : ¬ Overlong characters count := by
  rintro ⟨isSigned, numeral, long⟩
  have within := length_le_countP isSigned numeral
  omega

/-- A port of few digits is read exactly when it is plain. -/
theorem exists_readPort_iff (few : text.toList.countP isAsciiDigit ≤ digitLimit) :
    (∃ port, readPort text = .ok port) ↔ IsPlain text := by
  rw [IsPlain, ← exists_spells_iff]
  constructor
  · rintro ⟨port, reads⟩
    by_contra none
    have malformed := readPort_eq_malformed_iff.mpr ⟨rfl, not_exists.mp none⟩
    rw [reads] at malformed
    cases malformed
  · rintro ⟨value, spells⟩
    cases reads : readPort text with
    | ok port => exact ⟨port, rfl⟩
    | error fault =>
        cases fault with
        | portMalformed named =>
            exact absurd spells ((readPort_eq_malformed_iff.mp reads).2 value)
        | portTooLong digits =>
            exact absurd (readPort_eq_tooLong_iff.mp reads) (not_overlong_of_few few)
        | timeoutMalformed named => exact absurd reads (readPort_ne_timeoutMalformed named)

end Plain

/-! ## What is complained about -/

section Complaints

variable (config : Config) (environment : Environment)

/-- The port is read from a text that is none. -/
structure BadPort (text : String) : Prop where
  named : config.Names environment .port text
  malformed : ¬ IsPlain text

/-- The timeout is read from a text that is none. -/
structure BadTimeout (text : String) : Prop where
  named : config.Names environment .timeout text
  malformed : ¬ ∃ seconds, Duration.Denotes text.toList seconds

/-- If the port is read, its text has no more digits than are converted. -/
def FewDigits : Prop :=
  ∀ text, config.Names environment .port text → text.toList.countP isAsciiDigit ≤ digitLimit

variable {config environment}

theorem read?_eq_none_iff {text : String} :
    Duration.read? text = none ↔ ¬ ∃ seconds, Duration.Denotes text.toList seconds := by
  simp only [← Duration.read?_eq_some_iff]
  cases Duration.read? text <;> simp

theorem soundPort_iff (few : config.FewDigits environment) :
    config.SoundPort environment ↔ ¬ ∃ text, config.BadPort environment text := by
  constructor
  · rintro sound ⟨text, named, malformed⟩
    exact malformed ((exists_readPort_iff (few text named)).mp (sound text named))
  · intro none text named
    rw [exists_readPort_iff (few text named)]
    by_contra malformed
    exact none ⟨text, named, malformed⟩

/-- What is wrong with an environment is a bad port, or a bad timeout and no bad port. -/
theorem blames_iff (few : config.FewDigits environment) {message : String} :
    config.Blames environment message ↔
      (∃ text, config.BadPort environment text ∧ message = "invalid port: " ++ text) ∨
        (¬ ∃ text, config.BadPort environment text) ∧
          ∃ text, config.BadTimeout environment text ∧
            message = "invalid timeout: " ++ text := by
  rw [← soundPort_iff few]
  constructor
  · rintro (⟨named, malformed⟩ | ⟨sound, named, malformed⟩)
    · refine .inl ⟨_, ⟨named, ?_⟩, rfl⟩
      rwa [IsPlain, ← exists_spells_iff, not_exists]
    · exact .inr ⟨sound, _, ⟨named, read?_eq_none_iff.mp malformed⟩, rfl⟩
  · rintro (⟨text, ⟨named, malformed⟩, rfl⟩ | ⟨sound, text, ⟨named, malformed⟩, rfl⟩)
    · rw [IsPlain, ← exists_spells_iff, not_exists] at malformed
      exact .port named malformed
    · exact .timeout sound named (read?_eq_none_iff.mpr malformed)

theorem settles_of_few (few : config.FewDigits environment) : config.Settles environment := by
  rw [settles_iff]
  rintro digits ⟨text, named, overlong⟩
  exact not_overlong_of_few (few text named) overlong

/-- Laying the environment over a configuration never both succeeds and is refused. -/
theorem Refuses.not_ok {message : String} (refused : config.Refuses environment message)
    (result : Config) : config.withEnvironment environment ≠ .ok result := by
  obtain ⟨fault, failed, _⟩ := refused
  rw [failed]
  nofun

/-- Some message is given exactly when one of the two texts is bad. -/
theorem exists_refuses_iff (few : config.FewDigits environment) :
    (∃ message, config.Refuses environment message) ↔
      (∃ text, config.BadPort environment text) ∨
        ∃ text, config.BadTimeout environment text := by
  simp only [refuses_iff, blames_iff few]
  constructor
  · rintro ⟨message, ⟨text, bad, _⟩ | ⟨_, text, bad, _⟩⟩
    · exact .inl ⟨text, bad⟩
    · exact .inr ⟨text, bad⟩
  · intro bad
    by_cases port : ∃ text, config.BadPort environment text
    · obtain ⟨text, badPort⟩ := port
      exact ⟨_, .inl ⟨text, badPort, rfl⟩⟩
    · obtain ⟨text, badTimeout⟩ := bad.resolve_left port
      exact ⟨_, .inr ⟨port, text, badTimeout, rfl⟩⟩

end Complaints

/-! ## The law of complaints -/

/-- Two environments, each over a configuration of its own, have the same texts to be read for the
port and for the timeout. -/
structure SameTexts (config other : Config) (environment otherEnvironment : Environment) :
    Prop where
  port : ∀ text, config.Names environment .port text ↔ other.Names otherEnvironment .port text
  timeout : ∀ text,
    config.Names environment .timeout text ↔ other.Names otherEnvironment .timeout text

section Same

variable {config other : Config} {environment otherEnvironment : Environment}
  (same : SameTexts config other environment otherEnvironment)

include same

theorem SameTexts.badPort_iff (text : String) :
    config.BadPort environment text ↔ other.BadPort otherEnvironment text := by
  constructor
  · exact fun bad => ⟨(same.port text).mp bad.named, bad.malformed⟩
  · exact fun bad => ⟨(same.port text).mpr bad.named, bad.malformed⟩

theorem SameTexts.badTimeout_iff (text : String) :
    config.BadTimeout environment text ↔ other.BadTimeout otherEnvironment text := by
  constructor
  · exact fun bad => ⟨(same.timeout text).mp bad.named, bad.malformed⟩
  · exact fun bad => ⟨(same.timeout text).mpr bad.named, bad.malformed⟩

theorem SameTexts.few (few : config.FewDigits environment) : other.FewDigits otherEnvironment :=
  fun text named => few text ((same.port text).mpr named)

theorem SameTexts.refuses_iff (few : config.FewDigits environment) (message : String) :
    config.Refuses environment message ↔ other.Refuses otherEnvironment message := by
  rw [Config.refuses_iff, Config.refuses_iff, blames_iff few, blames_iff (same.few few)]
  simp only [same.badPort_iff, same.badTimeout_iff]

end Same

/-- Which complaint an environment gets over a configuration, and when it gets none. -/
structure ComplaintLaw (config : Config) (environment : Environment) : Prop where
  /-- There is a complaint exactly when the port or the timeout is bad. -/
  refused_iff : (∃ message, config.Refuses environment message) ↔
    (∃ text, config.BadPort environment text) ∨ ∃ text, config.BadTimeout environment text
  /-- It is about the port whenever that is bad, and otherwise about the timeout, and shows the
  whole text. -/
  message_iff : ∀ message, config.Refuses environment message ↔
    (∃ text, config.BadPort environment text ∧ message = "invalid port: " ++ text) ∨
      (¬ ∃ text, config.BadPort environment text) ∧
        ∃ text, config.BadTimeout environment text ∧ message = "invalid timeout: " ++ text
  /-- Without a complaint there is a configuration: nothing else can go wrong. -/
  accepted_iff : (∃ result, config.withEnvironment environment = .ok result) ↔
    (¬ ∃ text, config.BadPort environment text) ∧
      ¬ ∃ text, config.BadTimeout environment text
  /-- Any character but a sign or an ASCII digit makes a port bad, wherever it stands. -/
  foreign : ∀ text character, config.Names environment .port text → character ∈ text.toList →
    isSign character = false → isAsciiDigit character = false →
      config.Refuses environment ("invalid port: " ++ text)
  /-- No other text makes a difference: not that of another setting, and not that of a setting
  which has a value from elsewhere. -/
  indifferent : ∀ {other : Config} {otherEnvironment : Environment},
    SameTexts config other environment otherEnvironment →
      ∀ message, config.Refuses environment message ↔ other.Refuses otherEnvironment message

/-- Every environment whose port has no more digits than are converted obeys the law, over every
configuration. -/
theorem withEnvironment_complaintLaw {config : Config} {environment : Environment}
    (few : config.FewDigits environment) : ComplaintLaw config environment where
  refused_iff := exists_refuses_iff few
  message_iff message := by rw [refuses_iff, blames_iff few]
  accepted_iff := by
    rw [← not_or, ← exists_refuses_iff few]
    constructor
    · rintro ⟨result, accepted⟩ ⟨message, refused⟩
      exact refused.not_ok result accepted
    · exact (settles_of_few few).resolve_right
  foreign text character named member unsigned undigit := by
    have malformed : ¬ IsPlain text := by
      intro plain
      rcases plain.characters character member with sign | digit
      · rw [unsigned] at sign
        cases sign
      · rw [undigit] at digit
        cases digit
    rw [refuses_iff, blames_iff few]
    exact .inl ⟨text, ⟨named, malformed⟩, rfl⟩
  indifferent same := same.refuses_iff few

/-- An environment in which a line end follows the port, and the timeout has no unit. -/
def slipshodEnvironment : Environment :=
  Environment.ofList [("TESLA_HTTP_PROXY_PORT", "80\n"), ("TESLA_HTTP_PROXY_TIMEOUT", "5")]

/-- The complaint is about the port. -/
theorem withEnvironment_complaintLaw_slipshod :
    Config.default.FewDigits slipshodEnvironment ∧
      Config.default.Refuses slipshodEnvironment "invalid port: 80\n" := by
  have named : Config.default.Names slipshodEnvironment .port "80\n" := ⟨rfl, rfl⟩
  have few : Config.default.FewDigits slipshodEnvironment := by
    rintro text ⟨_, present⟩
    cases named.present.symm.trans present
    decide
  refine ⟨few, ?_⟩
  exact (withEnvironment_complaintLaw few).foreign "80\n" '\n' named (by decide) rfl rfl

end ProxyLauncher.Config
