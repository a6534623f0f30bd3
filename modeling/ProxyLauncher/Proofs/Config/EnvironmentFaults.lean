import ProxyLauncher.Failure
import ProxyLauncher.Proofs.Config.Layers
import ProxyLauncher.Proofs.Number.Overlong

/-!
# What can be wrong with an environment

Only two texts can have a fault: that of the port, which is read first, and that
of the timeout.  `Names` says which texts are read at all, and from it each
fault is told by the text alone.

A text that is no port and a text that is no timeout are refused as a matter of
the configuration.  A port with too many digits is not: it is well formed, and
the conversion fails in a way of its own.  `Settles` is what one would expect of
every environment, and this is all that stands in its way.
-/

namespace ProxyLauncher.Config

open Number Number.Integer

/-- The environment has a text for a setting that no layer above has given. -/
structure Names (config : Config) (environment : Environment) (setting : Setting)
    (text : String) : Prop where
  unset : config.sourceOf setting = .default
  present : environment setting.variableName = some text

theorem variableText_eq_some_iff {config : Config} {environment : Environment}
    {setting : Setting} {text : String} :
    config.variableText environment setting = some text ↔
      config.Names environment setting text := by
  unfold variableText
  constructor
  · intro found
    split at found
    case isTrue unset => exact ⟨unset, found⟩
    case isFalse => cases found
  · rintro ⟨unset, present⟩
    rw [if_pos unset, present]

/-! ## Faults of one text -/

section Text

variable {text : String}

theorem readPort_eq_malformed_iff {named : String} :
    readPort text = .error (.portMalformed named) ↔
      named = text ∧ ∀ value, ¬ Spells text.toList value := by
  rw [← readPlain_eq_malformed_iff]
  unfold readPort
  cases readPlain text.toList with
  | ok port => simp
  | error fault => cases fault <;> simp [eq_comm]

theorem readPort_eq_tooLong_iff {digits : Nat} :
    readPort text = .error (.portTooLong digits) ↔ Overlong text.toList digits := by
  rw [← readPlain_eq_tooManyDigits_iff]
  unfold readPort
  cases readPlain text.toList with
  | ok port => simp
  | error fault => cases fault <;> simp

theorem readTimeout_eq_error_iff {fault : EnvironmentFault} :
    readTimeout text = .error fault ↔
      fault = .timeoutMalformed text ∧ Duration.read? text = none := by
  unfold readTimeout
  cases Duration.read? text <;> simp [eq_comm]

/-- A port has no fault of a timeout. -/
theorem readPort_ne_timeoutMalformed (named : String) :
    readPort text ≠ .error (.timeoutMalformed named) := by
  unfold readPort
  cases readPlain text.toList with
  | ok port => simp
  | error fault => cases fault <;> simp

end Text

/-! ## The first fault -/

section First

variable {texts : Setting → Option String}

theorem faultAt?_host : faultAt? texts .host = none := by
  cases present : texts .host <;> simp [faultAt?, present, readText]

theorem faultAt?_verbose : faultAt? texts .verbose = none := by
  cases present : texts .verbose <;> simp [faultAt?, present, readText]

theorem faultAt?_keyFile : faultAt? texts .keyFile = none := by
  cases present : texts .keyFile <;> simp [faultAt?, present, readText]

/-- The port is read before the timeout, and nothing else can fail. -/
theorem firstFault?_eq (texts : Setting → Option String) :
    firstFault? texts = (faultAt? texts .port).or (faultAt? texts .timeout) := by
  simp only [firstFault?, readingOrder, List.findSome?_cons, List.findSome?_nil,
    faultAt?_host, faultAt?_verbose, faultAt?_keyFile]
  cases faultAt? texts .port with
  | some fault => rfl
  | none => cases faultAt? texts .timeout <;> rfl

theorem faultAt?_port_eq_some_iff {fault : EnvironmentFault} :
    faultAt? texts .port = some fault ↔
      ∃ text, texts .port = some text ∧ readPort text = .error fault := by
  simp only [faultAt?_eq_some_iff, readText, map_eq_error_iff]

theorem faultAt?_timeout_eq_some_iff {fault : EnvironmentFault} :
    faultAt? texts .timeout = some fault ↔
      ∃ text, texts .timeout = some text ∧ readTimeout text = .error fault := by
  simp only [faultAt?_eq_some_iff, readText, map_eq_error_iff]

end First

/-! ## Outcomes -/

section Outcome

variable {config : Config} {environment : Environment}

theorem withEnvironment_eq_error_iff {fault : EnvironmentFault} :
    config.withEnvironment environment = .error fault ↔
      faultAt? (config.variableText environment) .port = some fault ∨
        faultAt? (config.variableText environment) .port = none ∧
          faultAt? (config.variableText environment) .timeout = some fault := by
  rw [withEnvironment_eq, firstFault?_eq, ← Option.or_eq_some_iff]
  cases (faultAt? (config.variableText environment) .port).or
    (faultAt? (config.variableText environment) .timeout) <;> simp

variable (config environment)

/-- Laying the environment over the configuration is refused as a matter of the configuration. -/
def Refuses (message : String) : Prop :=
  ∃ fault, config.withEnvironment environment = .error fault ∧
    fault.toFailure = .configuration message

/-- Laying the environment over the configuration gives a configuration or is refused. -/
def Settles : Prop :=
  (∃ result, config.withEnvironment environment = .ok result) ∨
    ∃ message, config.Refuses environment message

/-- The text of the port is an integer with more digits than are converted. -/
def OverlongPort (digits : Nat) : Prop :=
  ∃ text, config.Names environment .port text ∧ Overlong text.toList digits

/-- The text of the port, if there is one, can be read. -/
def SoundPort : Prop :=
  ∀ text, config.Names environment .port text → ∃ port, readPort text = .ok port

/-- What is wrong with the environment, by the first text that is not what its setting needs. -/
inductive Blames : String → Prop
  | port {text : String} (named : config.Names environment .port text)
      (malformed : ∀ value, ¬ Spells text.toList value) : Blames ("invalid port: " ++ text)
  | timeout {text : String} (sound : config.SoundPort environment)
      (named : config.Names environment .timeout text)
      (malformed : Duration.read? text = none) : Blames ("invalid timeout: " ++ text)

variable {config environment}

theorem faultAt?_port_eq_none_iff :
    faultAt? (config.variableText environment) .port = none ↔ config.SoundPort environment := by
  constructor
  · intro sound text named
    obtain ⟨assignment, reads⟩ := exists_givenAt? (variableText_eq_some_iff.mpr named) sound
    rcases map_eq_ok_iff.mp reads with ⟨port, reads, _⟩
    exact ⟨port, reads⟩
  · intro sound
    cases found : faultAt? (config.variableText environment) .port with
    | none => rfl
    | some fault =>
        rcases faultAt?_port_eq_some_iff.mp found with ⟨text, present, fails⟩
        rcases sound text (variableText_eq_some_iff.mp present) with ⟨port, reads⟩
        rw [reads] at fails
        cases fails

theorem withEnvironment_eq_tooLong_iff {digits : Nat} :
    config.withEnvironment environment = .error (.portTooLong digits) ↔
      config.OverlongPort environment digits := by
  rw [withEnvironment_eq_error_iff, faultAt?_port_eq_some_iff, faultAt?_timeout_eq_some_iff]
  simp only [variableText_eq_some_iff, readPort_eq_tooLong_iff, readTimeout_eq_error_iff,
    OverlongPort, reduceCtorEq, false_and, and_false, exists_false, or_false]

/-- An environment is refused exactly for what is wrong with it. -/
theorem refuses_iff {message : String} :
    config.Refuses environment message ↔ config.Blames environment message := by
  constructor
  · rintro ⟨fault, failed, messageEq⟩
    rw [withEnvironment_eq_error_iff, faultAt?_port_eq_some_iff, faultAt?_port_eq_none_iff,
      faultAt?_timeout_eq_some_iff] at failed
    simp only [variableText_eq_some_iff, readTimeout_eq_error_iff] at failed
    rcases failed with ⟨text, named, fails⟩ | ⟨sound, text, named, rfl, malformed⟩
    · cases fault with
      | portMalformed malformedText =>
          rcases readPort_eq_malformed_iff.mp fails with ⟨rfl, malformed⟩
          cases messageEq
          exact .port named malformed
      | portTooLong digits => cases messageEq
      | timeoutMalformed malformedText =>
          exact absurd fails (readPort_ne_timeoutMalformed malformedText)
    · cases messageEq
      exact .timeout sound named malformed
  · rintro (⟨named, malformed⟩ | ⟨sound, named, malformed⟩)
    case port text =>
      have fails := readPort_eq_malformed_iff.mpr ⟨rfl, malformed⟩
      refine ⟨.portMalformed text, withEnvironment_eq_error_iff.mpr (.inl ?_), rfl⟩
      exact faultAt?_port_eq_some_iff.mpr ⟨text, variableText_eq_some_iff.mpr named, fails⟩
    case timeout text =>
      have fails := readTimeout_eq_error_iff.mpr ⟨rfl, malformed⟩
      refine ⟨.timeoutMalformed text, withEnvironment_eq_error_iff.mpr (.inr ⟨?_, ?_⟩), rfl⟩
      · exact faultAt?_port_eq_none_iff.mpr sound
      · exact faultAt?_timeout_eq_some_iff.mpr ⟨text, variableText_eq_some_iff.mpr named, fails⟩

/-- Only a port with too many digits keeps an environment from settling. -/
theorem settles_iff :
    config.Settles environment ↔ ∀ digits, ¬ config.OverlongPort environment digits := by
  simp only [← withEnvironment_eq_tooLong_iff]
  unfold Settles Refuses
  cases config.withEnvironment environment with
  | ok result => simp
  | error fault => cases fault <;> simp [EnvironmentFault.toFailure]

end Outcome

/-- The environment whose only variable is a port of 4301 digits. -/
def overlongEnvironment : Environment :=
  Environment.ofList [("TESLA_HTTP_PROXY_PORT", String.ofList (List.replicate 4301 '1'))]

/-- Over the built-in configuration, this environment neither gives a configuration nor is
refused. -/
theorem not_settles_overlongEnvironment : ¬ Config.default.Settles overlongEnvironment := by
  have named : Config.default.Names overlongEnvironment .port
      (String.ofList (List.replicate 4301 '1')) := ⟨rfl, rfl⟩
  have overlong : Overlong (String.ofList (List.replicate 4301 '1')).toList 4301 := by
    rw [String.toList_ofList]
    exact overlong_replicate (by decide) (by decide)
  intro settles
  exact settles_iff.mp settles 4301 ⟨_, named, overlong⟩

end ProxyLauncher.Config
