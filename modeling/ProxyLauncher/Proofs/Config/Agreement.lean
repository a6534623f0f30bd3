import ProxyLauncher.Config.Resolve
import ProxyLauncher.Failure
import ProxyLauncher.Proofs.CommandLine.Attached
import ProxyLauncher.Proofs.CommandLine.Naming
import ProxyLauncher.Proofs.Config.EnvironmentLayer
import ProxyLauncher.Proofs.Number.Decimal

/-!
# Flags and variables

The same text can come to a setting attached to a flag or in a variable.  For the
host, the timeout and the key file it makes no difference which way it comes:
either both refuse the text, each with its own failure, or both give the setting
the same value.  A port that a variable can have, a flag can have too.

The one exception is the text that flags drop.  A variable takes it as it
stands, or refuses it as a timeout, but a flag leaves its setting without a value.
-/

namespace ProxyLauncher.Config

open CommandLine Number

/-- The built-in configuration under one flag with a text attached. -/
def ofFlag (spelling text : String) : Except Stop Config :=
  Config.default.withFlags [spelling ++ "=" ++ text]

/-- The built-in configuration under one variable with a text. -/
def ofVariable (setting : Setting) (text : String) : Except EnvironmentFault Config :=
  Config.default.withEnvironment (.ofList [(setting.variableName, text)])

/-- A flag and a variable agree on a setting: both are refused, the flag with status 2 and the
variable as a malformed value, or both give the setting the same value. -/
inductive Agree (setting : Setting) : Except Stop Config → Except EnvironmentFault Config → Prop
  | refused {stop : Stop} {fault : EnvironmentFault} {message : String} (exits : stop.status = 2)
      (raises : fault.toFailure = .configuration message) : Agree setting (.error stop) (.error fault)
  | taken {flagged supplied : Config}
      (same : flagged.valueOf? setting = supplied.valueOf? setting) :
      Agree setting (.ok flagged) (.ok supplied)

/-! ## One flag -/

section Flag

variable {spelling : String} {flag : Flag} (known : (spelling, flag) ∈ declared) {text : String}

include known

theorem ofFlag_of_used {assignment : Assignment}
    (used : useFlag flag spelling (some text) = .ok assignment) :
    ∃ flagged, ofFlag spelling text = .ok flagged ∧
      flagged.valueOf? assignment.setting = some assignment := by
  refine ⟨Config.default.overlay .flag [assignment], ?_, ?_⟩
  · rw [ofFlag, withFlags, read_attached known, used, map_ok, map_ok]
  · rw [valueOf?_overlay]
    simp [lastFor?_cons]

theorem ofFlag_of_refused {stop : Stop} (refused : useFlag flag spelling (some text) = .error stop) :
    ofFlag spelling text = .error stop := by
  rw [ofFlag, withFlags, read_attached known, refused, map_error, map_error]

end Flag

/-! ## One variable -/

section Variable

variable {setting : Setting} {text : String}

/-- Where one variable is set, only its setting has a text. -/
theorem variableText_ofList (setting other : Setting) (text : String) :
    Config.default.variableText (.ofList [(setting.variableName, text)]) other =
      if other = setting then some text else none := by
  cases setting <;> cases other <;> rfl

theorem readText_of_faultAt? {other : Setting} {fault : EnvironmentFault}
    (found : faultAt? (Config.default.variableText (.ofList [(setting.variableName, text)])) other =
      some fault) : readText setting text = .error fault := by
  rcases faultAt?_eq_some_iff.mp found with ⟨_, present, faulty⟩
  rw [variableText_ofList] at present
  split at present
  · rename_i same
    cases present
    rw [← same]
    exact faulty
  · contradiction

theorem ofVariable_of_read {assignment : Assignment}
    (reads : readText setting text = .ok assignment) :
    ∃ supplied, ofVariable setting text = .ok supplied ∧
      supplied.valueOf? setting = some assignment := by
  have sound : firstFault?
      (Config.default.variableText (.ofList [(setting.variableName, text)])) = none := by
    apply firstFault?_eq_none_iff.mpr
    intro other
    apply Option.eq_none_iff_forall_ne_some.mpr
    intro fault found
    rw [readText_of_faultAt? found] at reads
    contradiction
  have given : givenAt? (Config.default.variableText (.ofList [(setting.variableName, text)]))
      setting = some assignment := by
    apply givenAt?_eq_some_iff.mpr
    exact ⟨text, by rw [variableText_ofList, if_pos rfl], reads⟩
  refine ⟨_, ?_, (overlay_givenBy_of_given Config.default given).1⟩
  rw [ofVariable, withEnvironment_eq, sound]

theorem ofVariable_of_fault {fault : EnvironmentFault}
    (faulty : readText setting text = .error fault) : ofVariable setting text = .error fault := by
  rw [ofVariable, withEnvironment_eq]
  cases first : firstFault?
      (Config.default.variableText (.ofList [(setting.variableName, text)])) with
  | none =>
      have sound := firstFault?_eq_none_iff.mp first setting
      rw [faultAt?_eq_some_iff.mpr ⟨text, by rw [variableText_ofList, if_pos rfl], faulty⟩] at sound
      contradiction
  | some found =>
      rcases List.exists_of_findSome?_eq_some first with ⟨other, _, foundAt⟩
      rw [readText_of_faultAt? foundAt] at faulty
      cases faulty
      rfl

/-- A variable that is accepted has its setting's value from its text. -/
theorem read_of_ofVariable {supplied : Config} (accepted : ofVariable setting text = .ok supplied) :
    ∃ assignment, readText setting text = .ok assignment ∧
      supplied.valueOf? setting = some assignment := by
  cases reads : readText setting text with
  | error fault =>
      rw [ofVariable_of_fault reads] at accepted
      contradiction
  | ok assignment =>
      rcases ofVariable_of_read reads with ⟨config, acceptedToo, value⟩
      rw [accepted] at acceptedToo
      cases acceptedToo
      exact ⟨assignment, rfl, value⟩

end Variable

/-! ## Agreement -/

section Agreement

variable {spelling : String} {flag : Flag} (known : (spelling, flag) ∈ declared)
  {setting : Setting} {text : String}

include known

theorem agree_of_taken {assignment : Assignment}
    (used : useFlag flag spelling (some text) = .ok assignment)
    (reads : readText setting text = .ok assignment) :
    Agree setting (ofFlag spelling text) (ofVariable setting text) := by
  rcases ofFlag_of_used known used with ⟨flagged, flaggedEq, flaggedValue⟩
  rcases ofVariable_of_read reads with ⟨supplied, suppliedEq, suppliedValue⟩
  rw [setting_of_readText reads] at flaggedValue
  rw [flaggedEq, suppliedEq]
  exact .taken (flaggedValue.trans suppliedValue.symm)

theorem agree_of_refused {rejection : Rejection} {fault : EnvironmentFault} {message : String}
    (refused : useFlag flag spelling (some text) = .error (.rejected rejection))
    (faulty : readText setting text = .error fault)
    (raises : fault.toFailure = .configuration message) :
    Agree setting (ofFlag spelling text) (ofVariable setting text) := by
  rw [ofFlag_of_refused known refused, ofVariable_of_fault faulty]
  exact .refused rfl raises

/-- There is no agreement where the flag assigns what the variable does not give. -/
theorem not_agree_of_used {assignment : Assignment} (names : assignment.setting = setting)
    (used : useFlag flag spelling (some text) = .ok assignment)
    (apart : readText setting text ≠ .ok assignment) :
    ¬ Agree setting (ofFlag spelling text) (ofVariable setting text) := by
  intro agree
  rcases ofFlag_of_used known used with ⟨flagged, flaggedEq, flaggedValue⟩
  rw [names] at flaggedValue
  cases reads : readText setting text with
  | error fault =>
      rw [flaggedEq, ofVariable_of_fault reads] at agree
      cases agree
  | ok given =>
      rcases ofVariable_of_read reads with ⟨supplied, suppliedEq, suppliedValue⟩
      rw [flaggedEq, suppliedEq] at agree
      cases agree with
      | taken same =>
          rw [flaggedValue, suppliedValue] at same
          cases same
          exact apart reads

/-- It takes the dropped operand to part a flag from its variable. -/
theorem agree_iff {left : Assignment} (names : left.setting = setting)
    (drops : useFlag flag spelling (some droppedOperand) = .ok left)
    (apart : readText setting droppedOperand ≠ .ok left)
    (alike : text ≠ droppedOperand → Agree setting (ofFlag spelling text) (ofVariable setting text)) :
    Agree setting (ofFlag spelling text) (ofVariable setting text) ↔ text ≠ droppedOperand := by
  constructor
  · rintro agree rfl
    exact not_agree_of_used known names drops apart agree
  · exact alike

end Agreement

section Settings

variable {spelling text : String}

/-- What both ways take as it stands parts them only where the flag drops it. -/
theorem agree_verbatim_iff {flag : Flag} (known : (spelling, flag) ∈ declared) {setting : Setting}
    {set : Operand String → Assignment} (names : (set .dropped).setting = setting)
    (drops : Yields flag spelling (some droppedOperand) (set .dropped))
    (accepts : Accepts flag spelling (some text) (set (.given text)))
    (reads : ∀ text, readText setting text = .ok (set (.given text)))
    (apart : set (.given droppedOperand) ≠ set .dropped) :
    Agree setting (ofFlag spelling text) (ofVariable setting text) ↔ text ≠ droppedOperand := by
  apply agree_iff known names (useFlag_of_yields drops)
  · rw [reads]
    intro same
    exact apart (Except.ok.inj same)
  · intro kept
    have yields : Yields flag spelling (some text) (set (.given text)) :=
      .kept (by simpa using kept) accepts
    exact agree_of_taken known (useFlag_of_yields yields) (reads text)

/-- Both ways read a timeout with the same reader. -/
theorem agree_timeout_iff (known : (spelling, .timeout) ∈ declared) :
    Agree .timeout (ofFlag spelling text) (ofVariable .timeout text) ↔ text ≠ droppedOperand := by
  apply agree_iff known rfl (useFlag_of_yields (.timeout spelling))
  · intro reads
    rcases map_eq_ok_iff.mp reads with ⟨timeout, _, ⟨⟩⟩
  · intro kept
    cases found : Duration.read? text with
    | none =>
        have refused : useFlag .timeout spelling (some text) =
            .error (.rejected (.malformedTimeout text)) := by
          simp [useFlag, convertOperand, kept, convertTimeout, found]
        have faulty : readText .timeout text = .error (.timeoutMalformed text) := by
          simp [readText, readTimeout, found]
        exact agree_of_refused known refused faulty rfl
    | some timeout =>
        have yields : Yields .timeout spelling (some text) (.timeout (.given timeout)) :=
          .kept (by simpa using kept) (.timeout found)
        have reads : readText .timeout text = .ok (.timeout (.given timeout)) := by
          simp [readText, readTimeout, found]
        exact agree_of_taken known (useFlag_of_yields yields) reads

/-- The flag reads a port at least as leniently as the variable. -/
theorem ofFlag_of_readPort (known : (spelling, .port) ∈ declared) {port : Int}
    (reads : readPort text = .ok port) :
    ∃ flagged, ofFlag spelling text = .ok flagged ∧ flagged.port = .given port := by
  have kept : some text ≠ some droppedOperand := by
    rintro ⟨⟩
    cases reads
  have lenient := Integer.readLenient?_of_readPlain (readPort_eq_ok_iff.mp reads)
  have yields : Yields .port spelling (some text) (.port (.given port)) :=
    .kept kept (.port lenient)
  rcases ofFlag_of_used known (useFlag_of_yields yields) with ⟨flagged, flaggedEq, value⟩
  exact ⟨flagged, flaggedEq, Assignment.port.inj (Option.some.inj value)⟩

end Settings

/-- The settings for which a flag and a variable do the same. -/
def readAlike : List Setting :=
  [.host, .timeout, .keyFile]

/-- How a text fares attached to a flag and in a variable. -/
structure Parallel (text : String) : Prop where
  /-- For the host, the timeout and the key file, every spelling of the flag and the variable agree,
  unless the text is the one that flags drop. -/
  agree : ∀ setting ∈ readAlike, ∀ flag spelling, (spelling, flag) ∈ declared →
    flag.setting? = some setting →
      (Agree setting (ofFlag spelling text) (ofVariable setting text) ↔ text ≠ droppedOperand)
  /-- Any text is a host, and the host is the text itself. -/
  host : ∃ config, ofVariable .host text = .ok config ∧ config.host = .given text
  /-- Any text is a key file, and the key file is the text itself. -/
  keyFile : ∃ config, ofVariable .keyFile text = .ok config ∧ config.keyFile = some (.given text)
  /-- A port that the variable can have, every spelling of the flag can have too. -/
  port : ∀ config, ofVariable .port text = .ok config → ∀ spelling, (spelling, .port) ∈ declared →
    ∃ port flagged, config.port = .given port ∧ ofFlag spelling text = .ok flagged ∧
      flagged.port = .given port

/-- Flags and variables run in parallel, but for the one text that flags drop. -/
theorem flag_parallel_variable (text : String) : Parallel text := by
  constructor
  case agree =>
    intro setting alike flag spelling known names
    -- A port is not read alike, since its flag takes more than its variable.
    cases flag with
    | help => cases names
    | verbose =>
        cases names
        contradiction
    | host =>
        cases names
        exact agree_verbatim_iff known rfl (.host spelling) (.host spelling text) (fun _ => rfl)
          (by simp)
    | port =>
        cases names
        contradiction
    | timeout =>
        cases names
        exact agree_timeout_iff known
    | keyFile =>
        cases names
        exact agree_verbatim_iff known rfl (.keyFile spelling) (.keyFile spelling text)
          (fun _ => rfl) (by simp)
  case host =>
    have reads : readText .host text = .ok (.host (.given text)) := rfl
    rcases ofVariable_of_read reads with ⟨config, accepted, value⟩
    exact ⟨config, accepted, Assignment.host.inj (Option.some.inj value)⟩
  case keyFile =>
    have reads : readText .keyFile text = .ok (.keyFile (.given text)) := rfl
    rcases ofVariable_of_read reads with ⟨config, accepted, value⟩
    rcases Option.map_eq_some_iff.mp value with ⟨path, found, same⟩
    rw [Assignment.keyFile.inj same] at found
    exact ⟨config, accepted, found⟩
  case port =>
    intro config accepted spelling known
    rcases read_of_ofVariable accepted with ⟨assignment, reads, value⟩
    rcases map_eq_ok_iff.mp reads with ⟨port, portReads, rfl⟩
    rcases ofFlag_of_readPort known portReads with ⟨flagged, flaggedEq, flaggedPort⟩
    exact ⟨port, flagged, Assignment.port.inj (Option.some.inj value), flaggedEq, flaggedPort⟩

/-- Two dashes are the host that the variable gives, but a flag with them leaves no host. -/
theorem not_agree_host_dashes : ¬ Agree .host (ofFlag "-host" "--") (ofVariable .host "--") := by
  intro agree
  cases agree with
  | taken same =>
      have assigned : some (Assignment.host .dropped) = some (.host (.given "--")) := same
      cases assigned

end ProxyLauncher.Config
