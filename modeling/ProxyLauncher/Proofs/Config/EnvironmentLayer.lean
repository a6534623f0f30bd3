import ProxyLauncher.Config.Environment
import ProxyLauncher.Proofs.Attempt
import ProxyLauncher.Proofs.Config.Overlay

/-!
# The environment layer, one setting at a time

The variables are read in a fixed order, but each of them is read alone: the
text for a setting either has a fault or gives the setting a value, whatever the
other texts are.  So the layer succeeds exactly when no text has a fault, and
fails with the first fault in the reading order otherwise.

Both the fault and the value of a setting depend on its text alone.  Two
environments, or two configurations, that agree on the texts agree on the
outcome.
-/

namespace ProxyLauncher

namespace Config

/-! ## Reading one text -/

/-- Reads the text of a setting's variable. -/
def readText : Setting → String → Except EnvironmentFault Assignment
  | .verbose, text => .ok (.verbose (readVerbosity text))
  | .host, text => .ok (.host (.given text))
  | .port, text => (readPort text).map (.port <| .given ·)
  | .timeout, text => (readTimeout text).map (.timeout <| .given ·)
  | .keyFile, text => .ok (.keyFile (.given text))

/-- A port is read as a plain integer. -/
theorem readPort_eq_ok_iff {text : String} {port : Int} :
    readPort text = .ok port ↔ Number.Integer.readPlain text.toList = .ok port := by
  unfold readPort
  cases Number.Integer.readPlain text.toList with
  | ok found => simp
  | error fault => cases fault <;> simp

/-- What is wrong with the text for a setting, if there is one and something is wrong with it. -/
def faultAt? (texts : Setting → Option String) (setting : Setting) : Option EnvironmentFault :=
  (texts setting).bind fun text =>
    match readText setting text with
    | .error fault => some fault
    | .ok _ => none

/-- What the text for a setting gives it, if there is one and it can be read. -/
def givenAt? (texts : Setting → Option String) (setting : Setting) : Option Assignment :=
  (texts setting).bind fun text =>
    match readText setting text with
    | .error _ => none
    | .ok assignment => some assignment

variable {texts : Setting → Option String}

/-- The text for a setting gives a value to that setting. -/
theorem setting_of_readText {setting : Setting} {text : String} {assignment : Assignment}
    (reads : readText setting text = .ok assignment) : assignment.setting = setting := by
  cases setting with
  | verbose =>
      cases reads
      rfl
  | host =>
      cases reads
      rfl
  | port =>
      rcases map_eq_ok_iff.mp reads with ⟨_, _, rfl⟩
      rfl
  | timeout =>
      rcases map_eq_ok_iff.mp reads with ⟨_, _, rfl⟩
      rfl
  | keyFile =>
      cases reads
      rfl

theorem givenAt?_eq_some_iff {setting : Setting} {assignment : Assignment} :
    givenAt? texts setting = some assignment ↔
      ∃ text, texts setting = some text ∧ readText setting text = .ok assignment := by
  simp only [givenAt?, Option.bind_eq_some_iff]
  constructor
  · rintro ⟨text, present, found⟩
    split at found
    · contradiction
    · rename_i given reads
      cases found
      exact ⟨text, present, reads⟩
  · rintro ⟨text, present, reads⟩
    exact ⟨text, present, by simp [reads]⟩

theorem faultAt?_eq_some_iff {setting : Setting} {fault : EnvironmentFault} :
    faultAt? texts setting = some fault ↔
      ∃ text, texts setting = some text ∧ readText setting text = .error fault := by
  simp only [faultAt?, Option.bind_eq_some_iff]
  constructor
  · rintro ⟨text, present, found⟩
    split at found
    · rename_i reads
      cases found
      exact ⟨text, present, reads⟩
    · contradiction
  · rintro ⟨text, present, reads⟩
    exact ⟨text, present, by simp [reads]⟩

/-- Faults and values of a setting depend on its text alone. -/
theorem faultAt?_congr {others : Setting → Option String} {setting : Setting}
    (same : texts setting = others setting) : faultAt? texts setting = faultAt? others setting := by
  rw [faultAt?, faultAt?, same]

theorem givenAt?_congr {others : Setting → Option String} {setting : Setting}
    (same : texts setting = others setting) : givenAt? texts setting = givenAt? others setting := by
  rw [givenAt?, givenAt?, same]

theorem faultAt?_of_absent {setting : Setting} (absent : texts setting = none) :
    faultAt? texts setting = none := by
  rw [faultAt?, absent, Option.bind_none]

theorem givenAt?_of_absent {setting : Setting} (absent : texts setting = none) :
    givenAt? texts setting = none := by
  rw [givenAt?, absent, Option.bind_none]

/-- A text without a fault gives a value. -/
theorem exists_givenAt? {setting : Setting} {text : String} (present : texts setting = some text)
    (sound : faultAt? texts setting = none) :
    ∃ assignment, readText setting text = .ok assignment := by
  cases reads : readText setting text with
  | ok assignment => exact ⟨assignment, rfl⟩
  | error fault =>
      rw [faultAt?_eq_some_iff.mpr ⟨text, present, reads⟩] at sound
      contradiction

/-! ## Reading all texts -/

/-- The order in which the texts are read. -/
def readingOrder : List Setting :=
  [.host, .verbose, .port, .timeout, .keyFile]

theorem mem_readingOrder (setting : Setting) : setting ∈ readingOrder := by
  cases setting <;> decide

theorem readingOrder_nodup : readingOrder.Nodup := by
  decide

/-- The first fault in the reading order. -/
def firstFault? (texts : Setting → Option String) : Option EnvironmentFault :=
  readingOrder.findSome? (faultAt? texts)

/-- Everything that the texts give, in the reading order. -/
def givenBy (texts : Setting → Option String) : List Assignment :=
  readingOrder.filterMap (givenAt? texts)

theorem readVariable_eq (texts : Setting → Option String) (setting : Setting) :
    readVariable (texts setting) (readText setting) =
      match faultAt? texts setting with
      | some fault => .error fault
      | none => .ok (givenAt? texts setting).toList := by
  unfold faultAt? givenAt?
  cases texts setting with
  | none => rfl
  | some text =>
      simp only [readVariable, Option.bind_some]
      cases readText setting text <;> rfl

/-- Reads the texts for several settings in order. -/
def readTexts (texts : Setting → Option String) :
    List Setting → Except EnvironmentFault (List Assignment)
  | [] => .ok []
  | setting :: rest => do
      let first ← readVariable (texts setting) (readText setting)
      let others ← readTexts texts rest
      return first ++ others

theorem readEnvironment_eq_readTexts (config : Config) (environment : Environment) :
    readEnvironment config environment =
      readTexts (config.variableText environment) readingOrder := by
  have nothing : (.ok [] : Except EnvironmentFault (List Assignment)) = pure [] := rfl
  simp only [readingOrder, readTexts, nothing, bind_assoc, pure_bind, List.append_nil]
  simp only [← List.append_assoc]
  rfl

/-- Reading in order stops at the first fault. -/
theorem readTexts_eq (texts : Setting → Option String) (settings : List Setting) :
    readTexts texts settings =
      match settings.findSome? (faultAt? texts) with
      | some fault => .error fault
      | none => .ok (settings.filterMap (givenAt? texts)) := by
  induction settings with
  | nil => rfl
  | cons setting rest ih =>
      rw [readTexts, readVariable_eq, ih, List.findSome?_cons]
      cases faultAt? texts setting with
      | some fault => rfl
      | none =>
          simp only [ok_bind]
          cases rest.findSome? (faultAt? texts) with
          | some fault => rfl
          | none =>
              cases given : givenAt? texts setting <;> simp [given, pure, Except.pure]

/-- The layer fails with the first fault, and else lays what the texts give over the
configuration. -/
theorem withEnvironment_eq (config : Config) (environment : Environment) :
    config.withEnvironment environment =
      match firstFault? (config.variableText environment) with
      | some fault => .error fault
      | none => .ok (config.overlay .environment (givenBy (config.variableText environment))) := by
  rw [withEnvironment, readEnvironment_eq_readTexts, readTexts_eq]
  unfold firstFault? givenBy
  cases readingOrder.findSome? (faultAt? (config.variableText environment)) <;> rfl

/-! ## What a setting gets -/

theorem firstFault?_eq_none_iff :
    firstFault? texts = none ↔ ∀ setting, faultAt? texts setting = none := by
  simp [firstFault?, List.findSome?_eq_none_iff, mem_readingOrder]

theorem setting_of_givenAt? {setting : Setting} {assignment : Assignment}
    (given : givenAt? texts setting = some assignment) : assignment.setting = setting := by
  rcases givenAt?_eq_some_iff.mp given with ⟨_, _, reads⟩
  exact setting_of_readText reads

theorem lastFor?_filterMap_givenAt? {settings : List Setting} (distinct : settings.Nodup)
    (setting : Setting) :
    lastFor? (settings.filterMap (givenAt? texts)) setting =
      if setting ∈ settings then givenAt? texts setting else none := by
  induction settings with
  | nil => rfl
  | cons first rest ih =>
      rcases List.nodup_cons.mp distinct with ⟨fresh, distinctRest⟩
      have restEq := ih distinctRest
      by_cases here : setting = first
      · subst here
        rw [if_neg fresh] at restEq
        cases given : givenAt? texts setting with
        | none => simp [given, restEq]
        | some assignment =>
            simp [given, lastFor?_cons, restEq, setting_of_givenAt? given]
      · cases given : givenAt? texts first with
        | none => simp [given, restEq, here]
        | some assignment =>
            have elsewhere : assignment.setting ≠ setting := by
              rw [setting_of_givenAt? given]
              exact Ne.symm here
            simp [given, lastFor?_cons, restEq, here, elsewhere]

/-- A setting gets what its own text gives. -/
theorem lastFor?_givenBy (texts : Setting → Option String) (setting : Setting) :
    lastFor? (givenBy texts) setting = givenAt? texts setting := by
  rw [givenBy, lastFor?_filterMap_givenAt? readingOrder_nodup, if_pos (mem_readingOrder setting)]

section Layer

variable (config : Config) {setting : Setting}

/-- A setting whose text gives a value has that value and the layer's tag. -/
theorem overlay_givenBy_of_given {assignment : Assignment}
    (given : givenAt? texts setting = some assignment) :
    (config.overlay .environment (givenBy texts)).valueOf? setting = some assignment ∧
      (config.overlay .environment (givenBy texts)).sources.tag setting = some .environment := by
  have overrides := overrides_iff.mpr (rfl : config.overlay .environment (givenBy texts) = _)
  apply overrides.named
  rw [lastFor?_givenBy, given]

/-- A setting whose text gives nothing is left alone. -/
theorem overlay_givenBy_of_silent (silent : givenAt? texts setting = none) :
    (config.overlay .environment (givenBy texts)).valueOf? setting = config.valueOf? setting ∧
      (config.overlay .environment (givenBy texts)).sources.tag setting =
        config.sources.tag setting := by
  have overrides := overrides_iff.mpr (rfl : config.overlay .environment (givenBy texts) = _)
  apply overrides.unnamed
  rw [lastFor?_givenBy, silent]

end Layer

end Config

end ProxyLauncher
