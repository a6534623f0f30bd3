import ProxyLauncher.Proofs.CommandLine.Naming
import ProxyLauncher.Proofs.Config.FlagLayer
import ProxyLauncher.Proofs.Config.Layers
import ProxyLauncher.Proofs.Number.Decimal

/-!
# Precedence of the layers

A setting that the command line names has the value of its last naming, whatever
its default was.  One that is not named and had no source so far has the reading
of its variable, if this is set.  Every other setting is left as the defaults
have it.

A value counts as given even when it equals the default, and even when it is the
empty text, zero or off.  Variables that no setting falls back on are never
looked at.
-/

namespace ProxyLauncher.Config

open CommandLine
open Number

/-! ## Readings of variables -/

/-- The value that the text of a variable stands for. -/
inductive ReadsAs (text : String) : Assignment → Prop
  | host : ReadsAs text (.host (.given text))
  | keyFile : ReadsAs text (.keyFile (.given text))
  | verbose {on : Bool} (onIff : on = true ↔ text ≠ "false" ∧ text ≠ "0") :
      ReadsAs text (.verbose on)
  | port {port : Int} (spells : Integer.Spells text.toList port) :
      ReadsAs text (.port (.given port))
  | timeout {timeout : Binary64} (reads : Duration.read? text = some timeout) :
      ReadsAs text (.timeout (.given timeout))

theorem read?_of_readTimeout {text : String} {timeout : Binary64}
    (reads : readTimeout text = .ok timeout) : Duration.read? text = some timeout := by
  unfold readTimeout at reads
  split at reads
  · rename_i duration
    cases reads
    exact duration
  · contradiction

theorem readsAs_of_readText {setting : Setting} {text : String} {assignment : Assignment}
    (reads : readText setting text = .ok assignment) : ReadsAs text assignment := by
  cases setting with
  | verbose =>
      cases reads
      apply ReadsAs.verbose
      simp [readVerbosity]
  | host =>
      cases reads
      exact .host
  | port =>
      rcases map_eq_ok_iff.mp reads with ⟨port, plain, rfl⟩
      exact .port (Integer.spells_of_readPlain (readPort_eq_ok_iff.mp plain))
  | timeout =>
      rcases map_eq_ok_iff.mp reads with ⟨timeout, duration, rfl⟩
      exact .timeout (read?_of_readTimeout duration)
  | keyFile =>
      cases reads
      exact .keyFile

/-! ## What prevails -/

/-- A setting is resolved by the strongest layer that gives it a value. -/
structure Prevails (config defaults : Config) (arguments : List String)
    (environment : Environment) (setting : Setting) : Prop where
  /-- A named setting has the value of its last naming. -/
  named : Named arguments setting →
    ∃ assignment, assignment.setting = setting ∧ LastNaming arguments assignment ∧
      config.valueOf? setting = some assignment ∧ config.sources.tag setting = some .flag
  /-- A setting that is not named and has no source has the reading of its variable. -/
  read : ¬ Named arguments setting → defaults.sourceOf setting = .default →
    ∀ text, environment setting.variableName = some text →
      ∃ assignment, assignment.setting = setting ∧ ReadsAs text assignment ∧
        config.valueOf? setting = some assignment ∧
        config.sources.tag setting = some .environment
  /-- Every other setting keeps its value and its tag, or the lack of one. -/
  kept : ¬ Named arguments setting →
    (defaults.sourceOf setting = .default → environment setting.variableName = none) →
      config.valueOf? setting = defaults.valueOf? setting ∧
        config.sources.tag setting = defaults.sources.tag setting

section Flagged

variable {arguments : List String} {assignments : List Assignment} {setting : Setting}
  (split : Splits Yields arguments assignments) {defaults : Config} {environment : Environment}

include split

theorem lastFor?_of_not_named (unnamed : ¬ Named arguments setting) :
    lastFor? assignments setting = none := by
  rw [split.named_iff] at unnamed
  simpa using unnamed

/-- A setting that is named has no text left. -/
theorem variableText_of_named (named : Named arguments setting) :
    (defaults.overlay .flag assignments).variableText environment setting = none := by
  rw [variableText_overlay (by decide), if_pos (split.named_iff.mp named)]

/-- A setting that is not named has the text that the defaults leave it. -/
theorem variableText_of_not_named (unnamed : ¬ Named arguments setting) :
    (defaults.overlay .flag assignments).variableText environment setting =
      defaults.variableText environment setting := by
  rw [variableText_overlay (by decide), lastFor?_of_not_named split unnamed]
  rfl

/-- The two layers, laid over the defaults, prevail as they should. -/
theorem prevails_of_splits {texts : Setting → Option String}
    (textsEq : (defaults.overlay .flag assignments).variableText environment = texts)
    (sound : firstFault? texts = none) (setting : Setting) :
    Prevails ((defaults.overlay .flag assignments).overlay .environment (givenBy texts))
      defaults arguments environment setting := by
  have flags := overrides_iff.mpr (rfl : defaults.overlay .flag assignments = _)
  constructor
  · intro named
    rcases Option.isSome_iff_exists.mp (split.named_iff.mp named) with ⟨assignment, last⟩
    have absent : texts setting = none := by
      rw [← textsEq, variableText_of_named split named]
    rcases overlay_givenBy_of_silent (defaults.overlay .flag assignments)
      (givenAt?_of_absent absent) with ⟨valueEq, tagEq⟩
    rw [valueEq, tagEq]
    exact ⟨assignment, setting_of_lastFor? last, split.lastNaming last,
      flags.named setting assignment last⟩
  · intro unnamed unsourced text set
    have present : texts setting = some text := by
      rw [← textsEq, variableText_of_not_named split unnamed, variableText, if_pos unsourced, set]
    rcases exists_givenAt? present (firstFault?_eq_none_iff.mp sound setting) with
      ⟨assignment, reads⟩
    have given := givenAt?_eq_some_iff.mpr ⟨text, present, reads⟩
    exact ⟨assignment, setting_of_readText reads, readsAs_of_readText reads,
      overlay_givenBy_of_given _ given⟩
  · intro unnamed unset
    have absent : texts setting = none := by
      rw [← textsEq, variableText_of_not_named split unnamed]
      simpa [variableText] using unset
    rcases overlay_givenBy_of_silent (defaults.overlay .flag assignments)
      (givenAt?_of_absent absent) with ⟨valueEq, tagEq⟩
    rw [valueEq, tagEq]
    exact flags.unnamed setting (lastFor?_of_not_named split unnamed)

/-- Environments that agree on the settings that are left to them have the same texts. -/
theorem variableText_flagged_congr {other : Environment}
    (agree : ∀ setting, ¬ Named arguments setting → defaults.sourceOf setting = .default →
      other setting.variableName = environment setting.variableName) :
    (defaults.overlay .flag assignments).variableText other =
      (defaults.overlay .flag assignments).variableText environment := by
  funext setting
  by_cases named : Named arguments setting
  · rw [variableText_of_named split named, variableText_of_named split named]
  · rw [variableText_of_not_named split named, variableText_of_not_named split named]
    unfold variableText
    split
    · rename_i unsourced
      exact agree setting named unsourced
    · rfl

end Flagged

/-- Flags win over variables and variables over defaults, setting by setting.
Foreign tags are kept, and no variable matters but those of settings that are
neither named nor have a source. -/
theorem resolve_precedence {defaults config : Config} {arguments : List String}
    {environment : Environment} (resolved : defaults.resolve arguments environment = .ok config) :
    (∀ setting, Prevails config defaults arguments environment setting) ∧
      config.sources.foreign = defaults.sources.foreign ∧
      ∀ other : Environment,
        (∀ setting, ¬ Named arguments setting → defaults.sourceOf setting = .default →
          other setting.variableName = environment setting.variableName) →
        defaults.resolve arguments other = .ok config := by
  rcases resolve_eq_ok_iff.mp resolved with ⟨flagged, laid, sound, rfl⟩
  rcases withFlags_eq_ok_iff.mp laid with ⟨assignments, split, rfl⟩
  refine ⟨prevails_of_splits split rfl sound, ?_, ?_⟩
  · rw [foreign_overlay, foreign_overlay]
  · intro other agree
    have textsEq := variableText_flagged_congr split agree
    rw [resolve_eq_ok_iff]
    exact ⟨_, laid, by rw [textsEq, sound], by rw [textsEq]⟩

/-- The empty host is the last one named, and zero is a port like any other. -/
theorem resolve_precedence_empty_host :
    ∃ config,
      Config.default.resolve ["-host", "car", "-host", ""]
        (Environment.ofList [("TESLA_HTTP_PROXY_HOST", "home"), ("TESLA_HTTP_PROXY_PORT", "0")]) =
          .ok config ∧
      ∀ setting, Prevails config Config.default ["-host", "car", "-host", ""]
        (Environment.ofList [("TESLA_HTTP_PROXY_HOST", "home"), ("TESLA_HTTP_PROXY_PORT", "0")])
        setting :=
  ⟨_, rfl, (resolve_precedence rfl).1⟩

end ProxyLauncher.Config
