import ProxyLauncher.Proofs.CommandLine.Abbreviation
import ProxyLauncher.Proofs.Config.FlagLayer
import ProxyLauncher.Proofs.Config.Provenance

/-!
# What a command line tags

A command line tags the settings that its arguments are flags of, and these are
the settings that it spells or abbreviates.  Whatever else looks like a flag
stops the launcher, and it stops with the status of a rejected command line
unless the help text was asked for.

The abbreviations are more than was asked for: the parser is told to do without
them, and it does so behind two dashes only.
-/

namespace ProxyLauncher.Config

open CommandLine

/-- Flags tag what the command line names and leave every other tag as it is. -/
theorem sourceOf_withFlags {defaults config : Config} {arguments : List String}
    (laid : defaults.withFlags arguments = .ok config) (setting : Setting) :
    config.sourceOf setting = .flag ↔
      Named arguments setting ∨ defaults.sourceOf setting = .flag := by
  rcases withFlags_eq_ok_iff.mp laid with ⟨assignments, split, rfl⟩
  have tag := tag_overlay defaults .flag assignments setting
  rw [split.named_iff]
  cases named : (lastFor? assignments setting).isSome with
  | true =>
      simp only [named, if_true] at tag
      simp [sourceOf_of_tag tag]
  | false =>
      simp only [named, Bool.false_eq_true, if_false] at tag
      simp [sourceOf_eq_of_tag tag]

/-- What stands on a command line that is accepted and looks like a flag is one of a setting. -/
theorem names_of_withFlags {defaults config : Config} {arguments : List String}
    (laid : defaults.withFlags arguments = .ok config) {argument : String}
    (member : argument ∈ arguments) (looks : OptionLike argument) :
    ∃ setting, CommandLine.Names argument setting := by
  rcases withFlags_eq_ok_iff.mp laid with ⟨assignments, split, _⟩
  rcases split.names_or_plain member with names | plain
  · exact names
  · exact absurd plain looks.not_plain

/-- The launcher stops with status 0 on behalf of a help flag and with status 2 otherwise. -/
theorem status_of_withFlags {defaults : Config} {arguments : List String} {stop : Stop}
    (stopped : defaults.withFlags arguments = .error stop) :
    stop.status = 2 ∨ stop.status = 0 ∧ ∃ argument ∈ arguments, AsksHelp argument := by
  cases stop with
  | rejected rejection => exact .inl rfl
  | help =>
      rcases exists_stopForHelp_of_read (withFlags_eq_error_iff.mp stopped) with
        ⟨argument, member, _, _, classified, shown⟩
      exact .inr ⟨rfl, argument, member, asksHelp_of_classify classified shown⟩

/-! ## The law of flags and their tags -/

/-- What the arguments of a command line say about its outcome. -/
structure TagLaw (defaults : Config) (arguments : List String) : Prop where
  /-- A setting is tagged as given by a flag when an argument spells or abbreviates it, and
  otherwise only if it was before. -/
  tagged : ∀ config, defaults.withFlags arguments = .ok config → ∀ setting,
    config.sourceOf setting = .flag ↔
      (∃ argument ∈ arguments, Spells argument setting ∨ Abbreviates argument setting) ∨
        defaults.sourceOf setting = .flag
  /-- Everything else that looks like a flag stops the launcher, with status 2 unless some argument
  asks for help. -/
  others : ∀ argument ∈ arguments, OptionLike argument →
    (∀ setting, ¬ Spells argument setting ∧ ¬ Abbreviates argument setting) →
      ∃ stop, defaults.withFlags arguments = .error stop ∧
        (stop.status = 2 ∨ stop.status = 0 ∧ ∃ argument ∈ arguments, AsksHelp argument)

/-- The only flags of a setting are its declared spellings and, behind a single dash, the
abbreviations of its name. -/
theorem withFlags_tagLaw (defaults : Config) (arguments : List String) :
    TagLaw defaults arguments := by
  constructor
  case tagged =>
    intro config laid setting
    rw [sourceOf_withFlags laid]
    simp only [Named, names_iff]
  case others =>
    intro argument member looks unknown
    cases laid : defaults.withFlags arguments with
    | error stop => exact ⟨stop, rfl, status_of_withFlags laid⟩
    | ok config =>
        rcases names_of_withFlags laid member looks with ⟨setting, names⟩
        rcases names_iff.mp names with spells | abbreviates
        · exact absurd spells (unknown setting).1
        · exact absurd abbreviates (unknown setting).2

/-- On a command line that is accepted, a declared spelling stands for every setting that is tagged
as given by a flag. -/
def TagsSpelled (arguments : List String) : Prop :=
  ∀ config, Config.default.withFlags arguments = .ok config → ∀ setting,
    config.sourceOf setting = .flag → ∃ argument ∈ arguments, Spells argument setting

/-- One letter behind a single dash is read as the whole name. -/
theorem not_tagsSpelled_abbreviated : ¬ TagsSpelled ["-p", "80"] := by
  intro spelled
  have laid : Config.default.withFlags ["-p", "80"] =
      .ok (Config.default.overlay .flag [.port (.given 80)]) := rfl
  have unspelled : ∀ argument ∈ ["-p", "80"],
      flagOf? argument = none ∧ '=' ∉ argument.toList := by
    decide
  rcases spelled _ laid .port rfl with
    ⟨argument, member, spelling, flag, known, _, rfl | ⟨operand, rfl⟩⟩
  · have unknown := (unspelled _ member).1
    rw [flagOf?_of_mem_declared known] at unknown
    contradiction
  · exact (unspelled _ member).2 (by simp)

end ProxyLauncher.Config
