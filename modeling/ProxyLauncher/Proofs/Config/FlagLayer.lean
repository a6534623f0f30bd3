import ProxyLauncher.CommandLine.Usage
import ProxyLauncher.Config.Resolve
import ProxyLauncher.Proofs.CommandLine.Grammar
import ProxyLauncher.Proofs.CommandLine.Help
import ProxyLauncher.Proofs.Config.Overlay

/-!
# The flag layer

Flags are laid over a configuration exactly when the command line splits into
segments, and then the configuration is overridden by what the segments assign.
Otherwise the launcher stops: with status 0 on behalf of a help flag, with
status 2 for a rejected command line.

Because a command line is read by a fold, a command line that was accepted can
be continued.  Laying a longer one is laying its parts one after the other.
-/

namespace ProxyLauncher.Config

open CommandLine
open CommandLine.Progress

theorem withFlags_eq_ok_iff {config result : Config} {arguments : List String} :
    config.withFlags arguments = .ok result ↔
      ∃ assignments, Splits Yields arguments assignments ∧
        result = config.overlay .flag assignments := by
  rw [withFlags, map_eq_ok_iff]
  constructor
  · rintro ⟨assignments, reads, rfl⟩
    exact ⟨assignments, read_eq_ok_iff.mp reads, rfl⟩
  · rintro ⟨assignments, split, rfl⟩
    exact ⟨assignments, read_eq_ok_iff.mpr split, rfl⟩

theorem withFlags_eq_error_iff {config : Config} {arguments : List String} {stop : Stop} :
    config.withFlags arguments = .error stop ↔ read arguments = .error stop := by
  unfold withFlags
  cases read arguments <;> simp

/-- The status with which reading stops is that of the help text or that of a rejection. -/
theorem status_of_read {arguments : List String} {stop : Stop}
    (reads : read arguments = .error stop) :
    (stop.status = 0 ∧ ∃ text ∈ arguments, ∃ spelling attached,
      classify text = .ok (.flag .help spelling attached)) ∨ stop.status = 2 := by
  cases stop with
  | help => exact .inl ⟨rfl, exists_help_of_read reads⟩
  | rejected rejection => exact .inr rfl

/-! ## The grammar of flags -/

/-- Where no operand is dropped, flags are accepted exactly when the command
line splits into segments, which then override the configuration.  Everything
else stops the launcher, with status 0 only for a help flag. -/
theorem withFlags_grammar (config : Config) {arguments : List String}
    (keeps : KeepsOperands arguments) :
    (∀ result, config.withFlags arguments = .ok result ↔
      ∃ assignments, Splits Accepts arguments assignments ∧
        Overrides result config .flag assignments) ∧
    ((¬ ∃ assignments, Splits Accepts arguments assignments) →
      ∃ stop, config.withFlags arguments = .error stop ∧
        ((stop.status = 0 ∧ ∃ text ∈ arguments, ∃ spelling attached,
          classify text = .ok (.flag .help spelling attached)) ∨ stop.status = 2)) := by
  simp only [splits_accepts_iff keeps, overrides_iff]
  refine ⟨fun result => withFlags_eq_ok_iff, ?_⟩
  intro unsplit
  cases laid : config.withFlags arguments with
  | ok result =>
      rcases withFlags_eq_ok_iff.mp laid with ⟨assignments, split, _⟩
      exact absurd ⟨assignments, split⟩ unsplit
  | error stop => exact ⟨stop, rfl, status_of_read (withFlags_eq_error_iff.mp laid)⟩

/-- A flag with the plain argument behind it, and one on its own. -/
theorem withFlags_grammar_host_verbose :
    KeepsOperands ["-host", "car", "-verbose"] ∧
      Config.default.withFlags ["-host", "car", "-verbose"] =
        .ok (Config.default.overlay .flag [.host (.given "car"), .verbose true]) := by
  have keeps : KeepsOperands ["-host", "car", "-verbose"] := by
    unfold KeepsOperands
    decide
  have split : Splits Accepts ["-host", "car", "-verbose"]
      [.host (.given "car"), .verbose true] :=
    .cons (.following rfl rfl (.host _ _)) (.cons (.alone rfl (.affirmed (by decide))) .nil)
  exact ⟨keeps, ((withFlags_grammar _ keeps).1 _).mpr ⟨_, split, overrides_iff.mpr rfl⟩⟩

/-! ## Appending flags -/

/-- Once a command line is accepted, further arguments are read as if they stood
alone, unless its last flag would take the first of them. -/
theorem withFlags_append {config flagged : Config} {first second : List String}
    (accepted : config.withFlags first = .ok flagged)
    (apart : ¬ (EndsOpen first ∧ StartsPlain second)) :
    config.withFlags (first ++ second) = flagged.withFlags second := by
  rcases withFlags_eq_ok_iff.mp accepted with ⟨assignments, split, rfl⟩
  have reads : read (first ++ second) = (read second).map (assignments ++ ·) := by
    rw [read_eq, readFrom_append_of_splits split apart rfl, start_assigning, readFrom_preceded,
      read_eq]
  unfold withFlags
  rw [reads]
  cases read second with
  | error stop => rfl
  | ok others => simp [overlay_append]

/-- A flag behind an operand is a new beginning. -/
theorem withFlags_append_host_verbose :
    ¬ (EndsOpen ["-host", "car"] ∧ StartsPlain ["-verbose"]) ∧
      Config.default.withFlags (["-host", "car"] ++ ["-verbose"]) =
        (Config.default.overlay .flag [.host (.given "car")]).withFlags ["-verbose"] := by
  have accepted : Config.default.withFlags ["-host", "car"] =
      .ok (Config.default.overlay .flag [.host (.given "car")]) := rfl
  have apart : ¬ (EndsOpen ["-host", "car"] ∧ StartsPlain ["-verbose"]) := by
    rintro ⟨_, text, head, plain⟩
    cases head
    cases plain
  exact ⟨apart, withFlags_append accepted apart⟩

end ProxyLauncher.Config
