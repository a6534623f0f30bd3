import ProxyLauncher.Config.Resolve
import ProxyLauncher.Proofs.CommandLine.Grammar
import ProxyLauncher.Proofs.Config.EnvironmentLayer

/-!
# Layers on layers

A layer marks the settings that it gives a value, and the environment only looks
at settings without a mark.  So the texts that the environment has for an
overlaid configuration are those it had before, less the settings of the
overlay.

With this a resolved configuration is an overlay by the assignments of the
command line and then by what the remaining texts give.
-/

namespace ProxyLauncher.Config

open CommandLine

/-! ## The texts behind an overlay -/

theorem sourceOf_overlay (config : Config) (source : Source) (assignments : List Assignment)
    (setting : Setting) :
    (config.overlay source assignments).sourceOf setting =
      if (lastFor? assignments setting).isSome then source else config.sourceOf setting := by
  unfold sourceOf Sources.sourceOf
  rw [tag_overlay]
  split <;> rfl

/-- The environment has no text for what a layer above it gave. -/
theorem variableText_overlay {source : Source} (marks : source ≠ .default) (config : Config)
    (assignments : List Assignment) (environment : Environment) (setting : Setting) :
    (config.overlay source assignments).variableText environment setting =
      if (lastFor? assignments setting).isSome then none
      else config.variableText environment setting := by
  unfold variableText
  rw [sourceOf_overlay]
  by_cases given : (lastFor? assignments setting).isSome
  · rw [if_pos given, if_pos given, if_neg marks]
  · rw [if_neg given, if_neg given]

/-! ## Outcomes -/

theorem withEnvironment_eq_ok_iff {config result : Config} {environment : Environment} :
    config.withEnvironment environment = .ok result ↔
      firstFault? (config.variableText environment) = none ∧
        result = config.overlay .environment (givenBy (config.variableText environment)) := by
  rw [withEnvironment_eq]
  cases firstFault? (config.variableText environment) with
  | none => simp [eq_comm]
  | some fault => simp

theorem resolve_eq_bind (defaults : Config) (arguments : List String)
    (environment : Environment) :
    defaults.resolve arguments environment =
      (defaults.withFlags arguments).mapError .flags >>= fun flagged =>
        (flagged.withEnvironment environment).mapError .environment := by
  unfold resolve
  cases defaults.withFlags arguments <;> rfl

/-- A configuration is resolved exactly when the command line splits and no
remaining text has a fault, and then both layers are laid over the defaults. -/
theorem resolve_eq_ok_iff {defaults config : Config} {arguments : List String}
    {environment : Environment} :
    defaults.resolve arguments environment = .ok config ↔
      ∃ flagged, defaults.withFlags arguments = .ok flagged ∧
        firstFault? (flagged.variableText environment) = none ∧
        config = flagged.overlay .environment (givenBy (flagged.variableText environment)) := by
  rw [resolve_eq_bind, bind_eq_ok_iff]
  simp only [mapError_eq_ok_iff, withEnvironment_eq_ok_iff]

end ProxyLauncher.Config
