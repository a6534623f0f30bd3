import ProxyLauncher.Config.Basic

/-!
# Assignments

A layer of configuration, be it the flags or the environment, comes down to a
list of assignments. Laying the list over a configuration sets each named
setting and tags it with the layer's source; later assignments win.
-/

namespace ProxyLauncher

open Number

/-- One setting and the value it is given. -/
inductive Assignment where
  | verbose (value : Bool)
  | host (value : Operand String)
  | port (value : Operand Int)
  | timeout (value : Operand Binary64)
  | keyFile (value : Operand String)
  deriving DecidableEq, Repr

/-- The setting that an assignment names. -/
def Assignment.setting : Assignment → Setting
  | .verbose _ => .verbose
  | .host _ => .host
  | .port _ => .port
  | .timeout _ => .timeout
  | .keyFile _ => .keyFile

namespace Config

/-- Sets the value that an assignment names and leaves the tags alone. -/
def setValue (config : Config) : Assignment → Config
  | .verbose value => { config with verbose := value }
  | .host value => { config with host := value }
  | .port value => { config with port := value }
  | .timeout value => { config with timeout := value }
  | .keyFile value => { config with keyFile := some value }

/-- Makes one assignment on behalf of a source. -/
def assign (source : Source) (config : Config) (assignment : Assignment) : Config :=
  { config.setValue assignment with
    sources := config.sources.set assignment.setting source }

/-- Lays assignments over a configuration on behalf of a source. -/
def overlay (config : Config) (source : Source) (assignments : List Assignment) : Config :=
  assignments.foldl (assign source) config

@[simp]
theorem sources_setValue (config : Config) (assignment : Assignment) :
    (config.setValue assignment).sources = config.sources := by
  cases assignment <;> rfl

@[simp]
theorem overlay_nil (config : Config) (source : Source) : config.overlay source [] = config :=
  rfl

theorem overlay_append (config : Config) (source : Source) (first second : List Assignment) :
    config.overlay source (first ++ second) = (config.overlay source first).overlay source second := by
  simp [overlay]

end Config

end ProxyLauncher
