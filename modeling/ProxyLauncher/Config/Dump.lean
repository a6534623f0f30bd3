import ProxyLauncher.Config.Basic
import ProxyLauncher.Text.Quoted

/-!
# Showing a configuration

In the log a configuration is shown setting by setting, each with its value and
its source. Text values are quoted, so that no value can pass for another one or
break a line.
-/

namespace ProxyLauncher.Config

/-- A truth value as it is shown. -/
def shownBoolean (value : Bool) : String :=
  if value then "True" else "False"

/-- The value of a setting as it is shown. -/
def shownValue (config : Config) : Setting → String
  | .verbose => shownBoolean config.verbose
  | .host => config.host.render Text.quoted
  | .port => config.port.render toString
  | .timeout => config.timeout.render Number.Binary64.render
  | .keyFile =>
    match config.keyFile with
    | none => "None"
    | some path => path.render Text.quoted

/-- The line of a setting: its name, its value and its source. -/
def dumpLine (config : Config) (setting : Setting) : String :=
  "config " ++ setting.name ++ "=" ++ config.shownValue setting ++ " (" ++
    (config.sourceOf setting).name ++ ")"

/-- The lines of all settings. -/
def dump (config : Config) : List String :=
  Setting.all.map config.dumpLine

end ProxyLauncher.Config
