/-!
# Settings and their sources

The launcher has five settings. Each value carries a tag that says where it
came from, unless it is still the built-in one. Tags may also stand under names
that are no settings; such tags are carried along and never looked at.
-/

namespace ProxyLauncher

/-- The settings of the launcher. -/
inductive Setting where
  | verbose
  | host
  | port
  | timeout
  | keyFile
  deriving DecidableEq, Repr

namespace Setting

/-- Every setting, in the order in which they are shown. -/
def all : List Setting :=
  [.verbose, .host, .port, .timeout, .keyFile]

/-- The name of a setting. -/
def name : Setting → String
  | .verbose => "verbose"
  | .host => "host"
  | .port => "port"
  | .timeout => "timeout"
  | .keyFile => "key_file"

/-- The setting of a name. -/
def ofName? (name : String) : Option Setting :=
  all.find? fun setting => setting.name = name

/-- The environment variable of a setting. -/
def variableName : Setting → String
  | .verbose => "TESLA_VERBOSE"
  | .host => "TESLA_HTTP_PROXY_HOST"
  | .port => "TESLA_HTTP_PROXY_PORT"
  | .timeout => "TESLA_HTTP_PROXY_TIMEOUT"
  | .keyFile => "TESLA_KEY_FILE"

theorem mem_all (setting : Setting) : setting ∈ all := by
  cases setting <;> simp [all]

theorem ofName?_name (setting : Setting) : ofName? setting.name = some setting := by
  cases setting <;> decide

end Setting

/-- Where the value of a setting came from. -/
inductive Source where
  | default
  | environment
  | flag
  deriving DecidableEq, Repr

namespace Source

/-- Every source, weakest first. -/
def all : List Source :=
  [.default, .environment, .flag]

/-- The name of a source. -/
def name : Source → String
  | .default => "default"
  | .environment => "env"
  | .flag => "flag"

/-- The source of a name. -/
def ofName? (name : String) : Option Source :=
  all.find? fun source => source.name = name

theorem ofName?_name (source : Source) : ofName? source.name = some source := by
  cases source <;> decide

end Source

/-- The tags of a configuration: those of the settings, and those under other names. -/
structure Sources where
  tag : Setting → Option Source := fun _ => none
  foreign : List (String × Source) := []

namespace Sources

/-- No tags at all. -/
def none : Sources := {}

/-- Tags one setting and leaves the other tags alone. -/
def set (sources : Sources) (setting : Setting) (source : Source) : Sources :=
  { sources with tag := fun other => if other = setting then some source else sources.tag other }

/-- The source of a setting; without a tag it is the built-in one. -/
def sourceOf (sources : Sources) (setting : Setting) : Source :=
  (sources.tag setting).getD .default

/-- The source under any name, a setting's or another. -/
def sourceOfName (sources : Sources) (name : String) : Source :=
  match Setting.ofName? name with
  | some setting => sources.sourceOf setting
  | Option.none => (sources.foreign.lookup name).getD .default

/-- The tags by name: the settings' first, then the others. -/
def toList (sources : Sources) : List (String × Source) :=
  Setting.all.filterMap (fun setting => (sources.tag setting).map (setting.name, ·)) ++
    sources.foreign

/-- Equality of tags can be decided setting by setting. -/
def same (left right : Sources) : Bool :=
  Setting.all.all (fun setting => left.tag setting == right.tag setting) &&
    left.foreign == right.foreign

@[simp]
theorem tag_set (sources : Sources) (setting other : Setting) (source : Source) :
    (sources.set setting source).tag other =
      if other = setting then some source else sources.tag other :=
  rfl

@[simp]
theorem foreign_set (sources : Sources) (setting : Setting) (source : Source) :
    (sources.set setting source).foreign = sources.foreign :=
  rfl

@[simp]
theorem sourceOf_set_self (sources : Sources) (setting : Setting) (source : Source) :
    (sources.set setting source).sourceOf setting = source := by
  simp [sourceOf]

theorem sourceOf_set_of_ne {setting other : Setting} (different : other ≠ setting)
    (sources : Sources) (source : Source) :
    (sources.set setting source).sourceOf other = sources.sourceOf other := by
  simp [sourceOf, different]

/-- The decision agrees with equality. -/
theorem same_iff (left right : Sources) : same left right = true ↔ left = right := by
  constructor
  · intro agree
    simp only [same, Bool.and_eq_true, List.all_eq_true, beq_iff_eq] at agree
    cases left with
    | mk leftTag leftForeign =>
      cases right with
      | mk rightTag rightForeign =>
        have tags : leftTag = rightTag := funext fun setting => agree.1 setting (Setting.mem_all setting)
        simp only [tags, Sources.mk.injEq, true_and]
        exact agree.2
  · intro equal
    subst equal
    simp [same]

end Sources

end ProxyLauncher
