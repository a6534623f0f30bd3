import ProxyLauncher.Config.Assignment

/-!
# Overlays, seen one setting at a time

A configuration is determined by the value and the tag of every setting,
together with the tags under foreign names.  Laying assignments over it changes
the settings they name and nothing else: such a setting takes the value of the
last assignment that names it, and the tag of the layer.

`Overrides` states this without reference to the order in which the layer makes
its assignments, and `overrides_iff` shows that it leaves exactly one result.
Everything about flags and variables is proved through this view.
-/

namespace ProxyLauncher

namespace Config

/-- The value of a setting, written as the assignment that gives it.  Only a key
file can be missing. -/
def valueOf? (config : Config) : Setting → Option Assignment
  | .verbose => some (.verbose config.verbose)
  | .host => some (.host config.host)
  | .port => some (.port config.port)
  | .timeout => some (.timeout config.timeout)
  | .keyFile => config.keyFile.map .keyFile

/-- Values and tags determine a configuration. -/
theorem eq_of_valueOf? {left right : Config}
    (values : ∀ setting, left.valueOf? setting = right.valueOf? setting)
    (tags : ∀ setting, left.sources.tag setting = right.sources.tag setting)
    (foreign : left.sources.foreign = right.sources.foreign) : left = right := by
  have verboseEq := values .verbose
  have hostEq := values .host
  have portEq := values .port
  have timeoutEq := values .timeout
  have keyFileEq := values .keyFile
  rcases left with ⟨_, _, _, _, leftKeyFile, leftTag, leftForeign⟩
  rcases right with ⟨_, _, _, _, rightKeyFile, rightTag, rightForeign⟩
  have tagEq : leftTag = rightTag := funext tags
  have foreignEq : leftForeign = rightForeign := foreign
  simp only [valueOf?, Option.some.injEq, Assignment.verbose.injEq, Assignment.host.injEq,
    Assignment.port.injEq, Assignment.timeout.injEq] at verboseEq hostEq portEq timeoutEq
  have pathEq : leftKeyFile = rightKeyFile := by
    apply Option.map_inj_right (fun _ _ equal => Assignment.keyFile.inj equal) |>.mp
    exact keyFileEq
  rw [verboseEq, hostEq, portEq, timeoutEq, pathEq, tagEq, foreignEq]

/-! ## One assignment -/

theorem valueOf?_setValue (config : Config) (assignment : Assignment) (setting : Setting) :
    (config.setValue assignment).valueOf? setting =
      if assignment.setting = setting then some assignment else config.valueOf? setting := by
  cases assignment <;> cases setting <;> rfl

theorem valueOf?_assign (source : Source) (config : Config) (assignment : Assignment)
    (setting : Setting) :
    (config.assign source assignment).valueOf? setting =
      if assignment.setting = setting then some assignment else config.valueOf? setting := by
  rw [← valueOf?_setValue]
  cases setting <;> rfl

theorem tag_assign (source : Source) (config : Config) (assignment : Assignment)
    (setting : Setting) :
    (config.assign source assignment).sources.tag setting =
      if assignment.setting = setting then some source else config.sources.tag setting := by
  simp only [assign, Sources.tag_set, eq_comm]

theorem foreign_assign (source : Source) (config : Config) (assignment : Assignment) :
    (config.assign source assignment).sources.foreign = config.sources.foreign :=
  rfl

/-! ## The last assignment that names a setting -/

/-- The last assignment that names a setting. -/
def lastFor? (assignments : List Assignment) (setting : Setting) : Option Assignment :=
  assignments.reverse.find? fun assignment => assignment.setting = setting

@[simp]
theorem lastFor?_nil (setting : Setting) : lastFor? [] setting = none :=
  rfl

theorem lastFor?_append (first second : List Assignment) (setting : Setting) :
    lastFor? (first ++ second) setting =
      (lastFor? second setting).or (lastFor? first setting) := by
  simp [lastFor?]

theorem lastFor?_cons (first : Assignment) (rest : List Assignment) (setting : Setting) :
    lastFor? (first :: rest) setting =
      (lastFor? rest setting).or (if first.setting = setting then some first else none) := by
  rw [← List.singleton_append, lastFor?_append]
  by_cases named : first.setting = setting <;> simp [lastFor?, named]

/-- The last assignment that names a setting does name it. -/
theorem setting_of_lastFor? {assignments : List Assignment} {setting : Setting}
    {assignment : Assignment} (last : lastFor? assignments setting = some assignment) :
    assignment.setting = setting := by
  simpa using List.find?_some last

/-! ## A whole layer -/

/-- The first configuration is the second one with the named settings replaced
and tagged on behalf of a source. -/
structure Overrides (result config : Config) (source : Source)
    (assignments : List Assignment) : Prop where
  /-- A named setting has its last value, and the source as its tag. -/
  named : ∀ setting assignment, lastFor? assignments setting = some assignment →
    result.valueOf? setting = some assignment ∧ result.sources.tag setting = some source
  /-- A setting that is not named keeps its value and its tag. -/
  unnamed : ∀ setting, lastFor? assignments setting = none →
    result.valueOf? setting = config.valueOf? setting ∧
      result.sources.tag setting = config.sources.tag setting
  /-- Tags under foreign names are kept. -/
  foreign : result.sources.foreign = config.sources.foreign

theorem valueOf?_overlay (config : Config) (source : Source) (assignments : List Assignment)
    (setting : Setting) :
    (config.overlay source assignments).valueOf? setting =
      (lastFor? assignments setting).or (config.valueOf? setting) := by
  induction assignments generalizing config with
  | nil => rfl
  | cons first rest ih =>
      change ((config.assign source first).overlay source rest).valueOf? setting = _
      rw [ih, lastFor?_cons, valueOf?_assign, Option.or_assoc]
      by_cases named : first.setting = setting <;> simp [named]

theorem tag_overlay (config : Config) (source : Source) (assignments : List Assignment)
    (setting : Setting) :
    (config.overlay source assignments).sources.tag setting =
      if (lastFor? assignments setting).isSome then some source
      else config.sources.tag setting := by
  induction assignments generalizing config with
  | nil => rfl
  | cons first rest ih =>
      change ((config.assign source first).overlay source rest).sources.tag setting = _
      rw [ih, lastFor?_cons, tag_assign]
      by_cases named : first.setting = setting <;>
        cases lastFor? rest setting <;> simp [named]

theorem foreign_overlay (config : Config) (source : Source) (assignments : List Assignment) :
    (config.overlay source assignments).sources.foreign = config.sources.foreign := by
  induction assignments generalizing config with
  | nil => rfl
  | cons first rest ih =>
      exact (ih (config.assign source first)).trans (foreign_assign source config first)

/-- A layer changes nothing when it is laid a second time. -/
theorem overlay_overlay_self (config : Config) (source : Source)
    (assignments : List Assignment) :
    (config.overlay source assignments).overlay source assignments =
      config.overlay source assignments := by
  apply eq_of_valueOf?
  · intro setting
    rw [valueOf?_overlay, valueOf?_overlay, ← Option.or_assoc, Option.or_self]
  · intro setting
    rw [tag_overlay, tag_overlay]
    split <;> rfl
  · rw [foreign_overlay]

/-- Laying assignments over a configuration is the one way to override it by them. -/
theorem overrides_iff {result config : Config} {source : Source}
    {assignments : List Assignment} :
    Overrides result config source assignments ↔ result = config.overlay source assignments := by
  constructor
  · intro overrides
    apply eq_of_valueOf?
    · intro setting
      rw [valueOf?_overlay]
      cases last : lastFor? assignments setting with
      | none => exact (overrides.unnamed setting last).1
      | some assignment => exact (overrides.named setting assignment last).1
    · intro setting
      rw [tag_overlay]
      cases last : lastFor? assignments setting with
      | none => exact (overrides.unnamed setting last).2
      | some assignment => exact (overrides.named setting assignment last).2
    · exact overrides.foreign.trans (foreign_overlay config source assignments).symm
  · rintro rfl
    refine ⟨?_, ?_, foreign_overlay config source assignments⟩
    · intro setting assignment last
      exact ⟨by simp [valueOf?_overlay, last], by simp [tag_overlay, last]⟩
    · intro setting last
      exact ⟨by simp [valueOf?_overlay, last], by simp [tag_overlay, last]⟩

end Config

end ProxyLauncher
