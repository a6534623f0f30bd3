import ProxyLauncher.Proofs.CommandLine.Naming
import ProxyLauncher.Proofs.Config.FlagLayer
import ProxyLauncher.Proofs.Config.Layers

/-!
# Where a revised configuration comes from

A configuration is revised by command lines, by environments and by both at
once, in any order and any number of times.  A revision that fails leaves it as
it was.

What one revision does to one setting is said once, by `Change`.  The invariant
of all revisions of the built-in configuration, `Traceable`, follows from it: a
setting without a tag still has its built-in value, and a tag never says that
the value is built in.  So the tags are determined by the sources they stand
for, and configurations are equal when their values and sources are.
-/

namespace ProxyLauncher

/-- The strength of a source: flags are stronger than variables, and variables than built-in
values. -/
def Source.rank : Source → Nat
  | .default => 0
  | .environment => 1
  | .flag => 2

namespace Config

open CommandLine

/-! ## Revisions -/

/-- A way to revise a configuration. -/
inductive Revision where
  | flags (arguments : List String)
  | environment (environment : Environment)
  | resolve (arguments : List String) (environment : Environment)

/-- The command line of a revision.  A mere environment has none. -/
def Revision.arguments : Revision → List String
  | .flags arguments => arguments
  | .environment _ => []
  | .resolve arguments _ => arguments

/-- The outcome of a revision. -/
def tryRevise (config : Config) : Revision → Except ResolveFault Config
  | .flags arguments => (config.withFlags arguments).mapError .flags
  | .environment environment => (config.withEnvironment environment).mapError .environment
  | .resolve arguments environment => config.resolve arguments environment

/-- The configuration after a revision, which is the same as before if the revision fails. -/
def revise (config : Config) (revision : Revision) : Config :=
  match config.tryRevise revision with
  | .ok revised => revised
  | .error _ => config

/-- The configuration after several revisions, each of what the one before it left. -/
def reviseAll (config : Config) (revisions : List Revision) : Config :=
  revisions.foldl revise config

theorem reviseAll_append (config : Config) (first second : List Revision) :
    config.reviseAll (first ++ second) = (config.reviseAll first).reviseAll second := by
  simp [reviseAll]

/-! ## One revision of one setting -/

/-- What a revision with a command line can do to a setting. -/
inductive Change (before after : Config) (arguments : List String) (setting : Setting) : Prop
  /-- The command line names the setting, which is a flag's from now on. -/
  | named (named : Named arguments setting) (tag : after.sources.tag setting = some .flag)
  /-- The setting had no source, and now it has its variable. -/
  | read (unsourced : before.sourceOf setting = .default)
      (tag : after.sources.tag setting = some .environment)
  /-- The setting is left alone. -/
  | kept (value : after.valueOf? setting = before.valueOf? setting)
      (tag : after.sources.tag setting = before.sources.tag setting)

theorem sourceOf_eq_of_tag {left right : Config} {setting : Setting}
    (tag : left.sources.tag setting = right.sources.tag setting) :
    left.sourceOf setting = right.sourceOf setting := by
  rw [sourceOf, sourceOf, Sources.sourceOf, Sources.sourceOf, tag]

theorem sourceOf_of_tag {config : Config} {setting : Setting} {source : Source}
    (tag : config.sources.tag setting = some source) : config.sourceOf setting = source := by
  rw [sourceOf, Sources.sourceOf, tag, Option.getD_some]

theorem change_of_withFlags {config flagged : Config} {arguments : List String}
    (laid : config.withFlags arguments = .ok flagged) (setting : Setting) :
    Change config flagged arguments setting ∧
      flagged.sources.foreign = config.sources.foreign := by
  rcases withFlags_eq_ok_iff.mp laid with ⟨assignments, split, rfl⟩
  refine ⟨?_, foreign_overlay config .flag assignments⟩
  have overrides := overrides_iff.mpr (rfl : config.overlay .flag assignments = _)
  cases last : lastFor? assignments setting with
  | some assignment =>
      have named : Named arguments setting := by
        rw [split.named_iff, last]
        rfl
      exact .named named (overrides.named setting assignment last).2
  | none =>
      obtain ⟨value, tag⟩ := overrides.unnamed setting last
      exact .kept value tag

/-- A text is only looked for where nothing has given a value. -/
theorem unsourced_of_variableText {config : Config} {environment : Environment}
    {setting : Setting} {text : String}
    (present : config.variableText environment setting = some text) :
    config.sourceOf setting = .default := by
  unfold variableText at present
  split at present
  · assumption
  · contradiction

theorem change_of_withEnvironment {config supplied : Config} {environment : Environment}
    (laid : config.withEnvironment environment = .ok supplied) (arguments : List String)
    (setting : Setting) :
    Change config supplied arguments setting ∧
      supplied.sources.foreign = config.sources.foreign := by
  obtain ⟨_, rfl⟩ := withEnvironment_eq_ok_iff.mp laid
  refine ⟨?_, foreign_overlay config .environment _⟩
  cases given : givenAt? (config.variableText environment) setting with
  | some assignment =>
      obtain ⟨text, present, _⟩ := givenAt?_eq_some_iff.mp given
      exact .read (unsourced_of_variableText present) (overlay_givenBy_of_given config given).2
  | none =>
      obtain ⟨value, tag⟩ := overlay_givenBy_of_silent config given
      exact .kept value tag

/-- Flags and then an environment: what a flag has given, the environment leaves alone. -/
theorem Change.trans {before flagged after : Config} {arguments : List String} {setting : Setting}
    (flags : Change before flagged arguments setting)
    (environment : Change flagged after [] setting) : Change before after arguments setting := by
  cases environment with
  | named named _ => simp [Named] at named
  | read unsourced tag =>
      cases flags with
      | named _ flagTag =>
          rw [sourceOf_of_tag flagTag] at unsourced
          contradiction
      | read _ readTag =>
          rw [sourceOf_of_tag readTag] at unsourced
          contradiction
      | kept _ keptTag => exact .read (sourceOf_eq_of_tag keptTag ▸ unsourced) tag
  | kept value tag =>
      cases flags with
      | named named flagTag => exact .named named (tag.trans flagTag)
      | read unsourced readTag => exact .read unsourced (tag.trans readTag)
      | kept flagValue flagTag => exact .kept (value.trans flagValue) (tag.trans flagTag)

theorem change_of_resolve {config resolved : Config} {arguments : List String}
    {environment : Environment} (ended : config.resolve arguments environment = .ok resolved)
    (setting : Setting) :
    Change config resolved arguments setting ∧
      resolved.sources.foreign = config.sources.foreign := by
  rw [resolve_eq_bind] at ended
  obtain ⟨flagged, flags, supplied⟩ := bind_eq_ok_iff.mp ended
  obtain ⟨first, firstForeign⟩ := change_of_withFlags (mapError_eq_ok_iff.mp flags) setting
  obtain ⟨second, secondForeign⟩ :=
    change_of_withEnvironment (mapError_eq_ok_iff.mp supplied) [] setting
  exact ⟨first.trans second, secondForeign.trans firstForeign⟩

theorem change_of_tryRevise {config revised : Config} {revision : Revision}
    (ended : config.tryRevise revision = .ok revised) (setting : Setting) :
    Change config revised revision.arguments setting ∧
      revised.sources.foreign = config.sources.foreign := by
  cases revision with
  | flags arguments => exact change_of_withFlags (mapError_eq_ok_iff.mp ended) setting
  | environment environment =>
      exact change_of_withEnvironment (mapError_eq_ok_iff.mp ended) [] setting
  | resolve arguments environment => exact change_of_resolve ended setting

/-- All that a revision can do, whether or not it succeeds. -/
theorem change_revise (config : Config) (revision : Revision) (setting : Setting) :
    Change config (config.revise revision) revision.arguments setting ∧
      (config.revise revision).sources.foreign = config.sources.foreign := by
  unfold revise
  cases ended : config.tryRevise revision with
  | error fault => exact ⟨.kept rfl rfl, rfl⟩
  | ok revised => exact change_of_tryRevise ended setting

/-! ## The invariant -/

/-- A configuration whose values can be traced to their sources. -/
structure Traceable (config : Config) : Prop where
  /-- Nothing is tagged but settings. -/
  foreign : config.sources.foreign = []
  /-- No tag says that a value is built in. -/
  marked : ∀ setting, config.sources.tag setting ≠ some .default
  /-- A setting without a tag has its built-in value. -/
  builtIn : ∀ setting, config.sources.tag setting = none →
    config.valueOf? setting = Config.default.valueOf? setting

theorem traceable_default : Traceable Config.default := by
  constructor
  · rfl
  · intro setting
    simp [Config.default, Sources.none]
  · intro setting _
    rfl

/-- A revision keeps the invariant. -/
theorem Traceable.revise {config : Config} (traceable : Traceable config) (revision : Revision) :
    Traceable (config.revise revision) := by
  have change := fun setting => (change_revise config revision setting).1
  constructor
  case foreign => exact (change_revise config revision .host).2.trans traceable.foreign
  case marked =>
    intro setting
    cases change setting with
    | named _ tag => simp [tag]
    | read _ tag => simp [tag]
    | kept _ tag =>
        rw [tag]
        exact traceable.marked setting
  case builtIn =>
    intro setting untagged
    cases change setting with
    | named _ tag =>
        rw [tag] at untagged
        contradiction
    | read _ tag =>
        rw [tag] at untagged
        contradiction
    | kept value tag =>
        rw [tag] at untagged
        rw [value]
        exact traceable.builtIn setting untagged

theorem Traceable.reviseAll {config : Config} (traceable : Traceable config)
    (revisions : List Revision) : Traceable (config.reviseAll revisions) := by
  induction revisions generalizing config with
  | nil => exact traceable
  | cons revision rest ih => exact ih (traceable.revise revision)

/-- Every tag is that of a setting, and names a variable or a flag. -/
theorem Traceable.mem_toList {config : Config} (traceable : Traceable config) {name : String}
    {source : Source} (tagged : (name, source) ∈ config.sources.toList) :
    (∃ setting : Setting, setting.name = name) ∧ (source = .environment ∨ source = .flag) := by
  rw [Sources.toList, traceable.foreign, List.append_nil] at tagged
  obtain ⟨setting, _, found⟩ := List.mem_filterMap.mp tagged
  obtain ⟨_, tag, entry⟩ := Option.map_eq_some_iff.mp found
  cases entry
  refine ⟨⟨setting, rfl⟩, ?_⟩
  cases source with
  | default => exact absurd tag (traceable.marked setting)
  | environment => exact .inl rfl
  | flag => exact .inr rfl

/-! ## Sources over time -/

theorem rank_revise (config : Config) (revision : Revision) (setting : Setting) :
    (config.sourceOf setting).rank ≤ ((config.revise revision).sourceOf setting).rank := by
  cases (change_revise config revision setting).1 with
  | named _ tag =>
      rw [sourceOf_of_tag tag]
      cases config.sourceOf setting <;> decide
  | read unsourced tag =>
      rw [unsourced]
      exact Nat.zero_le _
  | kept _ tag => exact Nat.le_of_eq (congrArg Source.rank (sourceOf_eq_of_tag tag).symm)

/-- Sources only get stronger. -/
theorem rank_reviseAll (config : Config) (revisions : List Revision) (setting : Setting) :
    (config.sourceOf setting).rank ≤ ((config.reviseAll revisions).sourceOf setting).rank := by
  induction revisions generalizing config with
  | nil => exact Nat.le_refl _
  | cons revision rest ih => exact Nat.le_trans (rank_revise config revision setting) (ih _)

/-- A setting with a source is only changed by a command line that names it. -/
theorem kept_of_revise {config : Config} {revision : Revision} {setting : Setting}
    (sourced : config.sourceOf setting ≠ .default)
    (unnamed : ¬ Named revision.arguments setting) :
    (config.revise revision).valueOf? setting = config.valueOf? setting ∧
      (config.revise revision).sources.tag setting = config.sources.tag setting := by
  cases (change_revise config revision setting).1 with
  | named named _ => exact absurd named unnamed
  | read unsourced _ => exact absurd unsourced sourced
  | kept value tag => exact ⟨value, tag⟩

theorem kept_of_reviseAll {config : Config} {revisions : List Revision} {setting : Setting}
    (sourced : config.sourceOf setting ≠ .default)
    (unnamed : ∀ revision ∈ revisions, ¬ Named revision.arguments setting) :
    (config.reviseAll revisions).valueOf? setting = config.valueOf? setting := by
  induction revisions generalizing config with
  | nil => rfl
  | cons revision rest ih =>
      obtain ⟨value, tag⟩ := kept_of_revise sourced (unnamed revision List.mem_cons_self)
      have sourcedStill : (config.revise revision).sourceOf setting ≠ .default := by
        rw [sourceOf_eq_of_tag tag]
        exact sourced
      rw [← value]
      exact ih sourcedStill fun later member => unnamed later (List.mem_cons_of_mem revision member)

/-! ## Equality -/

theorem source_name (config : Config) (setting : Setting) :
    config.source setting.name = config.sourceOf setting := by
  simp only [source, Sources.sourceOfName, Setting.ofName?_name]
  rfl

/-- Where no tag says that a value is built in, the source of a setting determines its tag. -/
theorem tag_eq_of_sourceOf {left right : Config} {setting : Setting}
    (leftMarked : left.sources.tag setting ≠ some .default)
    (rightMarked : right.sources.tag setting ≠ some .default)
    (same : left.sourceOf setting = right.sourceOf setting) :
    left.sources.tag setting = right.sources.tag setting := by
  cases leftTag : left.sources.tag setting with
  | none =>
      cases rightTag : right.sources.tag setting with
      | none => rfl
      | some source =>
          rw [sourceOf_of_tag rightTag, sourceOf, Sources.sourceOf, leftTag, Option.getD_none] at same
          exact absurd (rightTag.trans (by rw [same])) rightMarked
  | some source =>
      cases rightTag : right.sources.tag setting with
      | none =>
          rw [sourceOf_of_tag leftTag, sourceOf, Sources.sourceOf, rightTag, Option.getD_none] at same
          exact absurd (leftTag.trans (by rw [same])) leftMarked
      | some other => rw [← sourceOf_of_tag leftTag, ← sourceOf_of_tag rightTag, same]

/-- Traceable configurations have the same tags when every name has the same source. -/
theorem Traceable.sources_eq_iff {left right : Config} (leftTraceable : Traceable left)
    (rightTraceable : Traceable right) :
    left.sources = right.sources ↔ ∀ name, left.source name = right.source name := by
  constructor
  · intro same name
    rw [source, source, same]
  · intro same
    apply (Sources.same_iff _ _).mp
    simp only [Sources.same, Bool.and_eq_true, List.all_eq_true, beq_iff_eq]
    constructor
    · intro setting _
      have sourceEq := same setting.name
      rw [source_name, source_name] at sourceEq
      exact tag_eq_of_sourceOf (leftTraceable.marked setting) (rightTraceable.marked setting)
        sourceEq
    · rw [leftTraceable.foreign, rightTraceable.foreign]

/-- Configurations agree on their values.  Timeouts are compared as numbers. -/
structure SameValues (left right : Config) : Prop where
  verbose : left.verbose = right.verbose
  host : left.host = right.host
  port : left.port = right.port
  timeout : left.timeout.sameBy Number.Binary64.alike right.timeout = true
  keyFile : left.keyFile = right.keyFile

theorem same_eq_true_iff {left right : Config} :
    left.same right = true ↔ SameValues left right ∧ left.sources = right.sources := by
  simp only [same, Bool.and_eq_true, beq_iff_eq, Sources.same_iff]
  constructor
  · rintro ⟨⟨⟨⟨⟨verbose, host⟩, port⟩, timeout⟩, keyFile⟩, sources⟩
    exact ⟨⟨verbose, host, port, timeout, keyFile⟩, sources⟩
  · rintro ⟨⟨verbose, host, port, timeout, keyFile⟩, sources⟩
    exact ⟨⟨⟨⟨⟨verbose, host⟩, port⟩, timeout⟩, keyFile⟩, sources⟩

/-! ## All revisions of the built-in configuration -/

/-- The law of a configuration that revisions of the built-in one have led to. -/
structure ProvenanceLaw (revisions : List Revision) (config : Config) : Prop where
  /-- Only settings are tagged, and as given by a variable or a flag. -/
  tags : ∀ name source, (name, source) ∈ config.sources.toList →
    (∃ setting : Setting, setting.name = name) ∧ (source = .environment ∨ source = .flag)
  /-- A setting without a tag has its built-in value. -/
  builtIn : ∀ setting, config.sources.tag setting = none →
    config.valueOf? setting = Config.default.valueOf? setting
  /-- On the way to the configuration, the source of a setting never got weaker. -/
  rises : ∀ earlier later, revisions = earlier ++ later → ∀ setting,
    ((Config.default.reviseAll earlier).sourceOf setting).rank ≤ (config.sourceOf setting).rank
  /-- What has a source is never changed by an environment. -/
  steady : ∀ environment supplied, config.withEnvironment environment = .ok supplied →
    ∀ setting, config.sourceOf setting ≠ .default →
      supplied.valueOf? setting = config.valueOf? setting ∧
        supplied.sources.tag setting = config.sources.tag setting
  /-- What a flag has given is the same after any further revisions, unless one of them names it. -/
  given : ∀ later setting, config.sourceOf setting = .flag →
    (config.reviseAll later).valueOf? setting ≠ config.valueOf? setting →
      ∃ revision ∈ later, Named revision.arguments setting
  /-- Configurations that come about in this way are equal when their values and sources are. -/
  same : ∀ others, config.same (Config.default.reviseAll others) = true ↔
    SameValues config (Config.default.reviseAll others) ∧
      ∀ name, config.source name = (Config.default.reviseAll others).source name

/-- Whatever revisions the built-in configuration goes through, its values can be traced to their
sources. -/
theorem reviseAll_provenance (revisions : List Revision) :
    ProvenanceLaw revisions (Config.default.reviseAll revisions) := by
  have traceable := traceable_default.reviseAll revisions
  constructor
  case tags =>
    intro name source tagged
    exact traceable.mem_toList tagged
  case builtIn => exact traceable.builtIn
  case rises =>
    rintro earlier later rfl setting
    rw [reviseAll_append]
    exact rank_reviseAll _ later setting
  case steady =>
    intro environment supplied laid setting sourced
    have unnamed : ¬ Named (Revision.environment environment).arguments setting := by
      simp [Revision.arguments, Named]
    have kept := kept_of_revise sourced unnamed
    rw [revise, tryRevise, laid] at kept
    exact kept
  case given =>
    intro later setting flagged changed
    apply Classical.byContradiction
    intro unnamed
    simp only [not_exists, not_and] at unnamed
    have sourced : (Config.default.reviseAll revisions).sourceOf setting ≠ .default := by
      rw [flagged]
      decide
    exact changed (kept_of_reviseAll sourced unnamed)
  case same =>
    intro others
    rw [same_eq_true_iff, traceable.sources_eq_iff (traceable_default.reviseAll others)]

end Config

end ProxyLauncher
