import ProxyLauncher.Config.Resolve
import ProxyLauncher.Proofs.CommandLine.Attached

/-!
# Ways to write a flag

A flag and its operand can be written as two arguments or as one, and with one
dash or with two.  The ways go through classification and reading differently:
a spelling on its own is left waiting for the plain argument behind it, while an
attached operand is used at once.

All arguments are classified before the first one takes effect.  So what a list
of arguments does, `effect`, is either to be ambiguous or to take any progress
further.  Lists with the same effect can be exchanged in front of anything, and
behind anything in which the flags do not end.
-/

namespace ProxyLauncher

/-- The name of a setting's flag, as it stands behind the dashes. -/
def Setting.flagName : Setting → String
  | .verbose => "verbose"
  | .host => "host"
  | .port => "port"
  | .timeout => "timeout"
  | .keyFile => "key-file"

/-- The flag of a setting. -/
def Setting.flag : Setting → CommandLine.Flag
  | .verbose => .verbose
  | .host => .host
  | .port => .port
  | .timeout => .timeout
  | .keyFile => .keyFile

namespace CommandLine

open Progress

/-! ## The effect of arguments -/

/-- What arguments do to the reading: the first ambiguous one stops it, and otherwise they take any
progress further, or stop there. -/
def effect (arguments : List String) : Except Ambiguity (Progress → Except Stop Progress) :=
  (classifyAll arguments).map readArguments

/-- How a command line is read depends on the effect of its arguments alone. -/
theorem readFrom_eq_effect (progress : Progress) (arguments : List String) :
    readFrom progress arguments =
      match effect arguments with
      | .error ambiguity => .error (.rejected (.ambiguous ambiguity))
      | .ok advance => advance progress >>= finish := by
  unfold readFrom effect
  cases classifyAll arguments <;> rfl

theorem effect_cons {text : String} {word : Word} (classified : classify text = .ok word)
    (inside : word ≠ .separator) (rest : List String) :
    effect (text :: rest) =
      (effect rest).map fun advance progress => progress.step ⟨text, word⟩ >>= advance := by
  unfold effect
  rw [classifyAll_cons rest classified inside]
  cases classifyAll rest <;> rfl

theorem effect_cons_of_ambiguous {text : String} {ambiguity : Ambiguity}
    (ambiguous : classify text = .error ambiguity) (rest : List String) :
    effect (text :: rest) = .error ambiguity := by
  unfold effect
  rw [classifyAll, ambiguous]
  rfl

/-- What has the same effect can be exchanged behind anything in which the flags do not end. -/
theorem effect_append_congr {before first second : List String} (inside : "--" ∉ before)
    (same : effect first = effect second) : effect (before ++ first) = effect (before ++ second) := by
  induction before with
  | nil => exact same
  | cons text rest ih =>
      have restSame := ih fun separated => inside (List.mem_cons_of_mem text separated)
      simp only [List.cons_append]
      cases classified : classify text with
      | error ambiguity =>
          rw [effect_cons_of_ambiguous classified, effect_cons_of_ambiguous classified]
      | ok word =>
          have insideWord : word ≠ .separator := by
            rintro rfl
            cases wordText_of_classify classified with
            | separator dashes => exact inside (by simp [dashes])
          rw [effect_cons classified insideWord, effect_cons classified insideWord, restSame]

/-! ## An operand attached and an operand behind -/

/-- A spelling on its own is a flag without an operand. -/
theorem classify_of_mem_declared {spelling : String} {flag : Flag}
    (known : (spelling, flag) ∈ declared) : classify spelling = .ok (.flag flag spelling none) := by
  rcases dash_of_mem_declared known with ⟨⟨rest, dash⟩, _⟩
  have found := flagOf?_of_mem_declared known
  have inside : rest ≠ ['-'] := by
    rintro rfl
    have dashes : spelling = "--" := String.toList_inj.mp dash
    rw [dashes] at found
    contradiction
  rw [classify, dash]
  simp only [inside, if_false, found]

/-- A flag with an attached operand uses it as soon as nothing else waits. -/
theorem step_attached (progress : Progress) (text : String) (flag : Flag)
    (spelling operand : String) :
    progress.step ⟨text, .flag flag spelling (some operand)⟩ =
      progress.settle >>= fun settled => settled.use flag spelling (some operand) := by
  rw [step_of_not_plain progress (by simp)]
  simp only [begin_attached]

/-- A flag that is left waiting uses the plain argument behind it as it would use an attached one. -/
theorem step_open_plain (progress : Progress) (text : String) {flag : Flag} (useful : flag ≠ .help)
    (spelling operand : String) :
    (progress.step ⟨text, .flag flag spelling none⟩ >>= (·.step ⟨operand, .plain⟩)) =
      progress.settle >>= fun settled => settled.use flag spelling (some operand) := by
  rw [step_of_not_plain progress (by simp)]
  cases progress.settle with
  | error stop => rfl
  | ok settled =>
      rw [ok_bind, ok_bind, begin_open settled text spelling useful, ok_bind,
        step_of_waiting_plain rfl rfl]
      rfl

section Operand

variable {spelling other operand : String} {flag : Flag} (useful : flag ≠ .help)

include useful

/-- It makes no difference whether a plain operand stands behind its flag or is attached to it. -/
theorem effect_separate (known : (spelling, flag) ∈ declared)
    (plain : classify operand = .ok .plain) (after : List String) :
    effect (spelling :: operand :: after) = effect ((spelling ++ "=" ++ operand) :: after) := by
  rw [effect_cons (classify_of_mem_declared known) (by simp), effect_cons plain (by simp),
    effect_cons (classify_attached known operand) (by simp)]
  cases effect after with
  | error ambiguity => rfl
  | ok advance =>
      simp only [map_ok, Except.ok.injEq]
      funext progress
      rw [← bind_assoc, step_open_plain progress spelling useful, step_attached]

/-- Two spellings of a flag do the same with an operand if both negate or neither does. -/
theorem useFlag_congr (alike : spelling = negatedSpelling ↔ other = negatedSpelling)
    (operand : Option String) : useFlag flag spelling operand = useFlag flag other operand := by
  cases flag with
  | help => contradiction
  | verbose => simp only [useFlag, assignVerbosity, alike]
  | host => cases operand <;> rfl
  | port => cases operand <;> rfl
  | timeout => cases operand <;> rfl
  | keyFile => cases operand <;> rfl

theorem effect_attached_congr (known : (spelling, flag) ∈ declared)
    (knownToo : (other, flag) ∈ declared)
    (alike : spelling = negatedSpelling ↔ other = negatedSpelling) (operand : String)
    (after : List String) :
    effect ((spelling ++ "=" ++ operand) :: after) =
      effect ((other ++ "=" ++ operand) :: after) := by
  rw [effect_cons (classify_attached known operand) (by simp),
    effect_cons (classify_attached knownToo operand) (by simp)]
  simp only [step_attached, use_eq, useFlag_congr useful alike]

end Operand

/-! ## The ways to write a setting -/

/-- The ways to write the flag of a setting with an operand: with one dash or two, and with the
operand behind it or attached. -/
def writings (setting : Setting) (operand : String) : List (List String) :=
  [["-" ++ setting.flagName, operand], ["--" ++ setting.flagName, operand],
    ["-" ++ setting.flagName ++ "=" ++ operand], ["--" ++ setting.flagName ++ "=" ++ operand]]

theorem mem_declared_short (setting : Setting) :
    ("-" ++ setting.flagName, setting.flag) ∈ declared := by
  cases setting <;> decide

theorem mem_declared_long (setting : Setting) :
    ("--" ++ setting.flagName, setting.flag) ∈ declared := by
  cases setting <;> decide

theorem flag_ne_help (setting : Setting) : setting.flag ≠ .help := by
  cases setting <;> decide

/-- Attached operands have the same effect behind one dash and behind two. -/
theorem effect_long (setting : Setting) (operand : String) (after : List String) :
    effect (("--" ++ setting.flagName ++ "=" ++ operand) :: after) =
      effect (("-" ++ setting.flagName ++ "=" ++ operand) :: after) := by
  have alike : "--" ++ setting.flagName = negatedSpelling ↔
      "-" ++ setting.flagName = negatedSpelling := by
    cases setting <;> decide
  exact effect_attached_congr (flag_ne_help setting) (mem_declared_long setting)
    (mem_declared_short setting) alike operand after

/-- Every way to write a setting has the effect of the shortest. -/
theorem effect_of_mem_writings {setting : Setting} {operand : String}
    (plain : classify operand = .ok .plain) {writing : List String}
    (written : writing ∈ writings setting operand) (after : List String) :
    effect (writing ++ after) =
      effect (("-" ++ setting.flagName ++ "=" ++ operand) :: after) := by
  have useful := flag_ne_help setting
  simp only [writings, List.mem_cons, List.not_mem_nil, or_false] at written
  rcases written with rfl | rfl | rfl | rfl
  · exact effect_separate useful (mem_declared_short setting) plain after
  · exact (effect_separate useful (mem_declared_long setting) plain after).trans
      (effect_long setting operand after)
  · rfl
  · exact effect_long setting operand after

end CommandLine

namespace Config

open CommandLine

/-- Configurations are overlaid alike by command lines that differ in arguments of the same effect. -/
theorem withFlags_congr (config : Config) {before first second after : List String}
    (inside : "--" ∉ before) (same : effect (first ++ after) = effect (second ++ after)) :
    config.withFlags (before ++ first ++ after) = config.withFlags (before ++ second ++ after) := by
  have whole := effect_append_congr inside same
  rw [withFlags, withFlags, read_eq, read_eq, readFrom_eq_effect, readFrom_eq_effect,
    List.append_assoc, List.append_assoc, whole]

/-- Wherever flags are still read, all ways to write a setting with a plain operand lead to the same
configuration, or stop for the same reason; so do both ways to write the negated flag with one.  An
attached operand need not be plain for one dash to be as good as two. -/
theorem withFlags_writings (config : Config) {before : List String} (inside : "--" ∉ before)
    (after : List String) (operand : String) :
    (classify operand = .ok .plain → ∀ setting,
      ∀ writing ∈ writings setting operand, ∀ other ∈ writings setting operand,
        config.withFlags (before ++ writing ++ after) =
          config.withFlags (before ++ other ++ after)) ∧
    (classify operand = .ok .plain →
      config.withFlags (before ++ ["--no-verbose", operand] ++ after) =
        config.withFlags (before ++ ["--no-verbose=" ++ operand] ++ after)) ∧
    ∀ setting : Setting,
      config.withFlags (before ++ ["-" ++ setting.flagName ++ "=" ++ operand] ++ after) =
        config.withFlags (before ++ ["--" ++ setting.flagName ++ "=" ++ operand] ++ after) := by
  refine ⟨?_, ?_, ?_⟩
  · intro plain setting writing written other otherWritten
    apply withFlags_congr config inside
    rw [effect_of_mem_writings plain written, effect_of_mem_writings plain otherWritten]
  · intro plain
    have known : ("--no-verbose", Flag.verbose) ∈ declared := by decide
    exact withFlags_congr config inside (effect_separate (by decide) known plain after)
  · intro setting
    exact withFlags_congr config inside (effect_long setting operand after).symm

/-- An empty host behind a waiting flag, in front of a stray: the outcome names the stray alone. -/
theorem withFlags_writings_empty_host :
    "--" ∉ ["-verbose"] ∧
      Config.default.withFlags (["-verbose"] ++ ["-host", ""] ++ ["car"]) =
        Config.default.withFlags (["-verbose"] ++ ["--host="] ++ ["car"]) := by
  have inside : "--" ∉ ["-verbose"] := by decide
  have plain : classify "" = .ok .plain := rfl
  refine ⟨inside, ?_⟩
  exact (withFlags_writings Config.default inside ["car"] "").1 plain .host _ (by decide) _
    (by decide)

end Config

end ProxyLauncher
