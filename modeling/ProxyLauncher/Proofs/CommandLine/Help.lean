import ProxyLauncher.Proofs.CommandLine.Progress

/-!
# When the help text is shown

The help flag takes effect as soon as it is read, so it never waits for an
operand, and no other flag ends the reading with the help text.  Both facts are
kept by every step; together they trace a help text back to a help flag on the
command line.
-/

namespace ProxyLauncher.CommandLine

open Progress

/-! ## One step -/

/-- No help flag waits.  It never does, since it takes effect at once. -/
def Helpless (progress : Progress) : Prop :=
  ∀ spelling, progress.waiting ≠ some (.help, spelling)

theorem mapError_rejected_ne_help {α : Type} (attempt : Except Rejection α) :
    attempt.mapError Stop.rejected ≠ .error .help := by
  cases attempt <;> simp

theorem useFlag_ne_help {flag : Flag} (useful : flag ≠ .help) (spelling : String)
    (operand : Option String) : useFlag flag spelling operand ≠ .error .help := by
  cases flag with
  | help => contradiction
  | verbose => exact mapError_rejected_ne_help _
  | host => cases operand <;> simp [useFlag, mapError_rejected_ne_help]
  | port => cases operand <;> simp [useFlag, mapError_rejected_ne_help]
  | timeout => cases operand <;> simp [useFlag, mapError_rejected_ne_help]
  | keyFile => cases operand <;> simp [useFlag, mapError_rejected_ne_help]

theorem use_ne_help {flag : Flag} (useful : flag ≠ .help) (progress : Progress)
    (spelling : String) (operand : Option String) :
    progress.use flag spelling operand ≠ .error .help := by
  intro used
  apply useFlag_ne_help useful spelling operand
  rw [use_eq] at used
  cases attempt : useFlag flag spelling operand with
  | ok assignment => simp [attempt] at used
  | error stop =>
      rw [attempt] at used
      cases used
      rfl

theorem useful_of_waiting {progress : Progress} (helpless : Helpless progress) {flag : Flag}
    {spelling : String} (waits : progress.waiting = some (flag, spelling)) : flag ≠ .help := by
  rintro rfl
  exact helpless spelling waits

theorem settle_ne_help {progress : Progress} (helpless : Helpless progress) :
    progress.settle ≠ .error .help := by
  cases waits : progress.waiting with
  | none => simp [settle_of_idle waits]
  | some entry =>
      rw [settle_of_waiting waits]
      exact use_ne_help (useful_of_waiting helpless waits) progress entry.2 none

theorem begin_eq_help {progress : Progress} {argument : Argument}
    (begun : progress.begin argument = .error .help) :
    ∃ spelling attached, argument.word = .flag .help spelling attached ∧
      stopForHelp spelling attached = .help := by
  rcases argument with ⟨text, word⟩
  cases word with
  | plain => contradiction
  | separator => contradiction
  | unknown => contradiction
  | flag flag spelling attached =>
      by_cases useful : flag = .help
      · subst useful
        exact ⟨spelling, attached, rfl, Except.error.inj begun⟩
      · cases attached with
        | none =>
            rw [begin_open progress text spelling useful] at begun
            contradiction
        | some operand =>
            rw [begin_attached] at begun
            exact absurd begun (use_ne_help useful progress spelling (some operand))

/-- A step ends with the help text only at a help flag. -/
theorem step_eq_help {progress : Progress} (helpless : Helpless progress) {argument : Argument}
    (stepped : progress.step argument = .error .help) :
    ∃ spelling attached, argument.word = .flag .help spelling attached ∧
      stopForHelp spelling attached = .help := by
  unfold step at stepped
  split at stepped
  · rename_i flag spelling waits plain
    exact absurd stepped (use_ne_help (useful_of_waiting helpless waits) progress _ _)
  · cases settles : progress.settle with
    | error stop =>
        rw [settles] at stepped
        cases stepped
        exact absurd settles (settle_ne_help helpless)
    | ok settled =>
        rw [settles] at stepped
        exact begin_eq_help stepped

theorem helpless_of_idle {progress : Progress} (idle : progress.waiting = none) :
    Helpless progress := by
  simp [Helpless, idle]

theorem helpless_of_use {progress next : Progress} {flag : Flag} {spelling : String}
    {operand : Option String} (used : progress.use flag spelling operand = .ok next) :
    Helpless next := by
  rw [use_eq] at used
  rcases map_eq_ok_iff.mp used with ⟨assignment, _, rfl⟩
  exact helpless_of_idle rfl

theorem helpless_of_begin {progress next : Progress} (idle : progress.waiting = none)
    {argument : Argument} (begun : progress.begin argument = .ok next) : Helpless next := by
  rcases argument with ⟨text, word⟩
  cases word with
  | plain =>
      cases begun
      exact helpless_of_idle idle
  | separator =>
      cases begun
      exact helpless_of_idle idle
  | unknown =>
      cases begun
      exact helpless_of_idle idle
  | flag flag spelling attached =>
      cases attached with
      | some operand =>
          rw [begin_attached] at begun
          exact helpless_of_use begun
      | none =>
          by_cases useful : flag = .help
          · subst useful
            contradiction
          · rw [begin_open progress text spelling useful] at begun
            cases begun
            intro other waits
            simp only [awaiting, Option.some.injEq, Prod.mk.injEq] at waits
            exact useful waits.1

theorem helpless_of_step {progress next : Progress} {argument : Argument}
    (stepped : progress.step argument = .ok next) : Helpless next := by
  unfold step at stepped
  split at stepped
  · exact helpless_of_use stepped
  · rcases bind_eq_ok_iff.mp stepped with ⟨settled, settles, begun⟩
    exact helpless_of_begin (waiting_of_settle settles) begun

/-! ## The whole reading -/

theorem readArguments_eq_help {arguments : List Argument} {progress : Progress}
    (helpless : Helpless progress)
    (reads : readArguments arguments progress = .error .help) :
    ∃ argument ∈ arguments, ∃ spelling attached,
      argument.word = .flag .help spelling attached ∧ stopForHelp spelling attached = .help := by
  induction arguments generalizing progress with
  | nil => contradiction
  | cons first rest ih =>
      rw [readArguments_cons] at reads
      cases stepped : progress.step first with
      | error stop =>
          rw [stepped] at reads
          cases reads
          exact ⟨first, List.mem_cons_self, step_eq_help helpless stepped⟩
      | ok next =>
          rw [stepped] at reads
          rcases ih (helpless_of_step stepped) reads with ⟨argument, member, found⟩
          exact ⟨argument, List.mem_cons_of_mem first member, found⟩

theorem helpless_of_readArguments {arguments : List Argument} {progress reached : Progress}
    (helpless : Helpless progress) (reads : readArguments arguments progress = .ok reached) :
    Helpless reached := by
  induction arguments generalizing progress with
  | nil =>
      cases reads
      exact helpless
  | cons first rest ih =>
      rw [readArguments_cons] at reads
      rcases bind_eq_ok_iff.mp reads with ⟨next, stepped, restReads⟩
      exact ih (helpless_of_step stepped) restReads

theorem finish_ne_help {progress : Progress} (helpless : Helpless progress) :
    finish progress ≠ .error .help := by
  intro finished
  cases settles : progress.settle with
  | error stop =>
      rw [finish, settles] at finished
      cases finished
      exact settle_ne_help helpless settles
  | ok settled =>
      rw [finish, settles, ok_bind] at finished
      split at finished <;> cases finished

/-- The help text is shown only on behalf of a help flag on the command line, with nothing attached
to it that it refuses. -/
theorem exists_stopForHelp_of_read {arguments : List String}
    (reads : read arguments = .error .help) :
    ∃ text ∈ arguments, ∃ spelling attached,
      classify text = .ok (.flag .help spelling attached) ∧
        stopForHelp spelling attached = .help := by
  rw [read_eq] at reads
  unfold readFrom at reads
  split at reads
  · cases reads
  · rename_i classified classifies
    cases attempt : readArguments classified .start with
    | error stop =>
        rw [attempt] at reads
        cases reads
        rcases readArguments_eq_help (helpless_of_idle rfl) attempt with
          ⟨argument, member, spelling, attached, wordEq, shown⟩
        have special : argument.word ≠ .plain := by simp [wordEq]
        rcases classify_of_mem_classifyAll classifies member special with ⟨among, own⟩
        exact ⟨argument.text, among, spelling, attached, wordEq ▸ own, shown⟩
    | ok reached =>
        rw [attempt] at reads
        exact absurd reads
          (finish_ne_help (helpless_of_readArguments (helpless_of_idle rfl) attempt))

theorem exists_help_of_read {arguments : List String} (reads : read arguments = .error .help) :
    ∃ text ∈ arguments, ∃ spelling attached,
      classify text = .ok (.flag .help spelling attached) := by
  rcases exists_stopForHelp_of_read reads with ⟨text, among, spelling, attached, classified, _⟩
  exact ⟨text, among, spelling, attached, classified⟩

end ProxyLauncher.CommandLine
