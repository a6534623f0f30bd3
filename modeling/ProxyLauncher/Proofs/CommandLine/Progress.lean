import ProxyLauncher.CommandLine.Reading
import ProxyLauncher.Proofs.Attempt
import ProxyLauncher.Proofs.CommandLine.Classification

/-!
# Reading the rest of a command line

`readFrom` reads the arguments that are left from any progress.  Its equations
follow the fold: an argument in front of the separator is classified by its own
text and takes one step, and a waiting flag is settled before anything but a
plain argument.

Two laws carry the rest of the theory.  The assignments made so far are an
accumulator: they only end up in front of those still to come.  The strays so
far are a verdict: once there is one, the reading cannot succeed.
-/

namespace ProxyLauncher.CommandLine

namespace Progress

/-- The progress with assignments made and no flag waiting any more. -/
def assigning (progress : Progress) (assignments : List Assignment) : Progress :=
  { progress with waiting := none, assigned := progress.assigned ++ assignments }

/-- The progress with a flag waiting for the next argument. -/
def awaiting (progress : Progress) (flag : Flag) (spelling : String) : Progress :=
  { progress with waiting := some (flag, spelling) }

/-- The progress with earlier assignments put in front of its own. -/
def preceded (progress : Progress) (earlier : List Assignment) : Progress :=
  { progress with assigned := earlier ++ progress.assigned }

theorem assigning_nil {progress : Progress} (idle : progress.waiting = none) :
    progress.assigning [] = progress := by
  rcases progress with ⟨waiting, assigned, strays⟩
  subst idle
  simp [assigning]

theorem assigning_append (progress : Progress) (first second : List Assignment) :
    (progress.assigning first).assigning second = progress.assigning (first ++ second) := by
  simp [assigning]

theorem start_assigning (assignments : List Assignment) :
    start.assigning assignments = start.preceded assignments := by
  simp [assigning, preceded, start]

/-! ## One step -/

theorem use_eq (progress : Progress) (flag : Flag) (spelling : String) (operand : Option String) :
    progress.use flag spelling operand =
      (useFlag flag spelling operand).map fun assignment => progress.assigning [assignment] :=
  rfl

theorem settle_of_idle {progress : Progress} (idle : progress.waiting = none) :
    progress.settle = .ok progress := by
  simp [settle, idle]

theorem settle_of_waiting {progress : Progress} {flag : Flag} {spelling : String}
    (waits : progress.waiting = some (flag, spelling)) :
    progress.settle = progress.use flag spelling none := by
  simp [settle, waits]

/-- A settled progress waits for nothing. -/
theorem waiting_of_settle {progress settled : Progress}
    (settles : progress.settle = .ok settled) : settled.waiting = none := by
  cases waits : progress.waiting with
  | none =>
      rw [settle_of_idle waits] at settles
      cases settles
      exact waits
  | some entry =>
      rw [settle_of_waiting waits, use_eq] at settles
      rcases map_eq_ok_iff.mp settles with ⟨_, _, rfl⟩
      rfl

theorem step_of_idle {progress : Progress} (idle : progress.waiting = none)
    (argument : Argument) : progress.step argument = progress.begin argument := by
  simp [step, idle, settle_of_idle]

/-- A waiting flag takes the next argument when that is plain. -/
theorem step_of_waiting_plain {progress : Progress} {flag : Flag} {spelling : String}
    (waits : progress.waiting = some (flag, spelling)) {argument : Argument}
    (plain : argument.word = .plain) :
    progress.step argument = progress.use flag spelling (some argument.text) := by
  simp [step, waits, plain]

theorem begin_help (progress : Progress) (text spelling : String) (attached : Option String) :
    progress.begin ⟨text, .flag .help spelling attached⟩ = .error (stopForHelp spelling attached) :=
  rfl

/-- A flag uses the operand that is attached to it. -/
theorem begin_attached (progress : Progress) (text : String) (flag : Flag)
    (spelling operand : String) :
    progress.begin ⟨text, .flag flag spelling (some operand)⟩ =
      progress.use flag spelling (some operand) := by
  cases flag <;> rfl

/-- A flag without an attached operand waits for one. -/
theorem begin_open (progress : Progress) (text : String) {flag : Flag} (spelling : String)
    (useful : flag ≠ .help) :
    progress.begin ⟨text, .flag flag spelling none⟩ = .ok (progress.awaiting flag spelling) := by
  cases flag with
  | help => contradiction
  | verbose => rfl
  | host => rfl
  | port => rfl
  | timeout => rfl
  | keyFile => rfl

/-- What is no flag is a stray. -/
theorem strays_of_begin_other {progress next : Progress} {argument : Argument}
    (other : ∀ flag spelling attached, argument.word ≠ .flag flag spelling attached)
    (begun : progress.begin argument = .ok next) : next.strays ≠ [] := by
  rcases argument with ⟨text, word⟩
  cases word with
  | plain =>
      cases begun
      simp
  | separator =>
      cases begun
      simp
  | unknown =>
      cases begun
      simp
  | flag flag spelling attached => exact absurd rfl (other flag spelling attached)

/-- Whatever is not plain first settles the waiting flag. -/
theorem step_of_not_plain (progress : Progress) {argument : Argument}
    (special : argument.word ≠ .plain) :
    progress.step argument = progress.settle >>= fun settled => settled.begin argument := by
  unfold step
  split
  · contradiction
  · rfl

/-! ## Earlier assignments -/

theorem use_preceded (progress : Progress) (earlier : List Assignment) (flag : Flag)
    (spelling : String) (operand : Option String) :
    (progress.preceded earlier).use flag spelling operand =
      (progress.use flag spelling operand).map (·.preceded earlier) := by
  rw [use_eq, use_eq]
  cases useFlag flag spelling operand with
  | error stop => rfl
  | ok assignment => simp [assigning, preceded]

theorem settle_preceded (progress : Progress) (earlier : List Assignment) :
    (progress.preceded earlier).settle = progress.settle.map (·.preceded earlier) := by
  cases waits : progress.waiting with
  | none =>
      have waitsStill : (progress.preceded earlier).waiting = none := waits
      rw [settle_of_idle waits, settle_of_idle waitsStill]
      rfl
  | some entry =>
      have waitsStill : (progress.preceded earlier).waiting = some entry := waits
      rw [settle_of_waiting waits, settle_of_waiting waitsStill]
      exact use_preceded progress earlier entry.1 entry.2 none

theorem begin_preceded (progress : Progress) (earlier : List Assignment) (argument : Argument) :
    (progress.preceded earlier).begin argument =
      (progress.begin argument).map (·.preceded earlier) := by
  unfold begin
  split
  · rfl
  · exact use_preceded progress earlier _ _ _
  · rfl
  · rfl

theorem step_preceded (progress : Progress) (earlier : List Assignment) (argument : Argument) :
    (progress.preceded earlier).step argument =
      (progress.step argument).map (·.preceded earlier) := by
  by_cases plain : argument.word = .plain
  · cases waits : progress.waiting with
    | none =>
        have waitsStill : (progress.preceded earlier).waiting = none := waits
        rw [step_of_idle waits, step_of_idle waitsStill]
        exact begin_preceded progress earlier argument
    | some entry =>
        have waitsStill : (progress.preceded earlier).waiting = some entry := waits
        rw [step_of_waiting_plain waits plain, step_of_waiting_plain waitsStill plain]
        exact use_preceded progress earlier entry.1 entry.2 _
  · rw [step_of_not_plain _ plain, step_of_not_plain _ plain, settle_preceded]
    cases progress.settle with
    | error stop => rfl
    | ok settled => exact begin_preceded settled earlier argument

/-! ## Strays -/

theorem strays_of_use {progress next : Progress} {flag : Flag} {spelling : String}
    {operand : Option String} (used : progress.use flag spelling operand = .ok next) :
    next.strays = progress.strays := by
  rw [use_eq] at used
  rcases map_eq_ok_iff.mp used with ⟨_, _, rfl⟩
  rfl

theorem strays_of_settle {progress settled : Progress}
    (settles : progress.settle = .ok settled) : settled.strays = progress.strays := by
  unfold settle at settles
  split at settles
  · exact strays_of_use settles
  · cases settles
    rfl

theorem strays_of_begin {progress next : Progress} {argument : Argument}
    (begun : progress.begin argument = .ok next) : progress.strays <+: next.strays := by
  unfold begin at begun
  split at begun
  · contradiction
  · simp [strays_of_use begun]
  · cases begun
    exact List.prefix_rfl
  · cases begun
    exact List.prefix_append _ _

/-- A step never takes a stray back. -/
theorem strays_of_step {progress next : Progress} {argument : Argument}
    (stepped : progress.step argument = .ok next) : progress.strays <+: next.strays := by
  unfold step at stepped
  split at stepped
  · simp [strays_of_use stepped]
  · rcases bind_eq_ok_iff.mp stepped with ⟨settled, settles, begun⟩
    rw [← strays_of_settle settles]
    exact strays_of_begin begun

end Progress

open Progress

theorem readArguments_cons (argument : Argument) (rest : List Argument) (progress : Progress) :
    readArguments (argument :: rest) progress =
      progress.step argument >>= readArguments rest :=
  rfl

theorem finish_of_idle {progress : Progress} (idle : progress.waiting = none) :
    finish progress =
      if progress.strays.isEmpty then .ok progress.assigned
      else .error (.rejected (.unrecognized progress.strays)) := by
  rw [finish, settle_of_idle idle, ok_bind]

theorem strays_of_finish {progress : Progress} {result : List Assignment}
    (finished : finish progress = .ok result) : progress.strays = [] := by
  rcases bind_eq_ok_iff.mp finished with ⟨settled, settles, verdict⟩
  rw [← strays_of_settle settles]
  split at verdict
  · rename_i clean
    exact List.isEmpty_iff.mp clean
  · contradiction

theorem strays_of_readArguments {arguments : List Argument} {progress reached : Progress}
    (reads : readArguments arguments progress = .ok reached) :
    progress.strays <+: reached.strays := by
  induction arguments generalizing progress with
  | nil =>
      cases reads
      exact List.prefix_rfl
  | cons argument rest ih =>
      rw [readArguments_cons] at reads
      rcases bind_eq_ok_iff.mp reads with ⟨next, stepped, restReads⟩
      exact (strays_of_step stepped).trans (ih restReads)

/-- A reading that comes to a good end has met no stray. -/
theorem strays_of_readArguments_finish {arguments : List Argument}
    {progress reached : Progress} {result : List Assignment}
    (reads : readArguments arguments progress = .ok reached)
    (finished : finish reached = .ok result) : progress.strays = [] := by
  have kept := strays_of_readArguments reads
  rw [strays_of_finish finished] at kept
  exact List.prefix_nil.mp kept

/-! ## The rest of a command line -/

/-- Reads the arguments that are left, from any progress. -/
def readFrom (progress : Progress) (arguments : List String) : Except Stop (List Assignment) :=
  match classifyAll arguments with
  | .error ambiguity => .error (.rejected (.ambiguous ambiguity))
  | .ok classified => readArguments classified progress >>= finish

theorem read_eq (arguments : List String) : read arguments = readFrom .start arguments :=
  rfl

theorem readFrom_nil (progress : Progress) : readFrom progress [] = finish progress :=
  rfl

/-- An argument that can be stepped over leaves the others to be read from there. -/
theorem readFrom_cons_of_step {progress next : Progress} {text : String} {word : Word}
    (classified : classify text = .ok word) (inside : word ≠ .separator)
    (stepped : progress.step ⟨text, word⟩ = .ok next) (rest : List String) :
    readFrom progress (text :: rest) = readFrom next rest := by
  unfold readFrom
  rw [classifyAll_cons rest classified inside]
  cases classifyAll rest with
  | error ambiguity => rfl
  | ok others => simp [readArguments_cons, stepped]

/-- Where reading succeeds, so does its first step, and without a stray. -/
theorem step_of_readFrom_cons {progress : Progress} {text : String} {rest : List String}
    {result : List Assignment} (succeeds : readFrom progress (text :: rest) = .ok result) :
    ∃ word next, classify text = .ok word ∧ progress.step ⟨text, word⟩ = .ok next ∧
      next.strays = [] ∧ (word ≠ .separator → readFrom next rest = .ok result) := by
  unfold readFrom at succeeds
  cases classifies : classifyAll (text :: rest) with
  | error ambiguity => simp [classifies] at succeeds
  | ok classified =>
      rcases classifyAll_cons_cases classifies with ⟨word, others, own, rfl, tail⟩
      simp only [classifies, readArguments_cons] at succeeds
      rcases bind_eq_ok_iff.mp succeeds with ⟨reached, reads, finished⟩
      rcases bind_eq_ok_iff.mp reads with ⟨next, stepped, restReads⟩
      refine ⟨word, next, own, stepped, strays_of_readArguments_finish restReads finished, ?_⟩
      intro inside
      rcases tail with ⟨separates, _⟩ | restClassifies
      · exact absurd separates inside
      · simp only [readFrom, restClassifies]
        exact bind_eq_ok_iff.mpr ⟨reached, restReads, finished⟩

/-- The next argument is plain. -/
def StartsPlain (arguments : List String) : Prop :=
  ∃ first, arguments.head? = some first ∧ classify first = .ok .plain

/-- A flag that finds no plain argument behind it is settled at once. -/
theorem readFrom_of_settle {progress settled : Progress} {arguments : List String}
    (settles : progress.settle = .ok settled) (apart : ¬ StartsPlain arguments) :
    readFrom progress arguments = readFrom settled arguments := by
  have idle := settle_of_idle (waiting_of_settle settles)
  cases arguments with
  | nil =>
      rw [readFrom_nil, readFrom_nil]
      simp only [finish, settles, idle]
  | cons first rest =>
      unfold readFrom
      cases classifies : classifyAll (first :: rest) with
      | error ambiguity => rfl
      | ok classified =>
          rcases classifyAll_cons_cases classifies with ⟨word, others, own, rfl, _⟩
          have special : word ≠ .plain := by
            rintro rfl
            exact apart ⟨first, rfl, own⟩
          simp only [readArguments_cons]
          rw [step_of_not_plain progress special, step_of_not_plain settled special, settles, idle]

/-- So where reading succeeds, the settling does. -/
theorem settle_of_readFrom {progress : Progress} {arguments : List String}
    {result : List Assignment} (succeeds : readFrom progress arguments = .ok result)
    (apart : ¬ StartsPlain arguments) :
    ∃ settled, progress.settle = .ok settled ∧ readFrom settled arguments = .ok result := by
  have settles : ∃ settled, progress.settle = .ok settled := by
    cases arguments with
    | nil =>
        rw [readFrom_nil] at succeeds
        rcases bind_eq_ok_iff.mp succeeds with ⟨settled, settles, _⟩
        exact ⟨settled, settles⟩
    | cons first rest =>
        rcases step_of_readFrom_cons succeeds with ⟨word, next, own, stepped, _⟩
        have special : word ≠ .plain := by
          rintro rfl
          exact apart ⟨first, rfl, own⟩
        rw [step_of_not_plain progress special] at stepped
        rcases bind_eq_ok_iff.mp stepped with ⟨settled, settles, _⟩
        exact ⟨settled, settles⟩
  rcases settles with ⟨settled, settles⟩
  rw [readFrom_of_settle settles apart] at succeeds
  exact ⟨settled, settles, succeeds⟩

/-! ## Earlier assignments in the whole -/

theorem readArguments_preceded (arguments : List Argument) (progress : Progress)
    (earlier : List Assignment) :
    readArguments arguments (progress.preceded earlier) =
      (readArguments arguments progress).map (·.preceded earlier) := by
  induction arguments generalizing progress with
  | nil => rfl
  | cons argument rest ih =>
      rw [readArguments_cons, readArguments_cons, step_preceded]
      cases progress.step argument with
      | error stop => rfl
      | ok next => exact ih next

theorem finish_preceded (progress : Progress) (earlier : List Assignment) :
    finish (progress.preceded earlier) = (finish progress).map (earlier ++ ·) := by
  unfold finish
  rw [settle_preceded]
  cases progress.settle with
  | error stop => rfl
  | ok settled =>
      simp only [map_ok, ok_bind]
      by_cases clean : settled.strays = [] <;> simp [clean, preceded]

/-- Earlier assignments end up in front of those still to come, and change nothing else. -/
theorem readFrom_preceded (progress : Progress) (earlier : List Assignment)
    (arguments : List String) :
    readFrom (progress.preceded earlier) arguments =
      (readFrom progress arguments).map (earlier ++ ·) := by
  unfold readFrom
  cases classifyAll arguments with
  | error ambiguity => rfl
  | ok classified =>
      dsimp only
      rw [readArguments_preceded]
      cases readArguments classified progress with
      | error stop => rfl
      | ok reached => exact finish_preceded reached earlier

end ProxyLauncher.CommandLine
