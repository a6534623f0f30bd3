import ProxyLauncher.Proofs.CommandLine.FirstPass

/-!
# The second pass over a command line

Once all arguments have their classes they are read from left to right.
`Reaches` says how far this comes: over flags to which nothing is objected, each
with its operand, and over strays, which are only kept.  It knows neither of the
fold nor of the flag that waits.

Where no argument is ambiguous, the pass comes to one of three ends: to a help
flag, to a flag that objects, or to the separator or the end of the arguments.
The first two end the reading at once, and only the third looks at the strays.
So which of several faults is complained about is settled by where they stand.
-/

namespace ProxyLauncher.CommandLine

open Progress

/-! ## The relation -/

/-- The first of the arguments is a flag, which has the operand and leaves the rest to be read.  The
help flag never takes the argument behind it. -/
inductive Uses : List String → Flag → String → Option String → List String → Prop
  | attached {text spelling operand : String} {flag : Flag}
      (classified : classify text = .ok (.flag flag spelling (some operand)))
      (rest : List String) : Uses (text :: rest) flag spelling (some operand) rest
  | following {text spelling operand : String} {flag : Flag}
      (classified : classify text = .ok (.flag flag spelling none)) (useful : flag ≠ .help)
      (plain : classify operand = .ok .plain) (rest : List String) :
      Uses (text :: operand :: rest) flag spelling (some operand) rest
  | alone {text spelling : String} {flag : Flag} {rest : List String}
      (classified : classify text = .ok (.flag flag spelling none))
      (apart : flag = .help ∨ ¬ StartsPlain rest) : Uses (text :: rest) flag spelling none rest

/-- Reading from left to right passes strays and comes to what is left of the arguments. -/
inductive Reaches : List String → List String → List String → Prop
  | refl (arguments : List String) : Reaches arguments [] arguments
  | flag {arguments after strays rest : List String} {flag : Flag} {spelling : String}
      {operand : Option String} (uses : Uses arguments flag spelling operand after)
      (useful : flag ≠ .help) (accepted : ∀ rejection, ¬ Objects flag spelling operand rejection)
      (reaches : Reaches after strays rest) : Reaches arguments strays rest
  | stray {text : String} {after strays rest : List String}
      (other : classify text = .ok .plain ∨ classify text = .ok .unknown)
      (reaches : Reaches after strays rest) : Reaches (text :: after) (text :: strays) rest

/-- Nothing is left, or the separator comes next. -/
def Ended (rest : List String) : Prop :=
  rest = [] ∨ rest.head? = some "--"

/-- The pass ends in front of the separator, at the end of the arguments, or at a flag that is the
help flag or objects. -/
def Ends (rest : List String) : Prop :=
  Ended rest ∨ ∃ flag spelling operand after, Uses rest flag spelling operand after ∧
    (flag = .help ∨ ∃ rejection, Objects flag spelling operand rejection)

/-! ## Single steps -/

/-- The progress with more strays. -/
def Progress.straying (progress : Progress) (texts : List String) : Progress :=
  { progress with strays := progress.strays ++ texts }

/-- Where no later argument is ambiguous, an argument takes its step, whatever comes of it. -/
theorem readFrom_cons {text : String} {word : Word} (classified : classify text = .ok word)
    (inside : word ≠ .separator) {rest : List String} (clear : Clear rest) (progress : Progress) :
    readFrom progress (text :: rest) = progress.step ⟨text, word⟩ >>= (readFrom · rest) := by
  rcases exists_classifyAll_iff.mpr clear with ⟨others, classifies⟩
  unfold readFrom
  rw [classifyAll_cons rest classified inside, classifies, map_ok]
  simp only [readArguments_cons]
  cases progress.step ⟨text, word⟩ <;> rfl

/-- A waiting flag is settled before what is not plain. -/
theorem readFrom_of_apart {rest : List String} (clear : Clear rest) (apart : ¬ StartsPlain rest)
    (progress : Progress) :
    readFrom progress rest = progress.settle >>= (readFrom · rest) := by
  cases settles : progress.settle with
  | ok settled => exact readFrom_of_settle settles apart
  | error stop =>
      cases rest with
      | nil => rw [readFrom_nil, finish, settles, error_bind, error_bind]
      | cons first others =>
          rcases exists_classifyAll_iff.mpr clear with ⟨classified, classifies⟩
          rcases classifyAll_cons_cases classifies with ⟨word, later, own, rfl, _⟩
          have special : word ≠ .plain := by
            rintro rfl
            exact apart ⟨first, rfl, own⟩
          unfold readFrom
          simp only [classifies, readArguments_cons]
          rw [step_of_not_plain progress special, settles]
          rfl

theorem clear_of_stray {text : String}
    (other : classify text = .ok .plain ∨ classify text = .ok .unknown) {rest : List String}
    (clear : Clear (text :: rest)) : Clear rest := by
  rcases other with plain | unknown
  · exact (clear_cons_iff plain (by simp)).mp clear
  · exact (clear_cons_iff unknown (by simp)).mp clear

/-- A stray is kept for the end. -/
theorem readFrom_stray {progress : Progress} (idle : progress.waiting = none) {text : String}
    (other : classify text = .ok .plain ∨ classify text = .ok .unknown) (rest : List String) :
    readFrom progress (text :: rest) = readFrom (progress.straying [text]) rest := by
  rcases other with plain | unknown
  · apply readFrom_cons_of_step plain (by simp)
    rw [step_of_idle idle]
    rfl
  · apply readFrom_cons_of_step unknown (by simp)
    rw [step_of_idle idle]
    rfl

/-! ## Uses of a flag -/

theorem use_bind {β : Type} (progress : Progress) (flag : Flag) (spelling : String)
    (operand : Option String) (next : Progress → Except Stop β) :
    (progress.use flag spelling operand >>= next) =
      useFlag flag spelling operand >>= fun assignment => next (progress.assigning [assignment]) := by
  rw [use_eq]
  cases useFlag flag spelling operand <;> rfl

section Uses

variable {arguments rest : List String} {flag : Flag} {spelling : String} {operand : Option String}
  (uses : Uses arguments flag spelling operand rest)

include uses

theorem Uses.clear (clear : Clear arguments) : Clear rest := by
  cases uses with
  | attached classified => exact (clear_cons_iff classified (by simp)).mp clear
  | following classified _ plain =>
      exact (clear_cons_iff plain (by simp)).mp ((clear_cons_iff classified (by simp)).mp clear)
  | alone classified => exact (clear_cons_iff classified (by simp)).mp clear

/-- A flag is used with its operand before anything behind it is read. -/
theorem Uses.readFrom_eq (clear : Clear arguments) {progress : Progress}
    (idle : progress.waiting = none) :
    readFrom progress arguments =
      useFlag flag spelling operand >>= fun assignment =>
        readFrom (progress.assigning [assignment]) rest := by
  have restClear := uses.clear clear
  cases uses with
  | @attached text _ operand _ classified =>
      rw [readFrom_cons classified (by simp) restClear, step_of_idle idle, begin_attached, use_bind]
  | @following text _ operand _ classified useful plain =>
      have followingClear := (clear_cons_iff classified (by simp)).mp clear
      rw [readFrom_cons classified (by simp) followingClear, step_of_idle idle,
        begin_open progress text spelling useful, ok_bind,
        readFrom_cons plain (by simp) restClear, step_of_waiting_plain rfl rfl, use_bind]
      rfl
  | @alone text _ _ _ classified apart =>
      rw [readFrom_cons classified (by simp) restClear, step_of_idle idle]
      by_cases help : flag = .help
      · subst help
        rfl
      · rw [begin_open progress text spelling help, ok_bind,
          readFrom_of_apart restClear (apart.resolve_left help), settle_of_waiting rfl, use_bind]
        rfl

end Uses

/-- A flag is always used, with one operand or none. -/
theorem exists_uses {text spelling : String} {flag : Flag} {attached : Option String}
    (classified : classify text = .ok (.flag flag spelling attached)) (after : List String) :
    ∃ operand rest, Uses (text :: after) flag spelling operand rest ∧
      rest.length ≤ after.length := by
  cases attached with
  | some operand => exact ⟨_, _, .attached classified after, Nat.le_refl _⟩
  | none =>
      by_cases apart : flag = .help ∨ ¬ StartsPlain after
      · exact ⟨_, _, .alone classified apart, Nat.le_refl _⟩
      · simp only [not_or, not_not] at apart
        rcases apart with ⟨useful, operand, head, plain⟩
        rcases List.head?_eq_some_iff.mp head with ⟨others, rfl⟩
        exact ⟨_, _, .following classified useful plain others, Nat.le_succ _⟩

/-! ## The whole pass -/

/-- What is reached is read with the strays passed so far. -/
theorem Reaches.readFrom_eq {arguments strays rest : List String}
    (reaches : Reaches arguments strays rest) (clear : Clear arguments) (progress : Progress)
    (idle : progress.waiting = none) :
    Clear rest ∧ ∃ next : Progress, next.waiting = none ∧
      next.strays = progress.strays ++ strays ∧
      readFrom progress arguments = readFrom next rest := by
  induction reaches generalizing progress with
  | refl arguments => exact ⟨clear, progress, idle, by simp, rfl⟩
  | flag uses useful accepted _ ih =>
      rcases exists_useFlag_eq_ok useful accepted with ⟨assignment, used⟩
      rcases ih (uses.clear clear) (progress.assigning [assignment]) rfl with
        ⟨restClear, next, nextIdle, straysEq, restEq⟩
      refine ⟨restClear, next, nextIdle, straysEq, ?_⟩
      rw [uses.readFrom_eq clear idle, used, ok_bind, restEq]
  | @stray text after strays rest other _ ih =>
      rcases ih (clear_of_stray other clear) (progress.straying [text]) idle with
        ⟨restClear, next, nextIdle, straysEq, restEq⟩
      refine ⟨restClear, next, nextIdle, ?_, ?_⟩
      · rw [straysEq]
        simp [straying]
      · rw [readFrom_stray idle other, restEq]

/-- Where no argument is ambiguous, the pass comes to an end of one of three kinds. -/
theorem exists_reaches {arguments : List String} (clear : Clear arguments) :
    ∃ strays rest, Reaches arguments strays rest ∧ Ends rest := by
  -- A flag takes one argument or two, so the induction is on the length.
  induction size : arguments.length using Nat.strongRecOn generalizing arguments with
  | ind count ih =>
      cases arguments with
      | nil => exact ⟨[], [], .refl [], .inl (.inl rfl)⟩
      | cons text after =>
          rcases clear.exists_classify with ⟨word, classified⟩
          have passed : ∀ others : List String, others.length ≤ after.length →
              others.length < count := by
            intro others shorter
            rw [← size, List.length_cons]
            omega
          have strayed (other : classify text = .ok .plain ∨ classify text = .ok .unknown) :
              ∃ strays rest, Reaches (text :: after) strays rest ∧ Ends rest := by
            rcases ih _ (passed after (Nat.le_refl _)) (clear_of_stray other clear) rfl with
              ⟨strays, rest, reaches, ending⟩
            exact ⟨_, rest, .stray other reaches, ending⟩
          cases word with
          | separator =>
              rw [eq_dashes_of_classify classified]
              exact ⟨[], _, .refl _, .inl (.inr rfl)⟩
          | plain => exact strayed (.inl classified)
          | unknown => exact strayed (.inr classified)
          | flag flag spelling attached =>
              rcases exists_uses classified after with ⟨operand, others, uses, shorter⟩
              by_cases ends : flag = .help ∨ ∃ rejection, Objects flag spelling operand rejection
              · exact ⟨[], _, .refl _, .inr ⟨flag, spelling, operand, others, uses, ends⟩⟩
              · simp only [not_or, not_exists] at ends
                rcases ih _ (passed others shorter) (uses.clear clear) rfl with
                  ⟨strays, rest, reaches, ending⟩
                exact ⟨strays, rest, .flag uses ends.1 ends.2 reaches, ending⟩

/-! ## Ends -/

/-- Behind the separator everything is a stray, and so is the separator. -/
theorem readArguments_plain {progress : Progress} (idle : progress.waiting = none)
    (texts : List String) :
    readArguments (texts.map (⟨·, .plain⟩)) progress = .ok (progress.straying texts) := by
  induction texts generalizing progress with
  | nil => simp [readArguments, straying, pure, Except.pure]
  | cons text rest ih =>
      have restIdle : (progress.straying [text]).waiting = none := idle
      rw [List.map_cons, readArguments_cons, step_of_idle idle]
      change readArguments _ (progress.straying [text]) = _
      rw [ih restIdle]
      simp [straying]

theorem readFrom_of_ended {progress : Progress} (idle : progress.waiting = none)
    {rest : List String} (ended : Ended rest) :
    readFrom progress rest = finish (progress.straying rest) := by
  rcases ended with rfl | dashes
  · rw [readFrom_nil]
    simp [straying]
  · rcases List.head?_eq_some_iff.mp dashes with ⟨others, rfl⟩
    have classifies : classifyAll ("--" :: others) =
        .ok (⟨"--", .separator⟩ :: others.map (⟨·, .plain⟩)) := rfl
    have othersIdle : (progress.straying ["--"]).waiting = none := idle
    unfold readFrom
    simp only [classifies, readArguments_cons]
    rw [step_of_idle idle]
    change readArguments _ (progress.straying ["--"]) >>= finish = _
    rw [readArguments_plain othersIdle, ok_bind]
    simp [straying]

section Read

variable {arguments strays rest : List String} (clear : Clear arguments)
  (reaches : Reaches arguments strays rest)

include clear reaches

/-- A flag that is the help flag or objects ends the reading. -/
theorem read_of_uses {flag : Flag} {spelling : String} {operand : Option String}
    {after : List String} (uses : Uses rest flag spelling operand after) {stop : Stop}
    (used : useFlag flag spelling operand = .error stop) : read arguments = .error stop := by
  rcases reaches.readFrom_eq clear .start rfl with ⟨restClear, next, idle, _, restEq⟩
  rw [read_eq, restEq, uses.readFrom_eq restClear idle, used, error_bind]

/-- At the end all strays are refused together. -/
theorem read_of_ended (ended : Ended rest) :
    (strays ++ rest = [] ∧ ∃ assignments, read arguments = .ok assignments) ∨
      strays ++ rest ≠ [] ∧
        read arguments = .error (.rejected (.unrecognized (strays ++ rest))) := by
  rcases reaches.readFrom_eq clear .start rfl with
    ⟨restClear, next, idle, straysEq, restEq⟩
  have straysAll : (next.straying rest).strays = strays ++ rest := by
    rw [straying, straysEq]
    rfl
  have finished : read arguments = finish (next.straying rest) := by
    rw [read_eq, restEq, readFrom_of_ended idle ended]
  have finalIdle : (next.straying rest).waiting = none := idle
  rw [finish_of_idle finalIdle, straysAll] at finished
  by_cases none : strays ++ rest = []
  · refine .inl ⟨none, (next.straying rest).assigned, ?_⟩
    rw [finished, none]
    rfl
  · refine .inr ⟨none, ?_⟩
    rw [finished, if_neg]
    simpa using none

end Read

/-! ## How a command line is read -/

/-- A help option comes up before any flag objects. -/
def ReachesHelp (arguments : List String) : Prop :=
  ∃ strays option rest, Reaches arguments strays (option :: rest) ∧ HelpOption option

/-- The fault for which a command line is rejected.  The first ambiguous argument comes before
everything else, and strays come after everything else. -/
inductive RejectedFor (arguments : List String) : Rejection → Prop
  | ambiguous {ambiguity : Ambiguity} (first : FirstAmbiguous arguments ambiguity) :
      RejectedFor arguments (.ambiguous ambiguity)
  | objected {strays rest after : List String} {flag : Flag} {spelling : String}
      {operand : Option String} {rejection : Rejection} (clear : Clear arguments)
      (reaches : Reaches arguments strays rest) (uses : Uses rest flag spelling operand after)
      (objects : Objects flag spelling operand rejection) : RejectedFor arguments rejection
  | strays {strays rest : List String} (clear : Clear arguments)
      (reaches : Reaches arguments strays rest) (ended : Ended rest) (remain : strays ++ rest ≠ []) :
      RejectedFor arguments (.unrecognized (strays ++ rest))

theorem exists_stop {flag : Flag} {spelling : String} {operand : Option String}
    (ends : flag = .help ∨ ∃ rejection, Objects flag spelling operand rejection) :
    ∃ stop, useFlag flag spelling operand = .error stop := by
  rcases ends with rfl | ⟨rejection, objects⟩
  · exact ⟨stopForHelp spelling operand, rfl⟩
  · exact ⟨_, useFlag_eq_rejected_iff.mpr objects⟩

/-- A help flag that shows the help text is a help option. -/
theorem helpOption_of_uses {spelling : String} {operand : Option String}
    {rest after : List String} (uses : Uses rest .help spelling operand after)
    (shown : stopForHelp spelling operand = .help) :
    ∃ option others, rest = option :: others ∧ HelpOption option := by
  cases uses with
  | attached classified => exact ⟨_, _, rfl, helpOption_iff.mpr ⟨_, _, classified, shown⟩⟩
  | following _ useful => contradiction
  | alone classified => exact ⟨_, _, rfl, helpOption_iff.mpr ⟨_, _, classified, shown⟩⟩

/-- The two passes come to nothing else than flags that are accepted, help, or a fault. -/
theorem read_cases (arguments : List String) :
    (∃ assignments, read arguments = .ok assignments) ∨
      (read arguments = .error .help ∧ Clear arguments ∧ ReachesHelp arguments) ∨
        ∃ rejection, read arguments = .error (.rejected rejection) ∧
          RejectedFor arguments rejection := by
  cases classifies : classifyAll arguments with
  | error ambiguity =>
      have first := classifyAll_eq_error_iff.mp classifies
      refine .inr (.inr ⟨.ambiguous ambiguity, ?_, .ambiguous first⟩)
      rw [read, classifies]
  | ok classified =>
      have clear : Clear arguments := exists_classifyAll_iff.mp ⟨classified, classifies⟩
      rcases exists_reaches clear with
        ⟨strays, rest, reaches, ended | ⟨flag, spelling, operand, after, uses, ends⟩⟩
      · rcases read_of_ended clear reaches ended with ⟨_, accepted⟩ | ⟨remain, refused⟩
        · exact .inl accepted
        · exact .inr (.inr ⟨_, refused, .strays clear reaches ended remain⟩)
      · rcases exists_stop ends with ⟨stop, used⟩
        have stopped := read_of_uses clear reaches uses used
        cases stop with
        | help =>
            rcases useFlag_eq_help_iff.mp used with ⟨rfl, asks⟩
            rcases helpOption_of_uses uses asks with ⟨option, others, rfl, isOption⟩
            exact .inr (.inl ⟨stopped, clear, strays, option, others, reaches, isOption⟩)
        | rejected rejection =>
            have objects := useFlag_eq_rejected_iff.mp used
            exact .inr (.inr ⟨rejection, stopped, .objected clear reaches uses objects⟩)

/-- A command line is read as far as the help text exactly when no argument in front of the separator
is ambiguous and a help option is reached. -/
theorem read_eq_help_iff {arguments : List String} :
    read arguments = .error .help ↔ Clear arguments ∧ ReachesHelp arguments := by
  constructor
  · intro shown
    rcases read_cases arguments with ⟨_, accepted⟩ | ⟨_, reached⟩ | ⟨_, rejected, _⟩
    · rw [shown] at accepted
      contradiction
    · exact reached
    · rw [shown] at rejected
      cases rejected
  · rintro ⟨clear, strays, option, rest, reaches, isOption⟩
    rcases helpOption_iff.mp isOption with ⟨spelling, attached, classified, shown⟩
    have used : useFlag .help spelling attached = .error .help := useFlag_eq_help_iff.mpr ⟨rfl, shown⟩
    cases attached with
    | none => exact read_of_uses clear reaches (.alone classified (.inl rfl)) used
    | some operand => exact read_of_uses clear reaches (.attached classified rest) used

example : read ["car", "-x", "-hh", "-port"] = .error .help := by rfl

/-- A command line is rejected exactly for what its two passes find. -/
theorem read_eq_rejected_iff {arguments : List String} {rejection : Rejection} :
    read arguments = .error (.rejected rejection) ↔ RejectedFor arguments rejection := by
  constructor
  · intro refused
    rcases read_cases arguments with ⟨_, accepted⟩ | ⟨shown, _⟩ | ⟨other, rejected, found⟩
    · rw [refused] at accepted
      contradiction
    · rw [refused] at shown
      cases shown
    · rw [refused] at rejected
      cases rejected
      exact found
  · intro rejected
    cases rejected with
    | ambiguous first => rw [read, classifyAll_eq_error_iff.mpr first]
    | objected clear reaches uses objects =>
        exact read_of_uses clear reaches uses (useFlag_eq_rejected_iff.mpr objects)
    | strays clear reaches ended remain =>
        rcases read_of_ended clear reaches ended with ⟨none, _⟩ | ⟨_, refused⟩
        · contradiction
        · exact refused

example : read ["-port", "x", "-ho"] =
    .error (.rejected (.ambiguous ⟨"-ho", ["-h", "-host"]⟩)) := by rfl

end ProxyLauncher.CommandLine
