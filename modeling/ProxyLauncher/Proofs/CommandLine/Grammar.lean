import ProxyLauncher.Proofs.CommandLine.FlagTable
import ProxyLauncher.Proofs.CommandLine.Progress

/-!
# The grammar of command lines

A command line that is accepted splits completely into segments, and each
segment makes one assignment: a flag with an attached operand, a flag with the
plain argument behind it, or a flag on its own.  `Splits` is this grammar; it
knows neither of the fold nor of the flag that waits.

What a flag makes of its operand is left open.  With `Yields` in that place, a
command line is read exactly as it splits, and a command line that splits can be
read ahead of any other one.
-/

namespace ProxyLauncher.CommandLine

open Progress

section Grammar

variable (gives : Flag → String → Option String → Assignment → Prop)

/-- The arguments of one segment, and what the segment assigns. -/
inductive Segment : List String → Assignment → Prop
  | attached {text spelling operand : String} {flag : Flag} {assignment : Assignment}
      (classified : classify text = .ok (.flag flag spelling (some operand)))
      (given : gives flag spelling (some operand) assignment) : Segment [text] assignment
  | following {text spelling operand : String} {flag : Flag} {assignment : Assignment}
      (classified : classify text = .ok (.flag flag spelling none))
      (plain : classify operand = .ok .plain)
      (given : gives flag spelling (some operand) assignment) : Segment [text, operand] assignment
  | alone {text spelling : String} {flag : Flag} {assignment : Assignment}
      (classified : classify text = .ok (.flag flag spelling none))
      (given : gives flag spelling none assignment) : Segment [text] assignment

/-- The arguments split, from left to right and completely, into segments that
make the assignments in this order. -/
inductive Splits : List String → List Assignment → Prop
  | nil : Splits [] []
  | cons {texts rest : List String} {assignment : Assignment} {assignments : List Assignment}
      (segment : Segment gives texts assignment) (split : Splits rest assignments) :
      Splits (texts ++ rest) (assignment :: assignments)

end Grammar

variable {gives : Flag → String → Option String → Assignment → Prop}

/-- The last argument is the verbosity flag without an attached operand. -/
def EndsOpen (arguments : List String) : Prop :=
  ∃ last spelling, arguments.getLast? = some last ∧
    classify last = .ok (.flag .verbose spelling none)

/-! ## What splits -/

/-- A segment starts with its flag. -/
theorem Segment.exists_flag {texts : List String} {assignment : Assignment}
    (segment : Segment gives texts assignment) :
    ∃ text others flag spelling attached, texts = text :: others ∧
      classify text = .ok (.flag flag spelling attached) := by
  cases segment with
  | attached classified _ => exact ⟨_, _, _, _, _, rfl, classified⟩
  | following classified _ _ => exact ⟨_, _, _, _, _, rfl, classified⟩
  | alone classified _ => exact ⟨_, _, _, _, _, rfl, classified⟩

theorem Splits.not_startsPlain {arguments : List String} {assignments : List Assignment}
    (split : Splits gives arguments assignments) : ¬ StartsPlain arguments := by
  rintro ⟨first, head, plain⟩
  cases split with
  | nil => contradiction
  | cons segment _ =>
      rcases segment.exists_flag with ⟨text, others, flag, spelling, attached, rfl, classified⟩
      have firstEq : text = first := Option.some.inj head
      rw [firstEq, plain] at classified
      cases classified

/-! ## Operands that are kept -/

/-- No argument is a declared spelling with the dropped operand attached. -/
def KeepsOperands (arguments : List String) : Prop :=
  ∀ argument ∈ arguments, ∀ entry ∈ declared, argument ≠ entry.1 ++ "=" ++ droppedOperand

/-- Where operands are kept, two tables split alike when they agree on every other operand. -/
theorem Segment.imp {other : Flag → String → Option String → Assignment → Prop}
    (useful : ∀ {spelling operand assignment}, ¬ gives .help spelling operand assignment)
    (implies : ∀ {flag spelling operand assignment}, operand ≠ some droppedOperand →
      gives flag spelling operand assignment → other flag spelling operand assignment)
    {texts : List String} {assignment : Assignment} (keeps : KeepsOperands texts)
    (segment : Segment gives texts assignment) : Segment other texts assignment := by
  cases segment with
  | @attached text spelling operand flag _ classified given =>
      apply Segment.attached classified
      apply implies _ given
      intro dropped
      have flagUseful : flag ≠ .help := by
        rintro rfl
        exact useful given
      rcases eq_of_classify_attached classified flagUseful with ⟨known, textEq⟩
      rw [Option.some.inj dropped] at textEq
      exact keeps text (List.mem_singleton_self _) _ known textEq
  | following classified plain given =>
      apply Segment.following classified plain
      apply implies _ given
      intro dropped
      rw [Option.some.inj dropped] at plain
      cases plain
  | alone classified given =>
      apply Segment.alone classified
      exact implies (by simp) given

theorem Splits.imp {other : Flag → String → Option String → Assignment → Prop}
    (useful : ∀ {spelling operand assignment}, ¬ gives .help spelling operand assignment)
    (implies : ∀ {flag spelling operand assignment}, operand ≠ some droppedOperand →
      gives flag spelling operand assignment → other flag spelling operand assignment)
    {arguments : List String} {assignments : List Assignment} (keeps : KeepsOperands arguments)
    (split : Splits gives arguments assignments) : Splits other arguments assignments := by
  induction split with
  | nil => exact .nil
  | cons segment _ ih =>
      apply Splits.cons
      · apply segment.imp useful implies
        intro argument member
        exact keeps argument (List.mem_append_left _ member)
      · apply ih
        intro argument member
        exact keeps argument (List.mem_append_right _ member)

/-- Where operands are kept, nothing is ever dropped. -/
theorem splits_accepts_iff {arguments : List String} {assignments : List Assignment}
    (keeps : KeepsOperands arguments) :
    Splits Accepts arguments assignments ↔ Splits Yields arguments assignments := by
  constructor
  · apply Splits.imp _ _ keeps
    · rintro _ _ _ ⟨⟩
    · intro _ _ _ _ kept accepts
      exact .kept kept accepts
  · apply Splits.imp _ _ keeps
    · intro _ _ _ yields
      cases yields with
      | kept _ accepts => cases accepts
    · intro _ _ _ _ kept yields
      cases yields with
      | kept _ accepts => exact accepts
      | host => exact absurd rfl kept
      | port => exact absurd rfl kept
      | timeout => exact absurd rfl kept
      | keyFile => exact absurd rfl kept
      | verbosity => exact absurd rfl kept

/-! ## Reading what splits -/

theorem useful_of_yields {flag : Flag} {spelling : String} {operand : Option String}
    {assignment : Assignment} (yields : Yields flag spelling operand assignment) :
    flag ≠ .help := by
  rintro rfl
  cases yields with
  | kept _ accepts => cases accepts

/-- The verbosity flag is the only one that can do without an operand. -/
theorem eq_verbose_of_yields_none {flag : Flag} {spelling : String} {assignment : Assignment}
    (yields : Yields flag spelling none assignment) : flag = .verbose := by
  cases yields with
  | kept _ accepts => cases accepts <;> rfl

theorem use_of_yields (progress : Progress) {flag : Flag} {spelling : String}
    {operand : Option String} {assignment : Assignment}
    (yields : Yields flag spelling operand assignment) :
    progress.use flag spelling operand = .ok (progress.assigning [assignment]) := by
  rw [use_eq, useFlag_eq_ok_iff.mpr yields, map_ok]

theorem exists_yields_of_use {progress next : Progress} {flag : Flag} {spelling : String}
    {operand : Option String} (used : progress.use flag spelling operand = .ok next) :
    ∃ assignment, Yields flag spelling operand assignment := by
  rw [use_eq] at used
  rcases map_eq_ok_iff.mp used with ⟨assignment, assigned, _⟩
  exact ⟨assignment, useFlag_eq_ok_iff.mp assigned⟩

theorem readFrom_attached {progress : Progress} (idle : progress.waiting = none)
    {text spelling operand : String} {flag : Flag} {assignment : Assignment}
    (classified : classify text = .ok (.flag flag spelling (some operand)))
    (yields : Yields flag spelling (some operand) assignment) (rest : List String) :
    readFrom progress (text :: rest) = readFrom (progress.assigning [assignment]) rest := by
  apply readFrom_cons_of_step classified (by simp)
  rw [step_of_idle idle, begin_attached, use_of_yields progress yields]

theorem readFrom_open {progress : Progress} (idle : progress.waiting = none)
    {text spelling : String} {flag : Flag}
    (classified : classify text = .ok (.flag flag spelling none)) (useful : flag ≠ .help)
    (rest : List String) :
    readFrom progress (text :: rest) = readFrom (progress.awaiting flag spelling) rest := by
  apply readFrom_cons_of_step classified (by simp)
  rw [step_of_idle idle, begin_open progress text spelling useful]

theorem readFrom_awaiting_plain {progress : Progress} {operand spelling : String} {flag : Flag}
    {assignment : Assignment} (plain : classify operand = .ok .plain)
    (yields : Yields flag spelling (some operand) assignment) (rest : List String) :
    readFrom (progress.awaiting flag spelling) (operand :: rest) =
      readFrom (progress.assigning [assignment]) rest := by
  apply readFrom_cons_of_step plain (by simp)
  rw [step_of_waiting_plain rfl rfl, use_of_yields _ yields]
  rfl

theorem readFrom_awaiting_apart {progress : Progress} {spelling : String} {flag : Flag}
    {assignment : Assignment} (yields : Yields flag spelling none assignment)
    {rest : List String} (apart : ¬ StartsPlain rest) :
    readFrom (progress.awaiting flag spelling) rest =
      readFrom (progress.assigning [assignment]) rest := by
  apply readFrom_of_settle _ apart
  rw [settle_of_waiting rfl, use_of_yields _ yields]
  rfl

/-- A segment makes its assignment, unless it ends open and the next argument is plain. -/
theorem readFrom_segment {progress : Progress} (idle : progress.waiting = none)
    {texts : List String} {assignment : Assignment} (segment : Segment Yields texts assignment)
    {rest : List String} (apart : ¬ (EndsOpen texts ∧ StartsPlain rest)) :
    readFrom progress (texts ++ rest) = readFrom (progress.assigning [assignment]) rest := by
  cases segment with
  | attached classified yields => exact readFrom_attached idle classified yields rest
  | following classified plain yields =>
      change readFrom progress (_ :: _ :: rest) = _
      rw [readFrom_open idle classified (useful_of_yields yields),
        readFrom_awaiting_plain plain yields]
  | alone classified yields =>
      change readFrom progress (_ :: rest) = _
      have flagEq := eq_verbose_of_yields_none yields
      subst flagEq
      rw [readFrom_open idle classified (by simp)]
      apply readFrom_awaiting_apart yields
      intro plain
      exact apart ⟨⟨_, _, rfl, classified⟩, plain⟩

/-- A command line that splits can be read ahead of any other arguments, unless
its last flag would take the first of them. -/
theorem readFrom_append_of_splits {first second : List String} {assignments : List Assignment}
    (split : Splits Yields first assignments) (apart : ¬ (EndsOpen first ∧ StartsPlain second))
    {progress : Progress} (idle : progress.waiting = none) :
    readFrom progress (first ++ second) = readFrom (progress.assigning assignments) second := by
  induction split generalizing progress with
  | nil => rw [List.nil_append, assigning_nil idle]
  | @cons texts rest assignment assignments segment split ih =>
      have restApart : ¬ (EndsOpen rest ∧ StartsPlain second) := by
        rintro ⟨⟨last, spelling, isLast, classified⟩, plain⟩
        refine apart ⟨⟨last, spelling, ?_, classified⟩, plain⟩
        simp [isLast]
      have segmentApart : ¬ (EndsOpen texts ∧ StartsPlain (rest ++ second)) := by
        rintro ⟨endsOpen, plain⟩
        cases rest with
        | nil =>
            rw [List.append_nil] at apart
            exact apart ⟨endsOpen, plain⟩
        | cons head tail => exact split.not_startsPlain plain
      rw [List.append_assoc, readFrom_segment idle segment segmentApart, ih restApart rfl,
        assigning_append]
      rfl

/-! ## Splitting what was read -/

/-- Where reading succeeds without a waiting flag, the first argument is a flag
of some setting. -/
theorem exists_flag_of_readFrom_cons {progress : Progress} (idle : progress.waiting = none)
    {text : String} {rest : List String} {result : List Assignment}
    (succeeds : readFrom progress (text :: rest) = .ok result) :
    ∃ flag spelling attached, classify text = .ok (.flag flag spelling attached) ∧
      flag ≠ .help := by
  rcases step_of_readFrom_cons succeeds with ⟨word, next, classified, stepped, clean, _⟩
  rw [step_of_idle idle] at stepped
  by_cases isFlag : ∃ flag spelling attached, word = .flag flag spelling attached
  · rcases isFlag with ⟨flag, spelling, attached, rfl⟩
    refine ⟨flag, spelling, attached, classified, ?_⟩
    rintro rfl
    rw [begin_help] at stepped
    contradiction
  · exfalso
    apply strays_of_begin_other _ stepped clean
    intro flag spelling attached equal
    exact isFlag ⟨flag, spelling, attached, equal⟩

theorem yields_of_readFrom_attached {progress : Progress} (idle : progress.waiting = none)
    {text spelling operand : String} {flag : Flag} {rest : List String} {result : List Assignment}
    (classified : classify text = .ok (.flag flag spelling (some operand)))
    (succeeds : readFrom progress (text :: rest) = .ok result) :
    ∃ assignment, Yields flag spelling (some operand) assignment := by
  rcases step_of_readFrom_cons succeeds with ⟨word, next, own, stepped, _⟩
  rw [classified] at own
  cases own
  rw [step_of_idle idle, begin_attached] at stepped
  exact exists_yields_of_use stepped

theorem yields_of_readFrom_awaiting_plain {progress : Progress} {operand spelling : String}
    {flag : Flag} {rest : List String} {result : List Assignment}
    (plain : classify operand = .ok .plain)
    (succeeds : readFrom (progress.awaiting flag spelling) (operand :: rest) = .ok result) :
    ∃ assignment, Yields flag spelling (some operand) assignment := by
  rcases step_of_readFrom_cons succeeds with ⟨word, next, own, stepped, _⟩
  rw [plain] at own
  cases own
  rw [step_of_waiting_plain rfl rfl] at stepped
  exact exists_yields_of_use stepped

theorem yields_of_readFrom_awaiting_apart {progress : Progress} {spelling : String}
    {flag : Flag} {rest : List String} {result : List Assignment} (apart : ¬ StartsPlain rest)
    (succeeds : readFrom (progress.awaiting flag spelling) rest = .ok result) :
    ∃ assignment, Yields flag spelling none assignment := by
  rcases settle_of_readFrom succeeds apart with ⟨settled, settles, _⟩
  rw [settle_of_waiting rfl] at settles
  exact exists_yields_of_use settles

/-- Where reading succeeds without a waiting flag, a segment stands in front,
and reading goes on behind it. -/
theorem exists_segment_of_readFrom {progress : Progress} (idle : progress.waiting = none)
    {text : String} {rest : List String} {result : List Assignment}
    (succeeds : readFrom progress (text :: rest) = .ok result) :
    ∃ texts others assignment, text :: rest = texts ++ others ∧
      Segment Yields texts assignment ∧ others.length ≤ rest.length ∧
      readFrom (progress.assigning [assignment]) others = .ok result := by
  rcases exists_flag_of_readFrom_cons idle succeeds with
    ⟨flag, spelling, attached, classified, useful⟩
  cases attached with
  | some operand =>
      rcases yields_of_readFrom_attached idle classified succeeds with ⟨assignment, yields⟩
      rw [readFrom_attached idle classified yields] at succeeds
      exact ⟨[text], rest, assignment, rfl, .attached classified yields, Nat.le_refl _, succeeds⟩
  | none =>
      rw [readFrom_open idle classified useful] at succeeds
      by_cases plain : StartsPlain rest
      · rcases plain with ⟨operand, head, plain⟩
        rcases List.head?_eq_some_iff.mp head with ⟨others, rfl⟩
        rcases yields_of_readFrom_awaiting_plain plain succeeds with ⟨assignment, yields⟩
        rw [readFrom_awaiting_plain plain yields] at succeeds
        exact ⟨[text, operand], others, assignment, rfl, .following classified plain yields,
          Nat.le_succ _, succeeds⟩
      · rcases yields_of_readFrom_awaiting_apart plain succeeds with ⟨assignment, yields⟩
        rw [readFrom_awaiting_apart yields plain] at succeeds
        exact ⟨[text], rest, assignment, rfl, .alone classified yields, Nat.le_refl _, succeeds⟩

/-- From a progress without a waiting flag, only what splits is read to its end. -/
theorem splits_of_readFrom {arguments : List String} {progress : Progress}
    {result : List Assignment} (idle : progress.waiting = none)
    (succeeds : readFrom progress arguments = .ok result) :
    ∃ assignments, Splits Yields arguments assignments ∧
      result = progress.assigned ++ assignments := by
  -- A segment takes one argument or two, so the induction is on the length.
  induction size : arguments.length using Nat.strongRecOn generalizing arguments progress with
  | ind count ih =>
      cases arguments with
      | nil =>
          rw [readFrom_nil, finish_of_idle idle] at succeeds
          split at succeeds
          · cases succeeds
            exact ⟨[], .nil, (List.append_nil _).symm⟩
          · contradiction
      | cons text rest =>
          rcases exists_segment_of_readFrom idle succeeds with
            ⟨texts, others, assignment, argumentsEq, segment, shorter, othersSucceed⟩
          have smaller : others.length < count := by
            rw [← size, List.length_cons]
            omega
          rcases ih others.length smaller rfl othersSucceed rfl with
            ⟨assignments, split, resultEq⟩
          refine ⟨assignment :: assignments, ?_, ?_⟩
          · rw [argumentsEq]
            exact .cons segment split
          · rw [resultEq]
            simp [assigning]

/-- A command line is read exactly as it splits. -/
theorem read_eq_ok_iff {arguments : List String} {assignments : List Assignment} :
    read arguments = .ok assignments ↔ Splits Yields arguments assignments := by
  constructor
  · intro succeeds
    rcases splits_of_readFrom rfl succeeds with ⟨found, split, resultEq⟩
    have assignmentsEq : assignments = found := resultEq
    rw [assignmentsEq]
    exact split
  · intro split
    have apart : ¬ (EndsOpen arguments ∧ StartsPlain []) := by
      rintro ⟨_, _, head, _⟩
      contradiction
    have waits : Progress.start.waiting = none := rfl
    have reads := readFrom_append_of_splits split apart waits
    rw [List.append_nil, readFrom_nil, finish_of_idle rfl] at reads
    exact reads

end ProxyLauncher.CommandLine
