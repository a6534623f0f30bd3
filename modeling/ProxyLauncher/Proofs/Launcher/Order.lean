import ProxyLauncher.Proofs.Config.Validation
import ProxyLauncher.Proofs.Launcher.Course

/-!
# The order of a run

A run asks for the key, then for a handler, then for the service, and each of
them at most once.  `Due` says when a demand may be made and with what: which
stages have been entered, what was asked before, and that each argument is what
the earlier replies gave.  Every demand of a run is due, and the stages of a run
are entered in their order, none of them twice.
-/

namespace ProxyLauncher

variable {κ η α : Type}

/-! ## Stages and demands of entries -/

namespace Journal

@[simp]
theorem stages_nil : stages ([] : Journal κ η) = [] :=
  rfl

@[simp]
theorem demands_nil : demands ([] : Journal κ η) = [] :=
  rfl

@[simp]
theorem stages_cons_stage (stage : Stage) (rest : Journal κ η) :
    stages (.stage stage :: rest) = stage :: stages rest :=
  rfl

@[simp]
theorem demands_cons_stage (stage : Stage) (rest : Journal κ η) :
    demands (.stage stage :: rest) = demands rest :=
  rfl

@[simp]
theorem stages_cons_recording (level : Log.Level) (text : String) (rest : Journal κ η) :
    stages (Startup.recording level text :: rest) = stages rest :=
  rfl

@[simp]
theorem demands_cons_recording (level : Log.Level) (text : String) (rest : Journal κ η) :
    demands (Startup.recording level text :: rest) = demands rest :=
  rfl

@[simp]
theorem stages_asking (demand : Demand κ η) (reply : Reply α) :
    stages (Activity.asking demand reply) = [] := by
  simp [stages, Activity.asking]

@[simp]
theorem demands_asking (demand : Demand κ η) (reply : Reply α) :
    demands (Activity.asking demand reply) = [demand] := by
  simp [demands, Activity.asking]

@[simp]
theorem stages_showing (config : Config) :
    stages (Startup.showing config : Journal κ η) = [] := by
  simp [stages, Startup.showing, Startup.recording]

@[simp]
theorem demands_showing (config : Config) :
    demands (Startup.showing config : Journal κ η) = [] := by
  simp [demands, Startup.showing, Startup.recording]

@[simp]
theorem stages_printing (fault : Config.ResolveFault) :
    stages (Startup.printing fault : Journal κ η) = [] := by
  cases fault <;> rfl

@[simp]
theorem demands_printing (fault : Config.ResolveFault) :
    demands (Startup.printing fault : Journal κ η) = [] := by
  cases fault <;> rfl

@[simp]
theorem stages_announcing (config : Config) :
    stages (Startup.announcing config : Journal κ η) = [] :=
  rfl

@[simp]
theorem demands_announcing (config : Config) :
    demands (Startup.announcing config : Journal κ η) = [] :=
  rfl

theorem mem_demands_iff {journal : Journal κ η} {demand : Demand κ η} :
    demand ∈ journal.demands ↔ .demand demand ∈ journal := by
  unfold demands
  rw [List.mem_filterMap]
  constructor
  · rintro ⟨entry, member, found⟩
    cases entry <;> simp_all
  · intro member
    exact ⟨.demand demand, member, rfl⟩

end Journal

namespace Startup

open Activity

/-! ## Demands that are allowed -/

section Allowed

variable {allows : Journal κ η → Demand κ η → Prop} {past first second : Journal κ η}

/-- Every demand of a journal is allowed after what was entered before it. -/
def Allowed (allows : Journal κ η → Demand κ η → Prop) (past journal : Journal κ η) : Prop :=
  ∀ before demand later, journal = before ++ .demand demand :: later →
    allows (past ++ before) demand

theorem Allowed.append (firstAllowed : Allowed allows past first)
    (secondAllowed : Allowed allows (past ++ first) second) :
    Allowed allows past (first ++ second) := by
  intro before demand later split
  -- The demand lies in the second journal, or in the first with the second behind it.
  rcases List.append_eq_append_iff.mp split with
    ⟨between, beforeEq, secondEq⟩ | ⟨between, firstEq, restEq⟩
  · rw [beforeEq, ← List.append_assoc]
    exact secondAllowed between demand later secondEq
  · cases between with
    | nil =>
        rw [List.append_nil] at firstEq
        rw [← firstEq]
        simpa using secondAllowed [] demand later restEq.symm
    | cons entry others =>
        cases restEq
        exact firstAllowed before demand others firstEq

theorem Allowed.of_demands_eq_nil (quiet : first.demands = []) : Allowed allows past first := by
  intro before demand later split
  rw [split, Journal.demands_append] at quiet
  simp [Journal.demands] at quiet

theorem Allowed.asking {demand : Demand κ η} (allowed : allows past demand) (reply : Reply α) :
    Allowed allows past (asking demand reply) := by
  intro before other later split
  cases before with
  | nil =>
      cases split
      rw [List.append_nil]
      exact allowed
  | cons entry others =>
      have amongEffects : .demand other ∈ reply.effects.map (Entry.effect (κ := κ) (η := η)) := by
        rw [(List.cons.inj split).2]
        exact List.mem_append_right others List.mem_cons_self
      simp at amongEffects

/-- One more demand, after entries that demand nothing. -/
theorem Allowed.append_asking {between : Journal κ η} {demand : Demand κ η}
    (firstAllowed : Allowed allows past first) (quiet : between.demands = [])
    (allowed : allows (past ++ (first ++ between)) demand) (reply : Reply α) :
    Allowed allows past (first ++ between ++ Activity.asking demand reply) :=
  (firstAllowed.append (.of_demands_eq_nil quiet)).append (.asking allowed reply)

end Allowed

/-! ## Demands that are due -/

/-- The stage at which a demand is made. -/
def dueAt : Demand κ η → Stage
  | .loadKey _ => .configResolved
  | .makeHandler _ _ => .credentialLoaded
  | .serve _ _ _ => .listening

variable (collaborators : Collaborators κ η) (launch : Launch)

/-- A demand is due when everything that it rests on has come about.  The last of the stages that
were entered before it is the one at which it is made. -/
inductive Due (before : Journal κ η) : Demand κ η → Prop
  /-- The key is asked for once the configuration is resolved and found valid. -/
  | loadKey {config : Config}
      (resolved : Config.default.resolve launch.arguments launch.environment = .ok config)
      (valid : config.validate = .ok ())
      (stages : before.stages = [.configResolved])
      (demands : before.demands = []) :
      Due before (.loadKey config.keyFile)
  /-- The handler is asked for once the key is loaded, and is built from it. -/
  | makeHandler {config : Config} {key : Option κ}
      (resolved : Config.default.resolve launch.arguments launch.environment = .ok config)
      (valid : config.validate = .ok ())
      (loaded : (collaborators.loadKey config.keyFile).result = .ok key)
      (stages : before.stages = [.configResolved, .credentialLoaded])
      (demands : before.demands = [.loadKey config.keyFile]) :
      Due before (.makeHandler key launch.cacheSize)
  /-- The service is asked for once the handler is built and has the configured timeout.  It is
  asked to use this handler on the configured host and port. -/
  | serve {config : Config} {key : Option κ} {built handler : η} {port : Int}
      (resolved : Config.default.resolve launch.arguments launch.environment = .ok config)
      (valid : config.validate = .ok ())
      (loaded : (collaborators.loadKey config.keyFile).result = .ok key)
      (made : (collaborators.makeHandler key launch.cacheSize).result = .ok built)
      (assigned : collaborators.assignTimeout built config.timeout = .ok handler)
      (given : config.port = .given port) (inRange : 0 ≤ port ∧ port ≤ 65535)
      (stages : before.stages =
        [.configResolved, .credentialLoaded, .handlerConstructed, .listening])
      (demands : before.demands =
        [.loadKey config.keyFile, .makeHandler key launch.cacheSize]) :
      Due before (.serve (some handler) config.host config.port)

/-! ## Demands of a course -/

variable {collaborators launch}

section Entries

variable {config : Config} {key : Option κ}
  (resolved : Config.default.resolve launch.arguments launch.environment = .ok config)
  (valid : config.validate = .ok ())

include resolved valid

theorem allowed_loading :
    Allowed (Due collaborators launch) [] (loading collaborators config) := by
  apply Allowed.append
  · exact .of_demands_eq_nil (by simp [resolving])
  · exact .asking (.loadKey resolved valid (by simp [resolving]) (by simp [resolving])) _

variable (loaded : (collaborators.loadKey config.keyFile).result = .ok key)

include loaded

theorem allowed_constructing :
    Allowed (Due collaborators launch) [] (constructing collaborators launch config key) := by
  apply (allowed_loading resolved valid).append_asking rfl
  apply Due.makeHandler resolved valid loaded <;> simp [loading, resolving]

end Entries

theorem allowed_serving {config : Config} {key : Option κ} {handler : η}
    (ready : Ready collaborators launch config key handler) :
    Allowed (Due collaborators launch) [] (serving collaborators launch config key handler) := by
  rcases bind_eq_ok_iff.mp ready.constructed with ⟨built, made, assigned⟩
  rcases (Config.validate_eq_ok_iff.mp ready.valid).1 with ⟨port, given, inRange⟩
  apply (allowed_constructing ready.resolved ready.valid ready.loaded).append_asking
  · simp
  · apply Due.serve ready.resolved ready.valid ready.loaded made assigned given inRange <;>
      simp [constructing, loading, resolving]

/-! ## The last activity -/

/-- What a run does last demands nothing, and enters no stage but the last one. -/
structure Final (journal : Journal κ η) : Prop where
  demands : journal.demands = []
  stages : journal.stages.Sublist [.stopped]

theorem final_dealWith (step : Step) (failure : Failure) (launcher : Launcher κ η) :
    Final (dealWith step failure launcher).journal := by
  cases expected : step.expected? failure with
  | none =>
      rw [dealWith_of_unexpected expected]
      exact ⟨rfl, List.nil_sublist _⟩
  | some message =>
      rw [dealWith_of_expected expected, giveUp_apply]
      cases step.logged? message with
      | none => exact ⟨rfl, .refl _⟩
      | some text => exact ⟨rfl, .refl _⟩

theorem final_conclude (ending : Except Failure Unit) (launcher : Launcher κ η) :
    Final (conclude ending launcher).journal := by
  rcases ending_cases ending with rfl | rfl | ⟨message, rfl⟩ | ⟨failure, rfl, foreign⟩
  · rw [conclude_returned]
    exact ⟨rfl, .refl _⟩
  · rw [conclude_interrupted]
    exact ⟨rfl, .refl _⟩
  · rw [conclude_refused]
    exact ⟨rfl, .refl _⟩
  · rw [conclude_foreign launcher foreign]
    exact ⟨rfl, List.nil_sublist _⟩

/-! ## Runs -/

/-- A journal up to the last activity of a run. -/
structure Orderly (collaborators : Collaborators κ η) (launch : Launch) (journal : Journal κ η) :
    Prop where
  allowed : Allowed (Due collaborators launch) [] journal
  demands : (journal.demands.map dueAt).Sublist [.configResolved, .credentialLoaded, .listening]
  stages : journal.stages.Sublist
    [.configResolved, .credentialLoaded, .handlerConstructed, .listening]

theorem orderly_of_course {start reached : Launcher κ η} {journal : Journal κ η}
    {last : Activity κ η Nat} (course : Course collaborators launch start reached journal last) :
    Orderly collaborators launch journal ∧ Final (last reached).journal := by
  cases course with
  | unresolved unresolved =>
      refine ⟨⟨.of_demands_eq_nil (by simp), ?_, ?_⟩, final_dealWith _ _ _⟩
      · simp
      · simp
  | refused resolved refused =>
      refine ⟨⟨.of_demands_eq_nil (by simp [resolving]), ?_, ?_⟩, final_dealWith _ _ _⟩
      · simp [resolving]
      · simp [resolving]
  | keyless resolved valid failed =>
      refine ⟨⟨allowed_loading resolved valid, ?_, ?_⟩, final_dealWith _ _ _⟩
      · simp [loading, resolving, dueAt]
      · simp [loading, resolving]
  | handlerless resolved valid loaded failed =>
      refine ⟨⟨allowed_constructing resolved valid loaded, ?_, ?_⟩, final_dealWith _ _ _⟩
      · simp [constructing, loading, resolving, dueAt]
      · simp [constructing, loading, resolving]
  | served ready =>
      refine ⟨⟨allowed_serving ready, ?_, ?_⟩, final_conclude _ _⟩
      · simp [serving, constructing, loading, resolving, dueAt]
      · simp [serving, constructing, loading, resolving]

/-- A journal in which everything happens in its turn, given the stage at the beginning. -/
structure InOrder (collaborators : Collaborators κ η) (launch : Launch) (first : Stage)
    (journal : Journal κ η) : Prop where
  /-- Whatever is demanded is due after what was entered before. -/
  due : ∀ before demand later, journal = before ++ .demand demand :: later →
    Due collaborators launch before demand
  /-- Nothing is demanded twice. -/
  once : (journal.demands.map dueAt).Nodup
  /-- The stages are entered in their order. -/
  forward : (first :: journal.stages).Sublist Stage.all
  /-- No stage is entered twice. -/
  distinct : (first :: journal.stages).Nodup

variable (collaborators launch)

theorem run_allowed (start : Launcher κ η) :
    Allowed (Due collaborators launch) [] (run collaborators launch start).journal := by
  rcases exists_course collaborators launch start with ⟨reached, journal, last, course⟩
  rcases orderly_of_course course with ⟨orderly, final⟩
  rw [run_of_course course]
  exact orderly.allowed.append (.of_demands_eq_nil final.demands)

/-- In a run everything happens in its turn: a key, a handler and the service are asked for at most
once each, when they are due and with what the replies before gave, and the launcher goes through
its stages from the first on, without coming to one again. -/
theorem run_inOrder :
    InOrder collaborators launch ({} : Launcher κ η).stage (run collaborators launch {}).journal := by
  rcases exists_course collaborators launch {} with ⟨reached, journal, last, course⟩
  rcases orderly_of_course course with ⟨orderly, final⟩
  have demandsEq : (run collaborators launch {}).journal.demands = journal.demands := by
    rw [run_of_course course, Outcome.after_journal, Journal.demands_append, final.demands,
      List.append_nil]
  have forward : (Stage.unstarted :: (run collaborators launch {}).journal.stages).Sublist
      Stage.all := by
    rw [run_of_course course, Outcome.after_journal, Journal.stages_append]
    exact (orderly.stages.append final.stages).cons_cons .unstarted
  refine ⟨run_allowed collaborators launch {}, ?_, forward, forward.nodup (by decide)⟩
  rw [demandsEq]
  exact orderly.demands.nodup (by decide)

end Startup

end ProxyLauncher
