import ProxyLauncher.Proofs.Launcher.Calls

/-!
# What a launcher holds fits together

The steps of the startup take what they need from the launcher, and nothing
keeps them from being called too early or twice.  What the launcher holds fits
together all the same, after any sequence of calls: `Coherent` says how.  The
stage never promises more than is there, a handler has the timeout of the
configuration, and an exit status tells how the launcher has come to stop.

The configuration is the one that the launch resolves to, whenever it was
resolved, and so it never changes.

A call may end at any point at which others are asked for something, by a
failure of theirs.  So all this also holds of the launcher as they find it.
-/

namespace ProxyLauncher

variable {κ η : Type}

/-- A timeout that a handler was given reads back as it was written. -/
def Collaborators.ReadsBack (collaborators : Collaborators κ η)
    (timeoutOf : η → Operand Number.Binary64) : Prop :=
  ∀ handler timeout assigned, collaborators.assignTimeout handler timeout = .ok assigned →
    timeoutOf assigned = timeout

namespace Startup

/-- What the launcher holds fits together, given what was entered so far. -/
structure Coherent (launch : Launch) (timeoutOf : η → Operand Number.Binary64)
    (past : Journal κ η) (launcher : Launcher κ η) : Prop where
  /-- A configuration is the one that the launch resolves to. -/
  resolved : ∀ config, launcher.config = some config →
    Config.default.resolve launch.arguments launch.environment = .ok config
  /-- A handler has the timeout of the configuration, which is there too. -/
  equipped : ∀ handler, launcher.handler = some handler →
    ∃ config, launcher.config = some config ∧ timeoutOf handler = config.timeout
  /-- At the stages that need a configuration there is one. -/
  configured : launcher.stage = .configResolved ∨ launcher.stage = .credentialLoaded ∨
    launcher.stage = .handlerConstructed → launcher.config ≠ none
  /-- Once a handler is constructed there is one. -/
  constructed : launcher.stage = .handlerConstructed → launcher.handler ≠ none
  /-- A launcher that has stopped has an exit status, and there are three of them. -/
  stopped : launcher.stage = .stopped → launcher.exitStatus = some 0 ∨
    launcher.exitStatus = some 1 ∨ launcher.exitStatus = some 130
  /-- Two of them are for a launcher that has served. -/
  served : launcher.exitStatus = some 0 ∨ launcher.exitStatus = some 130 →
    ∃ handler host port, .demand (.serve handler host port) ∈ past

variable {launch : Launch} {timeoutOf : η → Operand Number.Binary64}

/-! ## One thing happens -/

/-- A new launcher holds nothing that would not fit. -/
theorem coherent_new : Coherent launch timeoutOf [] ({} : Launcher κ η) where
  resolved := nofun
  equipped := nofun
  configured := by simp
  constructed := nofun
  stopped := nofun
  served := by simp

section Happens

variable {past : Journal κ η} {launcher : Launcher κ η}
  (coherent : Coherent launch timeoutOf past launcher)

include coherent

theorem Coherent.append (entries : Journal κ η) :
    Coherent launch timeoutOf (past ++ entries) launcher := by
  refine { coherent with served := ?_ }
  intro status
  obtain ⟨handler, host, port, asked⟩ := coherent.served status
  exact ⟨handler, host, port, List.mem_append_left entries asked⟩

/-- A configuration that is resolved again is the same. -/
theorem Coherent.config_eq {config other : Config} (held : launcher.config = some other)
    (resolved : Config.default.resolve launch.arguments launch.environment = .ok config) :
    other = config :=
  Except.ok.inj ((coherent.resolved other held).symm.trans resolved)

theorem Coherent.configure {config : Config}
    (resolved : Config.default.resolve launch.arguments launch.environment = .ok config) :
    Coherent launch timeoutOf past (launcher.configured config) where
  resolved := by
    rintro other ⟨⟩
    exact resolved
  equipped := by
    intro handler equipped
    obtain ⟨other, held, timeoutEq⟩ := coherent.equipped handler equipped
    cases coherent.config_eq held resolved
    exact ⟨config, rfl, timeoutEq⟩
  configured := by simp
  constructed := nofun
  stopped := nofun
  served := coherent.served

theorem Coherent.key {config : Config} (held : launcher.config = some config) (key : Option κ) :
    Coherent launch timeoutOf past (launcher.keyed key) where
  resolved := coherent.resolved
  equipped := coherent.equipped
  configured := by simp [held]
  constructed := nofun
  stopped := nofun
  served := coherent.served

theorem Coherent.equip {config : Config} {handler : η} (held : launcher.config = some config)
    (timeoutEq : timeoutOf handler = config.timeout) :
    Coherent launch timeoutOf past (launcher.equipped handler) where
  resolved := coherent.resolved
  equipped := by
    rintro other ⟨⟩
    exact ⟨config, held, timeoutEq⟩
  configured := by simp [held]
  constructed := by simp
  stopped := nofun
  served := coherent.served

theorem Coherent.listen : Coherent launch timeoutOf past launcher.listening where
  resolved := coherent.resolved
  equipped := coherent.equipped
  configured := by simp
  constructed := nofun
  stopped := nofun
  served := coherent.served

theorem Coherent.stop {status : Nat} (known : status = 0 ∨ status = 1 ∨ status = 130)
    (served : status = 0 ∨ status = 130 →
      ∃ handler host port, .demand (.serve handler host port) ∈ past) :
    Coherent launch timeoutOf past (launcher.stopped status) where
  resolved := coherent.resolved
  equipped := coherent.equipped
  configured := by simp
  constructed := nofun
  stopped := by simpa using known
  served := by simpa using served

end Happens

/-! ## Calls -/

/-- A launcher stays coherent, whatever happens to it. -/
theorem stable_coherent {collaborators : Collaborators κ η}
    (readsBack : collaborators.ReadsBack timeoutOf) :
    Stable collaborators launch (Coherent launch timeoutOf) where
  entered entries coherent := coherent.append entries
  configured resolved coherent := coherent.configure resolved
  keyed held _ coherent := coherent.key held _
  equipped held constructed coherent := by
    obtain ⟨built, _, assigned⟩ := bind_eq_ok_iff.mp constructed
    exact coherent.equip held (readsBack _ _ _ assigned)
  listening coherent := coherent.listen
  failed coherent := by
    refine coherent.stop (.inr (.inl rfl)) ?_
    rintro (⟨⟨⟩⟩ | ⟨⟨⟩⟩)
  served asked known coherent := by
    refine coherent.stop ?_ fun _ => ⟨_, _, _, asked⟩
    rcases known with rfl | rfl
    · exact .inl rfl
    · exact .inr (.inr rfl)

/-- A launcher that holds the configuration of its launch holds it, whatever happens to it. -/
theorem stable_config {config : Config}
    (resolved : Config.default.resolve launch.arguments launch.environment = .ok config)
    (collaborators : Collaborators κ η) :
    Stable collaborators launch fun _ launcher => launcher.config = some config where
  entered _ held := held
  configured resolvedAgain _ := by
    rw [resolved] at resolvedAgain
    cases resolvedAgain
    rfl
  keyed _ _ held := held
  equipped _ _ held := held
  listening held := held
  failed held := held
  served _ _ held := held

/-- After any calls in any order what a launcher holds fits together, and the configuration, once
there, stays the same. -/
theorem callAll_coherent {earlier later : List (Call κ η)}
    (readsBack : ∀ call ∈ earlier ++ later, call.collaborators.ReadsBack timeoutOf) :
    Coherent launch timeoutOf (callAll launch earlier {}).journal
        (callAll launch earlier {}).launcher ∧
      ∀ config, (callAll launch earlier {}).launcher.config = some config →
        (callAll launch (earlier ++ later) {}).launcher.config = some config := by
  have stable : ∀ call ∈ earlier, Stable call.collaborators launch (Coherent launch timeoutOf) :=
    fun call member => stable_coherent (readsBack call (List.mem_append_left later member))
  have coherent : Coherent launch timeoutOf (callAll launch earlier {}).journal
      (callAll launch earlier {}).launcher := keeps_callAll stable [] {} coherent_new
  refine ⟨coherent, ?_⟩
  intro config held
  rw [callAll_append, Outcome.after_launcher]
  have stays := fun call (_ : call ∈ later) =>
    stable_config (coherent.resolved config held) call.collaborators
  exact keeps_callAll stays (callAll launch earlier {}).journal _ held

/-- Those whose handlers are their timeouts, and whose service the user interrupts. -/
def interrupting : Collaborators Unit (Operand Number.Binary64) where
  loadKey := fun _ => .done (some ())
  makeHandler := fun _ _ => .done .dropped
  assignTimeout := fun _ timeout => .ok timeout
  serve := fun _ _ _ => .failed .interrupted

theorem readsBack_interrupting : interrupting.ReadsBack id := by
  rintro handler timeout assigned ⟨⟩
  rfl

/-- A launch without arguments and variables. -/
def plainLaunch : Launch where
  arguments := []
  environment := fun _ => none

/-- A launcher that is asked to listen before it has a configuration, and is then run. -/
def untimelyCalls : List (Call Unit (Operand Number.Binary64)) :=
  [⟨.listen, interrupting⟩, ⟨.run, interrupting⟩]

/-- It is interrupted in the end, with a handler that has the configured timeout, and keeps its
configuration when that is resolved again. -/
theorem callAll_coherent_untimely :
    (∀ call ∈ untimelyCalls ++ [⟨.resolveConfig, interrupting⟩],
        call.collaborators.ReadsBack id) ∧
      Coherent plainLaunch id (callAll plainLaunch untimelyCalls {}).journal
        (callAll plainLaunch untimelyCalls {}).launcher ∧
      (callAll plainLaunch untimelyCalls {}).launcher.exitStatus = some 130 ∧
      ∀ config, (callAll plainLaunch untimelyCalls {}).launcher.config = some config →
        (callAll plainLaunch (untimelyCalls ++ [⟨.resolveConfig, interrupting⟩]) {}).launcher.config =
          some config := by
  have readsBack : ∀ call ∈ untimelyCalls ++ [⟨.resolveConfig, interrupting⟩],
      call.collaborators.ReadsBack id := by
    intro call member
    have named : call.collaborators = interrupting := by
      simp only [untimelyCalls, List.cons_append, List.nil_append, List.mem_cons,
        List.not_mem_nil, or_false] at member
      rcases member with rfl | rfl | rfl <;> rfl
    rw [named]
    exact readsBack_interrupting
  refine ⟨readsBack, (callAll_coherent readsBack).1, ?_, (callAll_coherent readsBack).2⟩
  decide +kernel

end Startup

end ProxyLauncher
