import ProxyLauncher.Proofs.Launcher.ExitStatus
import ProxyLauncher.Proofs.Launcher.Secrecy
import ProxyLauncher.Proofs.Listener.Serving

/-!
# Listening on a network

A launcher that listens on an ordinary network stops, with one of three exit
statuses, however the calls to the system and the search for an address end.
Only a host that cannot be encoded leaves it listening: the failure is found out
when the socket is to be bound, is no refusal of the system, and so passes both
the listener and the launcher.
-/

namespace ProxyLauncher

variable {κ η : Type}

/-- The same collaborators with a service on a network. -/
def Collaborators.servingOn (network : Listener.Network) (collaborators : Collaborators κ η) :
    Collaborators κ η :=
  { collaborators with
    serve := fun handler host port => Listener.serve network handler.isSome host port }

namespace Startup

open Listener

/-- The launcher has stopped, with an exit status that is the result. -/
inductive Stops (outcome : Outcome κ η Nat) : Prop
  | intro {status : Nat} (known : status = 0 ∨ status = 1 ∨ status = 130)
      (ended : outcome.result = .ok status) (stopped : outcome.launcher.stage = .stopped)
      (noted : outcome.launcher.exitStatus = some status)

theorem Stops.after {outcome : Outcome κ η Nat} (stops : Stops outcome)
    (journal : Journal κ η) : Stops (outcome.after journal) := by
  rcases stops with ⟨known, ended, stopped, noted⟩
  exact ⟨known, ended, stopped, noted⟩

section Conclude

variable {ending : Except Failure Unit} (launcher : Launcher κ η)

theorem stops_conclude (ordinary : Ordinary ending) : Stops (conclude ending launcher) := by
  cases ordinary with
  | done value =>
      rw [conclude_returned]
      exact .intro (.inl rfl) rfl rfl rfl
  | refused message =>
      rw [conclude_refused]
      exact .intro (.inr (.inl rfl)) rfl rfl rfl
  | interrupted =>
      rw [conclude_interrupted]
      exact .intro (.inr (.inr rfl)) rfl rfl rfl

theorem conclude_result_eq_zero_iff :
    (conclude ending launcher).result = .ok 0 ↔ ending = .ok () := by
  constructor
  · intro ended
    have concluded := concluded_conclude ending launcher
    rw [ended] at concluded
    cases concluded
    rfl
  · rintro rfl
    rw [conclude_returned]

theorem foreign_hostName : Foreign .hostName :=
  ⟨nofun, nofun⟩

end Conclude

/-- What comes of listening on a host and a port, given what the launcher held before. -/
structure ListenLaw (network : Network) (host : String) (port : Int) (start : Launcher κ η)
    (outcome : Outcome κ η Nat) : Prop where
  /-- Opening the socket ends in an ordinary way, unless the host escapes. -/
  opened : Ordinary (openSocket network (.given host) (.given port)).result ↔
    ¬ Escapes network host (.given port)
  /-- The launcher stops with one of its statuses, unless the host escapes. -/
  stops : Stops outcome ↔ ¬ Escapes network host (.given port)
  /-- The status is 0 exactly when an address is found and every call succeeds. -/
  returned : outcome.result = .ok 0 ↔ Obliging network host (.given port)
  /-- A host that escapes leaves the launcher listening. -/
  escaped : Escapes network host (.given port) →
    outcome.result = .error .hostName ∧ outcome.launcher = start.listening

section Listen

variable {network : Network} {host : String} {port : Int} {launcher : Launcher κ η}
  {config : Config} (collaborators : Collaborators κ η) (held : launcher.config = some config)
  (onHost : config.host = .given host) (onPort : config.port = .given port)

include held onHost onPort

/-- Listening ends as the service does. -/
theorem listen_servingOn (network : Network) :
    ∃ journal, listen (collaborators.servingOn network) launcher =
      (conclude (serve network launcher.handler.isSome (.given host) (.given port)).result
        launcher.listening).after journal := by
  rw [← onHost, ← onPort]
  exact ⟨_, listen_apply held _⟩

theorem listen_of_escapes (escapes : Escapes network host (.given port)) :
    (listen (collaborators.servingOn network) launcher).result = .error .hostName ∧
      (listen (collaborators.servingOn network) launcher).launcher = launcher.listening := by
  obtain ⟨journal, listens⟩ :=
    listen_servingOn collaborators held onHost onPort network
  rw [listens, serve_of_escapes escapes, conclude_foreign _ foreign_hostName]
  exact ⟨rfl, rfl⟩

theorem not_stops_of_escapes (escapes : Escapes network host (.given port)) :
    ¬ Stops (listen (collaborators.servingOn network) launcher) := by
  rintro ⟨_, ended, _, _⟩
  rw [(listen_of_escapes collaborators held onHost onPort escapes).1] at ended
  cases ended

/-- Listening on an ordinary network stops the launcher, unless the host escapes. -/
theorem listen_listenLaw (ordinary : network.Ordinary) :
    ListenLaw network host port launcher (listen (collaborators.servingOn network) launcher) := by
  obtain ⟨journal, listens⟩ :=
    listen_servingOn collaborators held onHost onPort network
  constructor
  case opened =>
    constructor
    · intro opened escapes
      rw [openSocket_of_escapes escapes] at opened
      cases opened
    · exact ordinary_openSocket ordinary
  case stops =>
    constructor
    · intro stops escapes
      exact not_stops_of_escapes collaborators held onHost onPort escapes stops
    · intro kept
      rw [listens]
      exact (stops_conclude _ (ordinary_serve ordinary kept)).after journal
  case returned =>
    rw [listens, Outcome.after_result, conclude_result_eq_zero_iff]
    exact serve_eq_ok_iff
  case escaped => exact listen_of_escapes collaborators held onHost onPort

end Listen

end Startup

namespace Standard

open Startup Listener

/-- The launcher once it holds the built-in configuration with another host. -/
def launcherOn (host : String) : Launcher Key.Material Handler :=
  Launcher.configured {} { Config.default with host := .given host }

theorem ordinary_localNetwork : localNetwork.Ordinary where
  respond _ := .done ()
  addressOf := Resolver.ordinary_addressOf fun _ _ => .done _

/-- On a network that refuses nothing, a name that is looked up is listened on. -/
theorem listen_listenLaw_localhost :
    (launcherOn "localhost").config = some { Config.default with host := .given "localhost" } ∧
      localNetwork.Ordinary ∧
      ListenLaw localNetwork "localhost" 8080 (launcherOn "localhost")
        (listen ((withKey encodedOne).servingOn localNetwork) (launcherOn "localhost")) :=
  ⟨rfl, ordinary_localNetwork, listen_listenLaw _ rfl rfl rfl ordinary_localNetwork⟩

/-- On the same network, a host with an empty label does not let the launcher stop. -/
theorem not_stops_empty_label :
    ¬ Stops
      (listen ((withKey encodedOne).servingOn localNetwork) (launcherOn "a..b")) := by
  have answers (family : Family) (host : String) :
      localResolver.lookUp family host ≠ .error .hostName := nofun
  have unencodable : localResolver.addressOf "a..b" (.given 8080) = .error .hostName :=
    (Resolver.addressOf_eq_hostName_iff answers).mpr ⟨by decide +kernel, by decide +kernel⟩
  have escapes : Escapes localNetwork "a..b" (.given 8080) := ⟨unencodable, rfl, rfl⟩
  exact not_stops_of_escapes _ rfl rfl rfl escapes

end Standard

end ProxyLauncher
