import ProxyLauncher.Listener.Socket
import ProxyLauncher.Proofs.Attempt

/-!
# How a service can end

On an ordinary network every call to the system succeeds, is refused or is
interrupted, and so does the search for an address.  A service on it ends in the
same three ways, and it succeeds exactly when every call does and an address is
found.

There is one exception.  A host whose labels cannot be encoded is found out only
when the socket is to be bound, and this failure is no refusal of the system.
A resolver gives it for exactly those hosts.
-/

namespace ProxyLauncher

variable {α β : Type}

/-- Some work was done, was refused by the system, or was interrupted. -/
inductive Ordinary : Except Failure α → Prop
  | done (value : α) : Ordinary (.ok value)
  | refused (message : String) : Ordinary (.error (.system message))
  | interrupted : Ordinary (.error .interrupted)

/-- A chain of ordinary work is ordinary. -/
theorem Ordinary.bind {first : Except Failure α} {next : α → Except Failure β}
    (ordinary : Ordinary first)
    (ordinaryNext : ∀ value, first = .ok value → Ordinary (next value)) :
    Ordinary (first >>= next) := by
  cases ordinary with
  | done value => exact ordinaryNext value rfl
  | refused message => exact .refused message
  | interrupted => exact .interrupted

theorem Ordinary.map {first : Except Failure α} (ordinary : Ordinary first) (f : α → β) :
    Ordinary (first.map f) := by
  cases ordinary with
  | done value => exact .done (f value)
  | refused message => exact .refused message
  | interrupted => exact .interrupted

namespace Reply

variable {reply : Reply α} {last : Reply Unit}

theorem result_bind (reply : Reply α) (next : α → Reply β) :
    (reply >>= next).result = reply.result >>= fun value => (next value).result := by
  change (reply.andThen next).result = _
  unfold andThen
  cases reply.result <;> rfl

/-- The work that is always done at the end decides, unless it succeeds. -/
theorem result_andAlways (reply : Reply α) (last : Reply Unit) :
    (reply.andAlways last).result = last.result >>= fun _ => reply.result := by
  unfold andAlways
  cases last.result <;> rfl

theorem andIfRefused_eq_ok_iff {value : α} :
    (reply.andIfRefused last).result = .ok value ↔ reply.result = .ok value := by
  unfold andIfRefused
  split
  case h_1 message refused =>
    rw [result_andAlways, refused]
    cases last.result <;> simp
  case h_2 => rfl

theorem ordinary_andIfRefused (ordinary : Ordinary reply.result)
    (ordinaryLast : Ordinary last.result) : Ordinary (reply.andIfRefused last).result := by
  unfold andIfRefused
  split
  case h_1 =>
    rw [result_andAlways]
    exact ordinaryLast.bind fun _ _ => ordinary
  case h_2 => exact ordinary

/-- A failure that is no refusal is left as it is. -/
theorem andIfRefused_of_hostName (failed : reply.result = .error .hostName) :
    (reply.andIfRefused last).result = .error .hostName := by
  unfold andIfRefused
  split
  case h_1 message refused =>
    rw [failed] at refused
    cases refused
  case h_2 => exact failed

end Reply

namespace Listener

/-- A network on which every call ends in an ordinary way, and so does every search for an address,
unless the host cannot be encoded. -/
structure Network.Ordinary (network : Network) : Prop where
  respond : ∀ operation, ProxyLauncher.Ordinary (network.respond operation)
  addressOf : ∀ host (port : Int), network.addressOf host (.given port) = .error .hostName ∨
    ProxyLauncher.Ordinary (network.addressOf host (.given port))

/-- The host cannot be encoded, and the calls before that is found out succeed. -/
structure Escapes (network : Network) (host : String) (port : Operand Int) : Prop where
  unencodable : network.addressOf host port = .error .hostName
  opens : network.respond .openSocket = .ok ()
  allows : network.respond .allowReuse = .ok ()

/-- All that a service asks of the network is granted. -/
structure Obliging (network : Network) (host : String) (port : Operand Int) : Prop where
  found : ∃ address, network.addressOf host port = .ok address
  granted : ∀ operation, network.respond operation = .ok ()

/-! ## Networks with a resolver -/

namespace Resolver

variable {resolver : Resolver} {host : String} {port : Int}

theorem numericAddress_of_encodable {family : Family}
    (encodable : HostName.isEncodable resolver.prepare host.toList = true) :
    resolver.numericAddress family host (.given port) =
      (resolver.lookUp family host).map fun
        | none => .unresolved host port
        | some text =>
          if family = .version6 then .version6 text port else .version4 text port := by
  unfold numericAddress
  rw [if_pos encodable, portNumber]
  cases resolver.lookUp family host with
  | error failure => rfl
  | ok found => cases found <;> rfl

theorem numericAddress_of_not_encodable {family : Family}
    (unencodable : ¬ HostName.isEncodable resolver.prepare host.toList = true) :
    resolver.numericAddress family host (.given port) = .error .hostName := by
  unfold numericAddress
  rw [if_neg unencodable]

/-- A host cannot be named for its labels alone, and the path of a local socket has none. -/
theorem addressOf_eq_hostName_iff
    (answers : ∀ family host, resolver.lookUp family host ≠ .error .hostName) :
    resolver.addressOf host (.given port) = .error .hostName ↔
      Family.ofHost host.toList ≠ .localPath ∧
        ¬ HostName.isEncodable resolver.prepare host.toList = true := by
  unfold addressOf
  split
  case h_1 isLocal => simp [isLocal]
  case h_2 numeric =>
    by_cases encodable : HostName.isEncodable resolver.prepare host.toList = true
    · rw [numericAddress_of_encodable encodable, map_eq_error_iff]
      simp [answers, encodable]
    · rw [numericAddress_of_not_encodable encodable]
      exact ⟨fun _ => ⟨numeric, encodable⟩, fun _ => rfl⟩

/-- Where hosts are looked up in an ordinary way, so are addresses. -/
theorem ordinary_addressOf
    (ordinary : ∀ family host, ProxyLauncher.Ordinary (resolver.lookUp family host))
    (host : String) (port : Int) :
    resolver.addressOf host (.given port) = .error .hostName ∨
      ProxyLauncher.Ordinary (resolver.addressOf host (.given port)) := by
  unfold addressOf
  split
  case h_1 => exact .inr (.done _)
  case h_2 =>
    by_cases encodable : HostName.isEncodable resolver.prepare host.toList = true
    · rw [numericAddress_of_encodable encodable]
      exact .inr ((ordinary _ host).map _)
    · exact .inl (numericAddress_of_not_encodable encodable)

end Resolver

variable {network : Network} {host : String} {port : Int} {hasHandler : Bool}

/-! ## Chains of calls -/

theorem result_bindAndListen (network : Network) (host : String) (port : Operand Int) :
    (bindAndListen network host port).result =
      network.addressOf host port >>= fun _ =>
        network.respond .bind >>= fun _ => network.respond .listen := by
  simp only [bindAndListen, Reply.result_bind]
  rfl

theorem result_openSocket (network : Network) (host : String) (port : Operand Int) :
    (openSocket network (.given host) port).result =
      network.respond .openSocket >>= fun _ => network.respond .allowReuse >>= fun _ =>
        ((bindAndListen network host port).andIfRefused (network.perform .close)).result := by
  simp only [openSocket, Reply.result_bind]
  rfl

theorem result_serve (network : Network) (hasHandler : Bool) (host : Operand String)
    (port : Operand Int) :
    (serve network hasHandler host port).result =
      (openSocket network host port).result >>= fun _ =>
        (network.respond .close >>= fun _ => network.respond .buildServer) >>= fun _ =>
          network.respond .answerRequests := by
  simp only [serve, Reply.result_bind, Reply.result_andAlways]
  rfl

/-! ## Hosts that escape -/

theorem openSocket_of_escapes {port : Operand Int} (escapes : Escapes network host port) :
    (openSocket network (.given host) port).result = .error .hostName := by
  have unbound : (bindAndListen network host port).result = .error .hostName := by
    rw [result_bindAndListen, escapes.unencodable, error_bind]
  rw [result_openSocket, escapes.opens, ok_bind, escapes.allows, ok_bind,
    Reply.andIfRefused_of_hostName unbound]

theorem serve_of_escapes {port : Operand Int} (escapes : Escapes network host port) :
    (serve network hasHandler (.given host) port).result = .error .hostName := by
  rw [result_serve, openSocket_of_escapes escapes, error_bind]

/-! ## Services that succeed -/

/-- On every network, a service succeeds exactly when all that it asks for is granted. -/
theorem serve_eq_ok_iff {port : Operand Int} :
    (serve network hasHandler (.given host) port).result = .ok () ↔
      Obliging network host port := by
  simp only [result_serve, result_openSocket, bind_eq_ok_iff, Reply.andIfRefused_eq_ok_iff,
    result_bindAndListen]
  constructor
  · rintro ⟨_, ⟨_, opens, _, allows, address, found, _, binds, listens⟩, _, ⟨_, closes, builds⟩,
      answers⟩
    refine ⟨⟨address, found⟩, ?_⟩
    intro operation
    cases operation with
    | openSocket => exact opens
    | allowReuse => exact allows
    | bind => exact binds
    | listen => exact listens
    | buildServer => exact builds
    | close => exact closes
    | answerRequests => exact answers
  · rintro ⟨⟨address, found⟩, granted⟩
    exact ⟨(), ⟨(), granted _, (), granted _, address, found, (), granted _, granted _⟩, (),
      ⟨(), granted _, granted _⟩, granted _⟩

/-! ## Services on an ordinary network -/

section Ordinary

variable (ordinary : network.Ordinary)

include ordinary

theorem ordinary_bindAndListen
    (encodable : network.addressOf host (.given port) ≠ .error .hostName) :
    Ordinary (bindAndListen network host (.given port)).result := by
  rw [result_bindAndListen]
  refine ((ordinary.addressOf host port).resolve_left encodable).bind fun _ _ => ?_
  exact (ordinary.respond .bind).bind fun _ _ => ordinary.respond .listen

theorem ordinary_openSocket (kept : ¬ Escapes network host (.given port)) :
    Ordinary (openSocket network (.given host) (.given port)).result := by
  rw [result_openSocket]
  refine (ordinary.respond .openSocket).bind fun _ opens => ?_
  refine (ordinary.respond .allowReuse).bind fun _ allows => ?_
  have encodable : network.addressOf host (.given port) ≠ .error .hostName :=
    fun unencodable => kept ⟨unencodable, opens, allows⟩
  exact Reply.ordinary_andIfRefused (ordinary_bindAndListen ordinary encodable)
    (ordinary.respond .close)

theorem ordinary_serve (kept : ¬ Escapes network host (.given port)) :
    Ordinary (serve network hasHandler (.given host) (.given port)).result := by
  rw [result_serve]
  refine (ordinary_openSocket ordinary kept).bind fun _ _ => ?_
  refine ((ordinary.respond .close).bind fun _ _ => ordinary.respond .buildServer).bind ?_
  exact fun _ _ => ordinary.respond .answerRequests

end Ordinary

end Listener

end ProxyLauncher
