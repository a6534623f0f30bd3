import ProxyLauncher.Proofs.Listener.Serving

/-!
# What becomes of the socket

The calls of the listener are about one socket.  `Socket.Takes` says what a call
makes of it, given whether the system granted the call.  A call that the socket
is in no condition for has no outcome: closing it twice, for one, or answering
requests before it is closed.  So where calls can be followed to their end, the
socket is closed at most once.

The calls of a service can always be followed.  But not every socket that cannot
be set up is closed: `Leaks` lists the failures with which one is left open.  The
first step after it was created is not guarded at all, and the others only
against refusals of the system.
-/

namespace ProxyLauncher

variable {α β : Type}

namespace Reply

/-- The calls to the system that were made. -/
def calls (reply : Reply α) : List Listener.Call :=
  reply.effects.filterMap fun
    | .call call => some call
    | .record _ => none

variable {reply : Reply α}

theorem calls_bind_of_ok {value : α} (ended : reply.result = .ok value) (next : α → Reply β) :
    (reply >>= next).calls = reply.calls ++ (next value).calls := by
  change (reply.andThen next).calls = _
  rw [andThen, ended, calls, List.filterMap_append]
  rfl

theorem calls_bind_of_error {failure : Failure} (ended : reply.result = .error failure)
    (next : α → Reply β) : (reply >>= next).calls = reply.calls := by
  change (reply.andThen next).calls = _
  rw [andThen, ended]
  rfl

theorem calls_andAlways (reply : Reply α) (last : Reply Unit) :
    (reply.andAlways last).calls = reply.calls ++ last.calls :=
  List.filterMap_append

theorem andIfRefused_of_refused {message : String}
    (refused : reply.result = .error (.system message)) (last : Reply Unit) :
    reply.andIfRefused last = reply.andAlways last := by
  rw [andIfRefused, refused]

theorem andIfRefused_of_unrefused
    (unrefused : ∀ message, reply.result ≠ .error (.system message)) (last : Reply Unit) :
    reply.andIfRefused last = reply := by
  unfold andIfRefused
  split
  case h_1 message refused => exact absurd refused (unrefused message)
  case h_2 => rfl

end Reply

namespace Listener

/-! ## The socket -/

/-- The condition of the socket. -/
inductive Socket where
  /-- There is none yet. -/
  | unopened
  /-- It is open and has no address. -/
  | opened
  /-- It is open and has an address. -/
  | bound (address : Address)
  /-- It is open and listens, and a server may have been built on it. -/
  | listening (address : Address) (backlog : Nat) (hasServer : Bool)
  /-- It is closed. A server that was built on it goes on with a copy. -/
  | closed (hasServer : Bool)
  deriving DecidableEq, Repr

namespace Socket

/-- The socket is open. -/
def isOpen : Socket → Bool
  | .opened => true
  | .bound _ => true
  | .listening _ _ _ => true
  | .unopened => false
  | .closed _ => false

/-- A server has been built on the socket. -/
def hasServer : Socket → Bool
  | .listening _ _ hasServer => hasServer
  | .closed hasServer => hasServer
  | _ => false

/-- How often the socket has been closed. -/
def closings : Socket → Nat
  | .closed _ => 1
  | _ => 0

/-- What a call makes of the socket, given whether it was granted. -/
inductive Takes (granted : Bool) : Socket → Call → Socket → Prop
  | openSocket (family : Family) :
      Takes granted .unopened (.openSocket family) (if granted then .opened else .unopened)
  | allowReuse : Takes granted .opened .allowReuse .opened
  | bind (address : Address) :
      Takes granted .opened (.bind address) (if granted then .bound address else .opened)
  | listen (address : Address) (backlog : Nat) :
      Takes granted (.bound address) (.listen backlog)
        (if granted then .listening address backlog false else .bound address)
  | buildServer (address : Address) (backlog : Nat) (hasHandler : Bool) (host : String)
      (port : Operand Int) :
      Takes granted (.listening address backlog false) (.buildServer hasHandler host port)
        (.listening address backlog granted)
  /-- A socket is closed even if that is not granted. -/
  | close {socket : Socket} (isOpen : socket.isOpen = true) :
      Takes granted socket .close (.closed socket.hasServer)
  | answerRequests : Takes granted (.closed true) .answerRequests (.closed true)

theorem closings_of_isOpen {socket : Socket} (isOpen : socket.isOpen = true) :
    socket.closings = 0 := by
  cases socket with
  | closed => cases isOpen
  | _ => rfl

/-- The call to close the socket closes it, and no other call does. -/
theorem Takes.closings_eq {granted : Bool} {socket next : Socket} {call : Call}
    (takes : Takes granted socket call next) :
    next.closings = socket.closings + if call = .close then 1 else 0 := by
  cases takes with
  | openSocket => cases granted <;> rfl
  | bind => cases granted <;> rfl
  | listen => cases granted <;> rfl
  | close isOpen =>
      rw [closings_of_isOpen isOpen]
      rfl
  | allowReuse => rfl
  | buildServer => rfl
  | answerRequests => rfl

end Socket

/-- The system does what is asked of it. -/
def Network.grants (network : Network) (operation : Operation) : Bool :=
  (network.respond operation).isOk

/-- Calls lead from one condition of the socket to another. -/
inductive Follows (network : Network) : Socket → List Call → Socket → Prop
  | nil (socket : Socket) : Follows network socket [] socket
  | cons {socket next after : Socket} {call : Call} {rest : List Call}
      (takes : Socket.Takes (network.grants call.operation) socket call next)
      (follows : Follows network next rest after) : Follows network socket (call :: rest) after

variable {network : Network} {before middle after : Socket}

theorem Follows.append {first second : List Call} (follows : Follows network before first middle)
    (further : Follows network middle second after) :
    Follows network before (first ++ second) after := by
  induction follows with
  | nil => exact further
  | cons takes _ ih => exact .cons takes (ih further)

/-- The socket is closed as often as the calls ask for it. -/
theorem Follows.closings_eq {calls : List Call} (follows : Follows network before calls after) :
    after.closings = before.closings + calls.count .close := by
  induction follows with
  | nil => rfl
  | @cons _ _ _ call rest takes _ ih =>
      rw [ih, takes.closings_eq, List.count_cons, Nat.add_assoc, Nat.add_comm (rest.count _)]
      simp only [beq_iff_eq]

/-! ## Replies -/

/-- The calls of a reply lead from one condition of the socket to another. -/
def Leads (network : Network) (before : Socket) (reply : Reply α) (after : Socket) : Prop :=
  Follows network before reply.calls after

section Leads

variable {reply : Reply α} {last : Reply Unit}

theorem leads_granted {call : Call} (answer : network.respond call.operation = .ok ())
    (takes : Socket.Takes true before call after) :
    Leads network before (network.perform call) after := by
  apply Follows.cons _ (.nil after)
  rw [Network.grants, answer]
  exact takes

theorem leads_denied {call : Call} {failure : Failure}
    (answer : network.respond call.operation = .error failure)
    (takes : Socket.Takes false before call after) :
    Leads network before (network.perform call) after := by
  apply Follows.cons _ (.nil after)
  rw [Network.grants, answer]
  exact takes

theorem leads_ofExcept (result : Except Failure α) :
    Leads network before (.ofExcept result) before :=
  .nil before

theorem Leads.bind {value : α} {next : α → Reply β} (leads : Leads network before reply middle)
    (ended : reply.result = .ok value) (further : Leads network middle (next value) after) :
    Leads network before (reply >>= next) after := by
  unfold Leads
  rw [Reply.calls_bind_of_ok ended]
  exact Follows.append leads further

theorem Leads.bind_of_error {failure : Failure} {next : α → Reply β}
    (leads : Leads network before reply after) (ended : reply.result = .error failure) :
    Leads network before (reply >>= next) after := by
  unfold Leads
  rw [Reply.calls_bind_of_error ended]
  exact leads

theorem Leads.andAlways (leads : Leads network before reply middle)
    (further : Leads network middle last after) :
    Leads network before (reply.andAlways last) after := by
  unfold Leads
  rw [Reply.calls_andAlways]
  exact Follows.append leads further

end Leads

/-- Closing an open socket. -/
theorem leads_close (isOpen : before.isOpen = true) :
    Leads network before (network.perform .close) (.closed before.hasServer) :=
  .cons (.close isOpen) (.nil _)

/-! ## Setting the socket up -/

variable {host : String} {port : Operand Int}

/-- How the socket is left by binding it and starting to listen. -/
inductive Prepared (network : Network) (host : String) (port : Operand Int) :
    Except Failure Unit → Socket → Prop
  | failed {failure : Failure} {socket : Socket} (isOpen : socket.isOpen = true)
      (serverless : socket.hasServer = false) : Prepared network host port (.error failure) socket
  | listening {address : Address} (found : network.addressOf host port = .ok address) :
      Prepared network host port (.ok ()) (.listening address Default.backlog false)

theorem exists_prepared (network : Network) (host : String) (port : Operand Int) :
    ∃ socket, Prepared network host port (bindAndListen network host port).result socket ∧
      Leads network .opened (bindAndListen network host port) socket := by
  rw [result_bindAndListen]
  cases found : network.addressOf host port with
  | error failure =>
      refine ⟨.opened, .failed rfl rfl, ?_⟩
      exact (leads_ofExcept _).bind_of_error found
  | ok address =>
      cases binds : network.respond .bind with
      | error failure =>
          refine ⟨.opened, .failed rfl rfl, ?_⟩
          apply (leads_ofExcept _).bind found
          exact (leads_denied binds (.bind address)).bind_of_error binds
      | ok _ =>
          cases listens : network.respond .listen with
          | error failure =>
              refine ⟨.bound address, .failed rfl rfl, ?_⟩
              apply (leads_ofExcept _).bind found
              apply (leads_granted binds (.bind address)).bind binds
              exact leads_denied listens (.listen address Default.backlog)
          | ok _ =>
              refine ⟨.listening address Default.backlog false, .listening found, ?_⟩
              apply (leads_ofExcept _).bind found
              apply (leads_granted binds (.bind address)).bind binds
              exact leads_granted listens (.listen address Default.backlog)

/-! ## Opening the socket -/

/-- What the steps after the socket was created come to, if nothing is done about a failure. -/
def setUp (network : Network) (host : String) (port : Operand Int) : Except Failure Unit :=
  network.respond .allowReuse >>= fun _ => (bindAndListen network host port).result

/-- The failures with which a socket is left open: it was created, and then its address cannot be
used again, or a later failure is no refusal of the system. -/
inductive Leaks (network : Network) (host : String) (port : Operand Int) : Failure → Prop
  | unguarded {failure : Failure} (opens : network.respond .openSocket = .ok ())
      (failed : network.respond .allowReuse = .error failure) : Leaks network host port failure
  | passed {failure : Failure} (opens : network.respond .openSocket = .ok ())
      (allows : network.respond .allowReuse = .ok ())
      (failed : (bindAndListen network host port).result = .error failure)
      (unrefused : ∀ message, failure ≠ .system message) : Leaks network host port failure

/-- The system refuses the address, or to listen on it, after the socket was created. -/
structure Refused (network : Network) (host : String) (port : Operand Int) (message : String) :
    Prop where
  opens : network.respond .openSocket = .ok ()
  allows : network.respond .allowReuse = .ok ()
  failed : (bindAndListen network host port).result = .error (.system message)

/-- The socket listens in the end. -/
structure Opened (network : Network) (host : String) (port : Operand Int) : Prop where
  opens : network.respond .openSocket = .ok ()
  allows : network.respond .allowReuse = .ok ()
  prepared : (bindAndListen network host port).result = .ok ()

theorem Leaks.setUp_eq {failure : Failure} (leaks : Leaks network host port failure) :
    setUp network host port = .error failure := by
  cases leaks with
  | unguarded opens failed => rw [setUp, failed, error_bind]
  | passed opens allows failed _ => rw [setUp, allows, ok_bind, failed]

theorem Refused.setUp_eq {message : String} (refused : Refused network host port message) :
    setUp network host port = .error (.system message) := by
  rw [setUp, refused.allows, ok_bind, refused.failed]

/-- The ways in which opening a socket can go. -/
theorem opening_cases (network : Network) (host : String) (port : Operand Int) :
    (∃ failure, network.respond .openSocket = .error failure) ∨
      (∃ failure, Leaks network host port failure) ∨
      (∃ message, Refused network host port message) ∨ Opened network host port := by
  cases opens : network.respond .openSocket with
  | error failure => exact .inl ⟨failure, rfl⟩
  | ok _ =>
      apply Or.inr
      cases allows : network.respond .allowReuse with
      | error failure => exact .inl ⟨failure, .unguarded opens allows⟩
      | ok _ =>
          cases ended : (bindAndListen network host port).result with
          | ok _ => exact .inr (.inr ⟨opens, allows, ended⟩)
          | error failure =>
              by_cases refused : ∃ message, failure = .system message
              · obtain ⟨message, rfl⟩ := refused
                exact .inr (.inl ⟨message, opens, allows, ended⟩)
              · exact .inl ⟨failure, .passed opens allows ended (not_exists.mp refused)⟩

theorem openSocket_of_uncreated {failure : Failure}
    (failed : network.respond .openSocket = .error failure) :
    (openSocket network (.given host) port).result = .error failure ∧
      Leads network .unopened (openSocket network (.given host) port) .unopened := by
  constructor
  · rw [result_openSocket, failed, error_bind]
  · exact (leads_denied failed (.openSocket _)).bind_of_error failed

/-- The last step of opening a socket, in which a refusal of the system is guarded against. -/
def finishing (network : Network) (host : String) (port : Operand Int) : Reply Unit :=
  (bindAndListen network host port).andIfRefused (network.perform .close)

/-- Nothing is closed but on a refusal of the system. -/
theorem finishing_of_unrefused
    (unrefused : ∀ message, (bindAndListen network host port).result ≠ .error (.system message)) :
    finishing network host port = bindAndListen network host port :=
  Reply.andIfRefused_of_unrefused unrefused _

variable (host port) in
/-- Once there is a socket whose address can be used again, all is up to the last step. -/
theorem openSocket_of_allowed (opens : network.respond .openSocket = .ok ())
    (allows : network.respond .allowReuse = .ok ()) :
    (openSocket network (.given host) port).result = (finishing network host port).result ∧
      ∀ socket, Leads network .opened (finishing network host port) socket →
        Leads network .unopened (openSocket network (.given host) port) socket := by
  constructor
  · rw [result_openSocket, opens, ok_bind, allows, ok_bind, finishing]
  · intro socket leads
    apply (leads_granted opens (.openSocket _)).bind opens
    exact (leads_granted allows .allowReuse).bind allows leads

theorem openSocket_of_leaks {failure : Failure} (leaks : Leaks network host port failure) :
    (openSocket network (.given host) port).result = .error failure ∧
      ∃ socket, socket.isOpen = true ∧
        Leads network .unopened (openSocket network (.given host) port) socket := by
  cases leaks with
  | unguarded opens failed =>
      constructor
      · rw [result_openSocket, opens, ok_bind, failed, error_bind]
      · refine ⟨.opened, rfl, ?_⟩
        apply (leads_granted opens (.openSocket _)).bind opens
        exact (leads_denied failed .allowReuse).bind_of_error failed
  | passed opens allows failed unrefused =>
      obtain ⟨socket, prepared, leads⟩ := exists_prepared network host port
      obtain ⟨resultEq, leadsOn⟩ := openSocket_of_allowed host port opens allows
      have left : finishing network host port = bindAndListen network host port := by
        apply finishing_of_unrefused
        rw [failed]
        rintro message ⟨⟩
        exact unrefused message rfl
      rw [left, failed] at resultEq
      rw [left] at leadsOn
      rw [failed] at prepared
      cases prepared with
      | failed isOpen _ => exact ⟨resultEq, socket, isOpen, leadsOn socket leads⟩

theorem openSocket_of_refused {message : String} (refused : Refused network host port message) :
    (openSocket network (.given host) port).result =
        (network.respond .close >>= fun _ => .error (.system message)) ∧
      Leads network .unopened (openSocket network (.given host) port) (.closed false) := by
  obtain ⟨socket, prepared, leads⟩ := exists_prepared network host port
  obtain ⟨resultEq, leadsOn⟩ := openSocket_of_allowed host port refused.opens refused.allows
  have closes : finishing network host port =
      (bindAndListen network host port).andAlways (network.perform .close) :=
    Reply.andIfRefused_of_refused refused.failed _
  rw [closes] at resultEq leadsOn
  constructor
  · rw [resultEq, Reply.result_andAlways, refused.failed]
    rfl
  · rw [refused.failed] at prepared
    cases prepared with
    | failed isOpen serverless =>
        rw [← serverless]
        exact leadsOn _ (leads.andAlways (leads_close isOpen))

theorem openSocket_of_opened (opened : Opened network host port) :
    (openSocket network (.given host) port).result = .ok () ∧
      ∃ address, network.addressOf host port = .ok address ∧
        Leads network .unopened (openSocket network (.given host) port)
          (.listening address Default.backlog false) := by
  obtain ⟨socket, prepared, leads⟩ := exists_prepared network host port
  obtain ⟨resultEq, leadsOn⟩ := openSocket_of_allowed host port opened.opens opened.allows
  have left : finishing network host port = bindAndListen network host port := by
    apply finishing_of_unrefused
    rw [opened.prepared]
    nofun
  rw [left, opened.prepared] at resultEq
  rw [left] at leadsOn
  rw [opened.prepared] at prepared
  cases prepared with
  | listening found => exact ⟨resultEq, _, found, leadsOn _ leads⟩

/-- A socket is only handed out when all steps have succeeded. -/
theorem opened_of_ok (ended : (openSocket network (.given host) port).result = .ok ()) :
    Opened network host port := by
  rcases opening_cases network host port with
    ⟨failure, failed⟩ | ⟨failure, leaks⟩ | ⟨message, refused⟩ | opened
  · rw [(openSocket_of_uncreated failed).1] at ended
    cases ended
  · rw [(openSocket_of_leaks leaks).1] at ended
    cases ended
  · rw [(openSocket_of_refused refused).1] at ended
    obtain ⟨_, _, raised⟩ := bind_eq_ok_iff.mp ended
    cases raised
  · exact opened

/-- A host that cannot be encoded leaves the socket open. -/
theorem leaks_of_escapes (escapes : Escapes network host port) :
    Leaks network host port .hostName := by
  apply Leaks.passed escapes.opens escapes.allows
  · rw [result_bindAndListen, escapes.unencodable, error_bind]
  · nofun

variable (network host port) in
/-- A socket that was created and cannot be set up is closed once, and the failure is the one that
setting it up came to. -/
def Disposes : Prop :=
  ∀ failure, network.respond .openSocket = .ok () →
    (openSocket network (.given host) port).result = .error failure →
      (openSocket network (.given host) port).calls.count .close = 1 ∧
        setUp network host port = .error failure

theorem disposes_iff (closes : network.respond .close = .ok ()) :
    Disposes network host port ↔ ∀ failure, ¬ Leaks network host port failure := by
  constructor
  · intro disposes failure leaks
    have opens : network.respond .openSocket = .ok () := by
      cases leaks <;> assumption
    obtain ⟨ended, socket, isOpen, leads⟩ := openSocket_of_leaks leaks
    have closings := Follows.closings_eq leads
    rw [Socket.closings_of_isOpen isOpen, (disposes failure opens ended).1] at closings
    cases closings
  · intro kept failure opens ended
    rcases opening_cases network host port with
      ⟨unopened, failed⟩ | ⟨leaking, leaks⟩ | ⟨message, refused⟩ | opened
    · rw [opens] at failed
      cases failed
    · exact absurd leaks (kept leaking)
    · obtain ⟨result, leads⟩ := openSocket_of_refused refused
      rw [result, closes, ok_bind] at ended
      cases ended
      have closings := Follows.closings_eq leads
      exact ⟨(Nat.zero_add _ ▸ closings).symm, refused.setUp_eq⟩
    · rw [(openSocket_of_opened opened).1] at ended
      cases ended

/-! ## Serving on the socket -/

/-- What a service calls for after it has closed the socket: it answers requests if there is a
server and closing went well. -/
def answering (network : Network) : List Call :=
  if network.grants .buildServer && network.grants .close then [.answerRequests] else []

theorem calls_serve_of_error {failure : Failure}
    (failed : (openSocket network (.given host) port).result = .error failure)
    (hasHandler : Bool) :
    (serve network hasHandler (.given host) port).calls =
      (openSocket network (.given host) port).calls :=
  Reply.calls_bind_of_error failed _

theorem calls_serve_of_ok (ended : (openSocket network (.given host) port).result = .ok ())
    (hasHandler : Bool) :
    (serve network hasHandler (.given host) port).calls =
      (openSocket network (.given host) port).calls ++
        .buildServer hasHandler host port :: .close :: answering network := by
  have building : ((network.perform (.buildServer hasHandler host port)).andAlways
      (network.perform .close)).result =
        network.respond .close >>= fun _ => network.respond .buildServer :=
    Reply.result_andAlways _ _
  have built : ((network.perform (.buildServer hasHandler host port)).andAlways
      (network.perform .close)).calls = [.buildServer hasHandler host port, .close] :=
    Reply.calls_andAlways _ _
  rw [serve, Reply.calls_bind_of_ok ended]
  congr 1
  unfold answering Network.grants
  cases closes : network.respond .close with
  | error failure =>
      rw [closes, error_bind] at building
      rw [Operand.render_given, id, Reply.calls_bind_of_error building, built, Bool.and_comm]
      rfl
  | ok _ =>
      cases builds : network.respond .buildServer with
      | error failure =>
          rw [closes, ok_bind, builds] at building
          rw [Operand.render_given, id, Reply.calls_bind_of_error building, built]
          rfl
      | ok _ =>
          rw [closes, ok_bind, builds] at building
          rw [Operand.render_given, id, Reply.calls_bind_of_ok building, built]
          rfl

/-- On a socket that listens, the calls of a service lead to a closed one. -/
theorem follows_serving (network : Network) (address : Address) (backlog : Nat)
    (hasHandler : Bool) (host : String) (port : Operand Int) :
    Follows network (.listening address backlog false)
      (.buildServer hasHandler host port :: .close :: answering network)
      (.closed (network.grants .buildServer)) := by
  apply Follows.cons (.buildServer address backlog hasHandler host port)
  apply Follows.cons (.close rfl)
  change Follows network (.closed (network.grants .buildServer)) (answering network) _
  unfold answering
  cases network.grants .buildServer with
  | false => exact .nil _
  | true =>
      cases network.grants .close with
      | false => exact .nil _
      | true => exact .cons .answerRequests (.nil _)

/-- Every call of a service finds the socket in a condition for it. -/
theorem exists_leads_serve (network : Network) (hasHandler : Bool) (host : String)
    (port : Operand Int) :
    ∃ socket, Leads network .unopened (serve network hasHandler (.given host) port) socket := by
  unfold Leads
  cases ended : (openSocket network (.given host) port).result with
  | ok _ =>
      obtain ⟨address, _, leads⟩ := (openSocket_of_opened (opened_of_ok ended)).2
      rw [calls_serve_of_ok ended]
      exact ⟨_, Follows.append leads (follows_serving network address _ _ _ _)⟩
  | error failure =>
      rw [calls_serve_of_error ended]
      rcases opening_cases network host port with
        ⟨_, failed⟩ | ⟨_, leaks⟩ | ⟨_, refused⟩ | opened
      · exact ⟨_, (openSocket_of_uncreated failed).2⟩
      · obtain ⟨socket, _, leads⟩ := (openSocket_of_leaks leaks).2
        exact ⟨socket, leads⟩
      · exact ⟨_, (openSocket_of_refused refused).2⟩
      · obtain ⟨address, _, leads⟩ := (openSocket_of_opened opened).2
        exact ⟨_, leads⟩

/-- The law of the socket of a service. -/
structure CustodyLaw (network : Network) (hasHandler : Bool) (host : String)
    (port : Operand Int) : Prop where
  /-- Where there is no socket, there is nothing to close. -/
  uncreated : ∀ failure, network.respond .openSocket = .error failure →
    (openSocket network (.given host) port).result = .error failure ∧
      Leads network .unopened (openSocket network (.given host) port) .unopened
  /-- A socket that is handed out is open, has the address of the host and port, and listens with
  a backlog of 128. -/
  opened : (openSocket network (.given host) port).result = .ok () →
    ∃ address, network.addressOf host port = .ok address ∧
      Leads network .unopened (openSocket network (.given host) port)
        (.listening address 128 false)
  /-- A socket that the system refuses to set up is closed once, and the refusal stays the failure
  unless closing fails too. -/
  refused : ∀ message, Refused network host port message →
    (openSocket network (.given host) port).result =
        (network.respond .close >>= fun _ => .error (.system message)) ∧
      Leads network .unopened (openSocket network (.given host) port) (.closed false)
  /-- A socket that leaks is left open. -/
  leaked : ∀ failure, Leaks network host port failure →
    (openSocket network (.given host) port).result = .error failure ∧
      ∃ socket, socket.isOpen = true ∧
        Leads network .unopened (openSocket network (.given host) port) socket
  /-- No other socket is lost. -/
  disposes : network.respond .close = .ok () →
    (Disposes network host port ↔ ∀ failure, ¬ Leaks network host port failure)
  /-- A host that cannot be encoded makes the socket leak. -/
  escaped : Escapes network host port → Leaks network host port .hostName
  /-- A service closes the socket that it was handed once, whether or not a server can be built on
  it, and only then answers requests, if there is a server. -/
  served : (openSocket network (.given host) port).result = .ok () →
    (serve network hasHandler (.given host) port).calls.count .close = 1 ∧
      (serve network hasHandler (.given host) port).calls =
        (openSocket network (.given host) port).calls ++
          .buildServer hasHandler host port :: .close :: answering network
  /-- Every call finds the socket in a condition for it; in particular, none is closed twice. -/
  followed : ∃ socket,
    Leads network .unopened (serve network hasHandler (.given host) port) socket

/-- Every service on every network obeys the law: only the failures that are listed as leaks lose a
socket. -/
theorem serve_custody (network : Network) (hasHandler : Bool) (host : String)
    (port : Operand Int) : CustodyLaw network hasHandler host port := by
  constructor
  case uncreated => exact fun failure failed => openSocket_of_uncreated failed
  case opened => exact fun ended => (openSocket_of_opened (opened_of_ok ended)).2
  case refused => exact fun message refused => openSocket_of_refused refused
  case leaked => exact fun failure leaks => openSocket_of_leaks leaks
  case disposes => exact disposes_iff
  case escaped => exact leaks_of_escapes
  case served =>
    intro ended
    obtain ⟨address, _, leads⟩ := (openSocket_of_opened (opened_of_ok ended)).2
    have callsEq := calls_serve_of_ok ended hasHandler
    have follows :=
      Follows.append leads (follows_serving network address _ hasHandler host port)
    rw [← callsEq] at follows
    exact ⟨(Nat.zero_add _ ▸ follows.closings_eq).symm, callsEq⟩
  case followed => exact exists_leads_serve network hasHandler host port

/-- The network on which no address can be used again. -/
def unsharing : Network where
  respond
    | .allowReuse => .error (.system "[Errno 92] Protocol not available")
    | _ => .ok ()
  addressOf := (Resolver.ofTable [] "/").addressOf

/-- On this network the system refuses something, and all the same the socket is not closed. -/
theorem not_disposes_unsharing : ¬ Disposes unsharing "127.0.0.1" (.given 8080) := by
  intro disposes
  have leaks : Leaks unsharing "127.0.0.1" (.given 8080)
      (.system "[Errno 92] Protocol not available") := .unguarded rfl rfl
  exact (disposes_iff rfl).mp disposes _ leaks

end Listener

end ProxyLauncher
