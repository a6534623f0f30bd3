import ProxyLauncher.Handler.Answer
import ProxyLauncher.Proofs.Http.Reading

/-!
# The health report over time

A handler is used by requests and by settings of its timeout, in any order.  No
request changes it, so at every point it holds the timeout that was set last,
and the number of sessions that it was built with.  The health report tells just
these two, in a text that reads back to them.

It follows that a request has no influence on later answers: deleting requests
from a sequence of uses leaves all other answers as they are.
-/

namespace ProxyLauncher.Handler

open Http Number

/-! ## A handler in use -/

/-- The timeout that a use sets, if it sets one. -/
def Use.timeout? : Use → Option Binary64
  | .request _ => none
  | .setTimeout timeout => some timeout

/-- The timeout that was set last, given the one before all uses. -/
def lastTimeout (before : Binary64) (uses : List Use) : Binary64 :=
  (uses.filterMap Use.timeout?).getLastD before

/-- The handler after a sequence of uses. -/
def useThrough (handler : Handler) (uses : List Use) : Handler :=
  uses.foldl (fun handler next => (handler.use next).1) handler

theorem use_request (handler : Handler) (request : Request) :
    handler.use (.request request) = (handler, some (handler.answer request)) :=
  rfl

theorem useAll_append (handler : Handler) (earlier later : List Use) :
    useAll handler (earlier ++ later) =
      useAll handler earlier ++ useAll (handler.useThrough earlier) later := by
  induction earlier generalizing handler with
  | nil => rfl
  | cons first rest ih => simp [useAll, useThrough, ih]

theorem length_useAll (handler : Handler) (uses : List Use) :
    (useAll handler uses).length = uses.length := by
  induction uses generalizing handler with
  | nil => rfl
  | cons first rest ih => simp [useAll, ih]

theorem lastTimeout_cons (before : Binary64) (first : Use) (rest : List Use) :
    lastTimeout before (first :: rest) = lastTimeout (first.timeout?.getD before) rest := by
  cases first with
  | request request => rfl
  | setTimeout timeout =>
      simp only [lastTimeout, List.filterMap_cons, Use.timeout?]
      cases rest.filterMap Use.timeout? <;> rfl

/-- Whatever the uses, only the timeout changes, and it is the one that was set last. -/
theorem useThrough_eq {handler : Handler} {before : Binary64}
    (held : handler.timeout = .given before) (uses : List Use) :
    handler.useThrough uses = handler.withTimeout (.given (lastTimeout before uses)) := by
  induction uses generalizing handler before with
  | nil =>
      rw [withTimeout, lastTimeout]
      simp [useThrough, ← held]
  | cons first rest ih =>
      rw [lastTimeout_cons]
      cases first with
      | request request => exact ih held
      | setTimeout timeout =>
          have later := @ih (handler.withTimeout (.given timeout)) timeout rfl
          exact later

/-! ## The report -/

/-- A request for the health report. -/
structure AsksHealth (request : Request) : Prop where
  method : request.method = "GET"
  path : request.path = "/health"

theorem answer_health {request : Request} (asks : AsksHealth request) (handler : Handler) :
    handler.answer request = handler.healthResponse := by
  rcases request with ⟨method, path, query⟩
  rcases asks with ⟨rfl, rfl⟩
  have found : Destination.ofRequest "GET" "/health" = .found .health := by decide +kernel
  have upper : "GET".toUpper ≠ "OPTIONS" := by decide +kernel
  simp [answer, found, answerResource, upper, Response.forMethod]

/-- A response reports a number of sessions and a timeout, and nothing else. -/
structure Reports (cacheSize : Int) (timeout : Binary64) (response : Response) : Prop where
  status : response.status = .ok
  type : ("Content-Type", "application/json") ∈ response.headers
  body : Json.object? response.body.toList =
    some [("cache_size", .integer cacheSize), ("status", .text "ok"),
      ("timeout", .binary timeout), ("tls", .boolean false)]

theorem reports_healthResponse {handler : Handler} {timeout : Binary64}
    (short : Decimal.digitCount handler.cacheSize.natAbs ≤ Integer.digitLimit)
    (held : handler.timeout = .given timeout) (canonical : timeout.Canonical)
    (finite : timeout.isFinite = true) :
    Reports handler.cacheSize timeout handler.healthResponse where
  status := rfl
  type := List.mem_cons_self
  body := by
    have report : handler.healthReport =
        .object [("cache_size", .integer handler.cacheSize), ("status", .text "ok"),
          ("timeout", .binary timeout), ("tls", .boolean false)] := by
      rw [healthReport, held]
      rfl
    change Json.object? (handler.healthReport.render ++ "\n").toList = _
    rw [report]
    apply Json.object?_render
    simp only [List.forall_mem_cons, List.not_mem_nil, false_imp_iff, implies_true, and_true]
    exact ⟨.of_all (by decide) (.integer short),
      .of_all (by decide) (.text (Json.plain_of_all (by decide))),
      .of_all (by decide) (.binary canonical finite), .of_all (by decide) (.boolean false)⟩

/-! ## Answers over time -/

/-- The uses of a handler, each with the response to it if there is one. -/
def answered (handler : Handler) (uses : List Use) : List (Use × Option Response) :=
  uses.zip (useAll handler uses)

/-- Some requests are deleted, each with its response. -/
inductive Thinned : List (Use × Option Response) → List (Use × Option Response) → Prop
  | nil : Thinned [] []
  | kept (entry : Use × Option Response) {entries remaining : List (Use × Option Response)}
      (thinned : Thinned entries remaining) : Thinned (entry :: entries) (entry :: remaining)
  | deleted (request : Request) (response : Option Response)
      {entries remaining : List (Use × Option Response)} (thinned : Thinned entries remaining) :
      Thinned ((.request request, response) :: entries) remaining

theorem answered_cons (handler : Handler) (first : Use) (rest : List Use) :
    answered handler (first :: rest) =
      (first, (handler.use first).2) :: answered (handler.use first).1 rest :=
  rfl

/-- What remains when requests are deleted is answered as before. -/
theorem eq_answered_of_thinned {handler : Handler} {uses : List Use}
    {remaining : List (Use × Option Response)}
    (thinned : Thinned (answered handler uses) remaining) :
    remaining = answered handler (remaining.map Prod.fst) := by
  induction uses generalizing handler remaining with
  | nil =>
      cases thinned with
      | nil => rfl
  | cons first rest ih =>
      rw [answered_cons] at thinned
      cases thinned with
      | @kept _ _ others thinned =>
          rw [List.map_cons, answered_cons]
          exact congrArg _ (ih thinned)
      | deleted request response thinned => exact ih thinned

/-- What holds of a handler while it is in use, given the number of sessions and the timeout that it
started with. -/
structure Steady (cacheSize : Int) (before : Binary64) (handler : Handler) (uses : List Use) :
    Prop where
  /-- Each request for the health report is answered by a report of the number of sessions and of
  the timeout that was set last. -/
  reports : ∀ earlier request later, uses = earlier ++ .request request :: later →
    AsksHealth request →
      ∃ response,
        (answered handler uses)[earlier.length]? = some (.request request, some response) ∧
          Reports cacheSize (lastTimeout before earlier) response
  /-- A request changes nothing. -/
  unchanged : ∀ earlier request later, uses = earlier ++ .request request :: later →
    handler.useThrough (earlier ++ [.request request]) = handler.useThrough earlier
  /-- At every point the handler holds the number of sessions and the timeout that was set last. -/
  held : ∀ earlier later, uses = earlier ++ later →
    (handler.useThrough earlier).cacheSize = cacheSize ∧
      (handler.useThrough earlier).timeout = .given (lastTimeout before earlier)
  /-- When requests are deleted, the uses that remain are answered as before. -/
  thinned : ∀ remaining, Thinned (answered handler uses) remaining →
    remaining = answered handler (remaining.map Prod.fst)

theorem lastTimeout_mem (before : Binary64) (uses : List Use) :
    lastTimeout before uses = before ∨ .setTimeout (lastTimeout before uses) ∈ uses := by
  induction uses generalizing before with
  | nil => exact .inl rfl
  | cons first rest ih =>
      rw [lastTimeout_cons]
      rcases ih (first.timeout?.getD before) with unset | set
      · rw [unset]
        cases first with
        | request request => exact .inl rfl
        | setTimeout timeout => exact .inr List.mem_cons_self
      · exact .inr (List.mem_cons_of_mem first set)

theorem answered_append (handler : Handler) (earlier later : List Use) :
    answered handler (earlier ++ later) =
      answered handler earlier ++ answered (handler.useThrough earlier) later := by
  rw [answered, useAll_append, List.zip_append (length_useAll handler earlier).symm]
  rfl

theorem length_answered (handler : Handler) (uses : List Use) :
    (answered handler uses).length = uses.length := by
  rw [answered, List.length_zip, length_useAll, Nat.min_self]

theorem steady_of_held {handler : Handler} {before : Binary64}
    (short : Decimal.digitCount handler.cacheSize.natAbs ≤ Integer.digitLimit)
    (held : handler.timeout = .given before) (canonical : before.Canonical)
    (finite : before.isFinite = true) {uses : List Use}
    (usable : ∀ timeout, .setTimeout timeout ∈ uses →
      timeout.Canonical ∧ timeout.isFinite = true) :
    Steady handler.cacheSize before handler uses := by
  have through := useThrough_eq held
  constructor
  case reports =>
    rintro earlier request later rfl asks
    have lastUsable : (lastTimeout before earlier).Canonical ∧
        (lastTimeout before earlier).isFinite = true := by
      rcases lastTimeout_mem before earlier with unset | set
      · rw [unset]
        exact ⟨canonical, finite⟩
      · exact usable _ (List.mem_append_left _ set)
    refine ⟨(handler.useThrough earlier).healthResponse, ?_, ?_⟩
    · rw [answered_append, List.getElem?_append_right (length_answered handler earlier).le,
        length_answered, Nat.sub_self, answered_cons, use_request, answer_health asks]
      rfl
    · rw [through earlier]
      exact @reports_healthResponse (handler.withTimeout (.given (lastTimeout before earlier)))
        (lastTimeout before earlier) short rfl lastUsable.1 lastUsable.2
  case unchanged =>
    intro earlier request later _
    rw [useThrough, List.foldl_append]
    rfl
  case held =>
    intro earlier later _
    rw [through earlier]
    exact ⟨rfl, rfl⟩
  case thinned =>
    intro remaining thinned
    exact eq_answered_of_thinned thinned

/-- A handler that is built from a key for commands and a positive number of sessions reports its
health rightly, whatever the uses. -/
theorem build_steady {material : Key.Material} {cacheSize : Int}
    (forCommands : material.isCommandKey = true) (positive : 0 < cacheSize)
    (short : Decimal.digitCount cacheSize.natAbs ≤ Integer.digitLimit) :
    ∃ handler, build (some material) cacheSize = .ok handler ∧
      ∀ uses, (∀ timeout, .setTimeout timeout ∈ uses →
        timeout.Canonical ∧ timeout.isFinite = true) →
          Steady cacheSize Default.timeout handler uses := by
  have defaultEq : Default.timeout = .finite false 5629499534213120 (-49) := by decide +kernel
  have canonical : Default.timeout.Canonical := by
    rw [defaultEq]
    exact ⟨by decide, by decide, by decide, .inl (by decide)⟩
  have finite : Default.timeout.isFinite = true := by
    rw [defaultEq]
    rfl
  let handler : Handler := { key := material, cacheSize := cacheSize }
  have built : build (some material) cacheSize = .ok handler := by
    simp [build, forCommands, handler]
    omega
  refine ⟨handler, built, ?_⟩
  intro uses usable
  exact @steady_of_held handler Default.timeout short rfl canonical finite uses usable

/-- Two reports with a request for nothing and two settings between them, the last one to the
smallest number above zero. -/
def mixedUses : List Use :=
  [.request { path := "/health" }, .setTimeout (.finite false 5902958103587057 (-69)),
    .request { path := "/nowhere" }, .setTimeout (.finite false 1 (-1074)),
    .request { path := "/health" }]

theorem build_steady_mixed :
    (Key.Material.elliptic .secp256r1 1).isCommandKey = true ∧
      (0 : Int) < 100000000000000000000 ∧
      Decimal.digitCount (100000000000000000000 : Int).natAbs ≤ Integer.digitLimit ∧
      (∀ timeout, .setTimeout timeout ∈ mixedUses →
        timeout.Canonical ∧ timeout.isFinite = true) ∧
      ∃ handler,
        build (some (.elliptic .secp256r1 1)) 100000000000000000000 = .ok handler ∧
          Steady 100000000000000000000 Default.timeout handler mixedUses := by
  have forCommands : (Key.Material.elliptic .secp256r1 1).isCommandKey = true := by decide
  have positive : (0 : Int) < 100000000000000000000 := by decide
  have short : Decimal.digitCount (100000000000000000000 : Int).natAbs ≤ Integer.digitLimit := by
    decide
  have usable : ∀ timeout, .setTimeout timeout ∈ mixedUses →
      timeout.Canonical ∧ timeout.isFinite = true := by
    intro timeout member
    simp only [mixedUses, List.mem_cons, Use.setTimeout.injEq, reduceCtorEq, List.not_mem_nil,
      or_false, false_or] at member
    rcases member with rfl | rfl
    · exact ⟨⟨by decide, by decide, by decide, .inl (by decide)⟩, rfl⟩
    · exact ⟨⟨by decide, by decide, by decide, .inr rfl⟩, rfl⟩
  obtain ⟨handler, built, steady⟩ := build_steady forCommands positive short
  exact ⟨forCommands, positive, short, usable, handler, built, steady mixedUses usable⟩

/-- The text of a report. -/
example :
    (answer ⟨.elliptic .secp256r1 1, 50, .given (.finite false 5902958103587057 (-69))⟩
        { path := "/health" }).body =
      "\x7b\"cache_size\":50,\"status\":\"ok\",\"timeout\":1e-05,\"tls\":false\x7d\n" := by
  decide +kernel

end ProxyLauncher.Handler
