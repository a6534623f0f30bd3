import ProxyLauncher.Handler.Basic
import ProxyLauncher.Http.Json
import ProxyLauncher.Http.Page
import ProxyLauncher.Http.Route

/-!
# Answering requests

The health report tells the timeout and the number of sessions. There are no
static files, so a request for one finds nothing. A request never changes the
handler; only its timeout can be replaced between requests.
-/

namespace ProxyLauncher.Handler

open Http

/-- A timeout in the health report. -/
def timeoutJson : Operand Number.Binary64 → Json
  | .given timeout => .binary timeout
  | .dropped => .emptyList

/-- The health report, its fields in alphabetical order. -/
def healthReport (handler : Handler) : Json :=
  .object
    [("cache_size", .integer handler.cacheSize),
     ("status", .text "ok"),
     ("timeout", timeoutJson handler.timeout),
     ("tls", .boolean false)]

/-- The response with the health report. -/
def healthResponse (handler : Handler) : Response :=
  .ofBody .ok structuredType (handler.healthReport.render ++ "\n")

/-- What a resource answers. -/
def answerResource (handler : Handler) (method : String) (resource : Resource) : Response :=
  if method.toUpper = "OPTIONS" then Page.options allowedMethods
  else
    match resource with
    | .health => handler.healthResponse
    | .file _ => Page.notFound

/-- Answers a request. -/
def answer (handler : Handler) (request : Request) : Response :=
  let response :=
    match Destination.ofRequest request.method request.path with
    | .found resource => handler.answerResource request.method resource
    | .moved path => Page.moved path request.query
    | .methodNotAllowed => Page.methodNotAllowed allowedMethods
    | .nowhere => Page.notFound
  response.forMethod request.method

/-! ## Use over time -/

/-- What happens to a handler in use. -/
inductive Use where
  | request (request : Request)
  | setTimeout (timeout : Number.Binary64)

/-- The handler after a use, and the response if there is one. -/
def use (handler : Handler) : Use → Handler × Option Response
  | .request request => (handler, some (handler.answer request))
  | .setTimeout timeout => (handler.withTimeout (.given timeout), none)

/-- The responses to a sequence of uses. -/
def useAll : Handler → List Use → List (Option Response)
  | _, [] => []
  | handler, first :: rest => (handler.use first).2 :: useAll (handler.use first).1 rest

end ProxyLauncher.Handler
