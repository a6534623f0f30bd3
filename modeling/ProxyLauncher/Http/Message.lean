import ProxyLauncher.Text.Utf8

/-!
# Requests and responses

A request is a method, a decoded path and a query. A response is a status, some
headers and a body; every response states the length and the type of its body,
also where the body itself is held back because only the headers were asked for.
-/

namespace ProxyLauncher.Http

/-- A request. -/
structure Request where
  method : String := "GET"
  path : String
  query : String := ""
  deriving DecidableEq, Repr

/-- How a request was answered. -/
inductive Status where
  | ok
  | permanentRedirect
  | notFound
  | methodNotAllowed
  deriving DecidableEq, Repr

/-- The number and the phrase of a status. -/
def Status.line : Status → String
  | .ok => "200 OK"
  | .permanentRedirect => "308 PERMANENT REDIRECT"
  | .notFound => "404 NOT FOUND"
  | .methodNotAllowed => "405 METHOD NOT ALLOWED"

/-- A response. -/
structure Response where
  status : Status
  headers : List (String × String)
  body : String
  deriving DecidableEq, Repr

/-- The type of pages. -/
def pageType : String := "text/html; charset=utf-8"

/-- The type of structured answers. -/
def structuredType : String := "application/json"

namespace Response

/-- The header with the length of a body. -/
def lengthHeader (body : String) : String × String :=
  ("Content-Length", toString (Text.encodeUtf8 body).length)

/-- A response with a body of some type and further headers. -/
def ofBody (status : Status) (bodyType : String) (body : String)
    (further : List (String × String) := []) : Response :=
  ⟨status, ("Content-Type", bodyType) :: lengthHeader body :: further, body⟩

/-- What is sent for a method: for a request for the headers, nothing but them. -/
def forMethod (response : Response) (method : String) : Response :=
  if method = "HEAD" then { response with body := "" } else response

end Response

end ProxyLauncher.Http
