import ProxyLauncher.Http.Message
import ProxyLauncher.Http.Percent

/-!
# Standard pages

The pages that answer a request for something that is not there, that does not
take the method, or that has moved.
-/

namespace ProxyLauncher.Http.Page

/-- A character within markup. -/
def escapedCharacter (character : Char) : List Char :=
  match character with
  | '&' => "&amp;".toList
  | '<' => "&lt;".toList
  | '>' => "&gt;".toList
  | '"' => "&#34;".toList
  | '\x27' => "&#39;".toList
  | other => [other]

/-- A text within markup. -/
def escaped (text : String) : String :=
  String.ofList (text.toList.flatMap escapedCharacter)

/-- A page with a title, a heading and a paragraph that need not be closed. -/
def layout (title heading paragraph : String) : String :=
  "<!doctype html>\n<html lang=en>\n<title>" ++ title ++ "</title>\n<h1>" ++ heading ++
    "</h1>\n<p>" ++ paragraph ++ "\n"

/-- The answer to a request for something that is not there. -/
def notFound : Response :=
  .ofBody .notFound pageType (layout "404 Not Found" "Not Found"
    ("The requested URL was not found on the server. If you entered the URL manually please " ++
      "check your spelling and try again.</p>"))

/-- The header with the methods that are taken. -/
def allowHeader (methods : List String) : String × String :=
  ("Allow", ", ".intercalate methods)

/-- The answer to a method that is not taken. -/
def methodNotAllowed (methods : List String) : Response :=
  .ofBody .methodNotAllowed pageType (layout "405 Method Not Allowed" "Method Not Allowed"
    "The method is not allowed for the requested URL.</p>") [allowHeader methods]

/-- The answer to a question for the methods that are taken. -/
def options (methods : List String) : Response :=
  .ofBody .ok pageType "" [allowHeader methods]

/-! ## Moved pages -/

/-- The characters that divide a text into words. -/
def dividesWords (character : Char) : Bool :=
  character = ' ' || (9 ≤ character.toNat && character.toNat ≤ 13) ||
    (28 ≤ character.toNat && character.toNat ≤ 31)

/-- A query that may stand in a header as it is: plain ASCII without a blank inside. -/
def isPlainQuery (query : List Char) : Bool :=
  query.all (fun character => character.toNat < 0x80) &&
    !((query.reverse.dropWhile dividesWords).any dividesWords)

/-- The query as it stands in a header. -/
def headerQuery (query : String) : String :=
  if isPlainQuery query.toList then query
  else String.ofList (Percent.encode Percent.queryMarks query.toList)

/-- The address of a path, with a query unless that is empty. -/
def address (path query : String) : String :=
  "http://localhost" ++ path ++ if query = "" then "" else "?" ++ query

/-- The answer to a request for something that is found under another path. -/
def moved (path : List Char) (query : String) : Response :=
  let encoded := String.ofList (Percent.encode Percent.pathMarks path)
  let shown := escaped (address encoded query)
  .ofBody .permanentRedirect pageType (layout "Redirecting..." "Redirecting..."
    ("You should be redirected automatically to the target URL: <a href=\"" ++ shown ++ "\">" ++
      shown ++ "</a>. If not, click the link."))
    [("Location", address encoded (headerQuery query))]

end ProxyLauncher.Http.Page
