import Turnstile.Http.Message
import Turnstile.Text.Blank

/-!
# Calls from other origins

A browser asks before it lets a page of another origin call.

**Asking.**  A request with the method `OPTIONS` that names an origin and a method is
answered at once: whether the origin, the method and all headers are admitted.

**Calling.**  An answer to a page of an admitted origin says so in a header.
-/

namespace Turnstile.Http

/-- The origins whose pages may call; `*` stands for all. -/
structure Cors where
  origins : List String

namespace Cors

/-- The header that names the page's origin. -/
def originName : String := "origin"

/-- The header that names the method that the page means to use. -/
def methodName : String := "access-control-request-method"

/-- The header that names the headers that the page means to send. -/
def headersName : String := "access-control-request-headers"

/-- The header that admits an origin. -/
def allowOriginName : String := "access-control-allow-origin"

/-- All origins. -/
def everyOrigin : String := "*"

/-- The methods that pages may use. -/
def methods : List String := ["GET", "POST", "OPTIONS"]

/-- The headers that pages may send. -/
def headers : List String :=
  ["Accept", "Accept-Language", "Authorization", "Content-Language", "Content-Type",
    "X-Requested-With"]

/-- The seconds for which a browser may keep the answer. -/
def keptSeconds : Nat := 86400

/-- All origins are admitted. -/
def admitsAll (c : Cors) : Bool := c.origins.contains everyOrigin

/-- An origin is admitted. -/
def admits (c : Cors) (origin : String) : Bool := c.admitsAll || c.origins.contains origin

/-- A header may be sent. -/
def admitsHeader (name : String) : Bool :=
  headers.any fun h => Text.lower h == Text.trim (Text.lower name)

/-- All headers of a list between commas may be sent. -/
def admitsHeaders (names : String) : Bool :=
  (Text.pieces ',' names.toList).all fun name => admitsHeader (String.ofList name)

/-- What is not admitted of an origin, a method and headers. -/
def refusals (c : Cors) (origin method : String) (names : Option String) : List String :=
  (if c.admits origin then [] else ["origin"])
    ++ (if methods.contains method then [] else ["method"])
    ++ (if names.all admitsHeaders then [] else ["headers"])

/-- The headers that admit an origin before a call. -/
def originHeaders (c : Cors) (origin : String) : Members String :=
  if c.admitsAll then [(allowOriginName, everyOrigin)]
  else if c.admits origin then [(allowOriginName, origin)]
  else []

/-- What a page may do, in headers. -/
def permissions : Members String :=
  [("access-control-allow-methods", Text.joined ", " methods),
    ("access-control-allow-headers", Text.joined ", " headers),
    ("access-control-max-age", toString keptSeconds)]

/-- The answer to a browser that asks before a call. -/
def permit (c : Cors) (origin method : String) (names : Option String) : Answer :=
  let refused := c.refusals origin method names
  let (status, text) :=
    if refused.isEmpty then (200, "OK") else (400, "Disallowed CORS " ++ Text.joined ", " refused)
  ⟨status, c.originHeaders origin ++ permissions, .text text⟩

/-- The answer to a browser that asks before a call; none to any other request. -/
def preflight? (c : Cors) (r : Request) : Option Answer :=
  if r.method = "OPTIONS" then do
    let origin ← r.header? originName
    let method ← r.header? methodName
    return c.permit origin method (r.header? headersName)
  else none

/-- The origin that an answer admits: all of them by name only if a cookie was sent. -/
def admitted? (c : Cors) (origin : String) (hasCookie : Bool) : Option String :=
  if c.admitsAll then some (if hasCookie then origin else everyOrigin)
  else if c.admits origin then some origin
  else none

/-- Marks the answer to a page of an admitted origin. -/
def mark (c : Cors) (r : Request) (a : Answer) : Answer :=
  match (r.header? originName).bind fun o => c.admitted? o (r.header? "cookie").isSome with
  | some admitted => a.withHeader allowOriginName admitted
  | none => a

end Cors

end Turnstile.Http
