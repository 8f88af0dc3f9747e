import Turnstile.Schema.Checked

/-!
# Requests

What a caller reports of a visit: attributes of the visited page's request, and what
the visitor's browser says of itself.
-/

namespace Turnstile

/-- The attributes of a visit. -/
structure Request where
  method : String
  path : String
  referrer : String
  userAgent : String
  headers : Members String
  cookies : Members String
  query : Members Json
  post : Members Json
  /-- The address of the socket peer. -/
  remoteAddress : String
  /-- What the browser reports, if anything. -/
  client : Option (Members Json)

namespace Request

/-- Checks the members of a request. -/
def check (ms : Members Json) : Checked Request := do
  let method ← Checked.field ms ["method"] "GET" Checked.text
  let path ← Checked.field ms ["path"] "" Checked.text
  let referrer ← Checked.field ms ["referrer"] "" Checked.text
  let userAgent ← Checked.field ms ["userAgent", "user_agent"] "" Checked.text
  let headers ← Checked.field ms ["headers"] [] Checked.textsByName
  let cookies ← Checked.field ms ["cookies"] [] Checked.textsByName
  let query ← Checked.field ms ["queryParams", "query_params"] [] Checked.members
  let post ← Checked.field ms ["postParams", "post_params"] [] Checked.members
  let remoteAddress ← Checked.field ms ["remoteIp", "remote_ip"] "" Checked.text
  let client ← Checked.field ms ["clientMeta", "client_meta"] none Checked.optionalMembers
  return { method, path, referrer, userAgent, headers, cookies, query, post, remoteAddress, client }

/-- Reads a request. -/
def decode : Json → Except (List Flaw) Request
  | .object ms => (check ms).result
  | _ => .error [⟨[], .notRecord⟩]

end Request

end Turnstile
