import Turnstile.Visit.Request
import Turnstile.Visit.Headers
import Turnstile.Visit.Agent
import Turnstile.Visit.Cookies
import Turnstile.Net.Url
import Turnstile.Intel.Traits
import Turnstile.Rule.Signal

/-!
# Contexts

Everything that conditions can look at, in three layers: what the server observed, what
the client reported, and the client's fingerprint.  Named conditions read the server's
signals alone; in the flat view the client's fields shadow them.
-/

namespace Turnstile

/-- What the server observed of a visit. -/
structure Observed where
  method : String
  path : String
  referrer : String
  userAgent : String
  agent : Agent
  headers : Members String
  cookies : Members String
  query : Members Json
  post : Members Json
  address : String
  record : Record

/-- Everything that conditions can look at. -/
structure Context where
  server : Observed
  client : Members Json

namespace Observed

/-- What the record tells conditions. -/
def traits (o : Observed) : Traits := Traits.ofRecord o.record

/-- The country of the visitor's address. -/
def country (o : Observed) : String := o.traits.country o.address

/-- A text as a signal. -/
def textSignal (s : String) : Rule.Signal := .value (.string s)

/-- A flag as a signal. -/
def flagSignal (b : Bool) : Rule.Signal := .value (.bool b)

/-- Texts by name as values. -/
def valuesOf (texts : Members String) : Members Json := texts.map fun (k, v) => (k, .string v)

/-- The signals of the server by name, in order. -/
def signals (o : Observed) : Members Rule.Signal :=
  [("method", textSignal o.method),
    ("path", textSignal o.path),
    ("referrer", textSignal o.referrer),
    ("user_agent", textSignal o.userAgent),
    ("browser", textSignal o.agent.browser),
    ("os", textSignal o.agent.system),
    ("is_bot", flagSignal o.agent.isRobot),
    ("headers", .view (valuesOf o.headers)),
    ("cookies", .view (valuesOf o.cookies)),
    ("query_params", .view o.query),
    ("post_params", .view o.post),
    ("ip", textSignal o.address),
    ("country", textSignal (Traits.shownText o.record.country)),
    ("country_code", textSignal (Traits.shownText o.record.countryCode)),
    ("org", textSignal (Traits.shownText o.record.org)),
    ("isp", textSignal (Traits.shownText o.record.isp)),
    ("proxy", flagSignal (o.record.proxy.getD false)),
    ("hosting", flagSignal (o.record.hosting.getD false)),
    ("ip_hostname", textSignal (Traits.shownText o.record.reverse)),
    ("ip_country", textSignal o.country),
    ("proxy_ip", textSignal o.traits.hiddenText),
    ("vpn_name", textSignal o.traits.networkName)]

/-- The value of a header, under any spelling of its name. -/
def header (o : Observed) (name : String) : String :=
  (o.headers.get? (Headers.normalName name)).getD ""

end Observed

namespace Context

/-- The member of the client's data that holds the fingerprint. -/
def fingerprintName : String := "fp_initial"

/-- The client's fields: its members, and those of its fingerprint laid over them. -/
def clientFields (report : Members Json) : Members Json :=
  let fields := Members.erase report fingerprintName
  match Members.get? report fingerprintName with
  | some (.object fingerprint) => Members.overlay fields fingerprint
  | _ => fields

/-- The address of the page as the client reports it. -/
def pageUrl (report : Members Json) : String :=
  match Members.get? report "url" with
  | some v => if v.isTruthy then v.display else ""
  | none => ""

/-- The query parameters: of the page's address if there is one, else those reported. -/
def queryOf (page : String) (reported : Members Json) : Members Json :=
  if page = "" then reported else Observed.valuesOf (Url.parameters page)

/-- The cookies: those reported if there are any, else those of the cookie header. -/
def cookiesOf (reported headers : Members String) : Members String :=
  if reported.isEmpty then
    match headers.get? "cookie" with
    | some header => Cookies.ofHeader header
    | none => []
  else reported

/-- The first of two texts that is not empty. -/
def firstText (a b : String) : String := if a = "" then b else a

/-- The text under a header's compared name. -/
def headerText (headers : Members String) (name : String) : String :=
  (headers.get? name).getD ""

/-- What the server observes, given the visitor's address and its record. -/
def observe (request : Request) (page address : String) (record : Record) : Observed :=
  let headers := Headers.normalizeTexts request.headers
  let userAgent := firstText request.userAgent (headerText headers "user-agent")
  { method := Text.upper (firstText request.method "GET")
    path := String.ofList (Text.cut '?' request.path.toList).1
    referrer := firstText request.referrer (headerText headers "referer")
    userAgent
    agent := Agent.ofText userAgent
    headers
    cookies := cookiesOf request.cookies headers
    query := queryOf page request.query
    post := request.post
    address
    record }

/-- The context of a visit, given the visitor's address, its record and the client's report. -/
def assemble (request : Request) (address : String) (record : Record) (report : Members Json) :
    Context where
  server := observe request (pageUrl report) address record
  client := clientFields report

/-- The client's report: the one given beside a request, else the request's own. -/
def reportOf (given : Json) (request : Request) : Members Json :=
  match given with
  | .null => request.client.getD []
  | .object ms => ms
  | _ => []

/-- The context of a request, whose report is the client's. -/
def ofRequest (request : Request) (address : String) (record : Record) : Context :=
  assemble request address record (request.client.getD [])

/-- The address of the visitor of a request. -/
def addressOf (request : Request) : String :=
  Headers.clientAddress (Headers.normalizeTexts request.headers) request.remoteAddress

/-- The record of an address of which nothing is known. -/
def unknownRecord (address : String) : Record := Record.fallback address none

/-- All signals by name: the server's, and the client's fields laid over them. -/
def flat (c : Context) : Members Rule.Signal :=
  Members.overlay c.server.signals (c.client.map fun (k, v) => (k, .value v))

end Context

end Turnstile
