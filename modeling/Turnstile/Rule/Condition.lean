import Turnstile.Rule.Matching
import Turnstile.Visit.Context

/-!
# Conditions

A condition is a key with an expectation.  Sixteen keys are named conditions, which look
at what the server observed; any other key is looked up in the flat view of the context,
and a key that is not there holds.
-/

namespace Turnstile.Rule

/-- The conditions that have a meaning of their own. -/
inductive NamedCondition where
  | method | query | post | address | hostName | country | proxy | networkName
  | referrer | userAgent | browser | system | path | cookie | header | clickMark
  deriving DecidableEq, Repr

namespace NamedCondition

/-- The named conditions in the order in which they are listed. -/
def all : List NamedCondition :=
  [.method, .query, .post, .address, .hostName, .country, .proxy, .networkName, .referrer,
    .userAgent, .browser, .system, .path, .cookie, .header, .clickMark]

/-- The key of a named condition. -/
def key : NamedCondition → String
  | .method => "http_method"
  | .query => "query_params"
  | .post => "post_params"
  | .address => "ip"
  | .hostName => "ip_hostname"
  | .country => "ip_country"
  | .proxy => "proxy_ip"
  | .networkName => "vpn_name"
  | .referrer => "referrer_contains"
  | .userAgent => "ua_contains"
  | .browser => "browser"
  | .system => "os"
  | .path => "path_regex"
  | .cookie => "cookie_has"
  | .header => "header_has"
  | .clickMark => "gclid_fresh"

/-- The named condition with a key. -/
def ofKey? (key : String) : Option NamedCondition := all.find? (·.key == key)

end NamedCondition

/-- An expectation holds for a text. -/
def Expectation.matchesText (e : Expectation) (text : String) : Except Fault Bool :=
  e.matches (.value (.string text))

/-- Each parameter meets its comparison; a missing one counts as null. -/
def paramsHold (params : Members Json) : Members Comparison → Except Fault Bool
  | [] => .ok true
  | (name, expected) :: rest => do
    if ← expected.matches (.value ((params.get? name).getD .null)) then paramsHold params rest
    else return false

/-- The parameters meet an expectation of parameters; no other expectation is met. -/
def paramsMatch (e : Expectation) (params : Members Json) : Except Fault Bool :=
  match e with
  | .parameters expected => paramsHold params expected
  | _ => .ok false

/-- The text that an expectation looks for. -/
def Expectation.needle (e : Expectation) : String := comparisonText e.operand

/-- The referrer meets an operator, or holds a text. -/
def referrerMatches (e : Expectation) (referrer : String) : Except Fault Bool :=
  match e with
  | .comparison (.operator name operand) =>
    (Comparison.operator name operand).matches (.value (.string referrer))
  | _ => .ok (holdsPart referrer e.needle)

/-- A search finds the pattern in the path; the empty pattern is in every path. -/
def pathMatches (e : Expectation) (path : String) : Except Fault Bool :=
  if e.needle = "" then .ok true else search true e.needle path

/-- There is a cookie of a name. -/
def cookieMatches (e : Expectation) (cookies : Members String) : Bool :=
  e.needle != "" && (cookies.get? e.needle).isSome

/-- There is a header of a name that is not empty. -/
def headerMatches (e : Expectation) (o : Observed) : Bool :=
  e.needle != "" && o.header e.needle != ""

/-- The parameter that holds the click mark. -/
def clickParam : Expectation → String
  | .clickMark param _ => if param = "" then defaultClickParam else param
  | _ => defaultClickParam

/-- The query has a click mark. -/
def clickMatches (e : Expectation) (query : Members Json) : Bool :=
  match query.get? (clickParam e) with
  | none | some .null => false
  | some (.string s) => s != ""
  | some _ => true

/-- A named condition holds for what the server observed. -/
def NamedCondition.holds (c : NamedCondition) (e : Expectation) (o : Observed) :
    Except Fault Bool :=
  match c with
  | .method => e.matchesText o.method
  | .query => paramsMatch e o.query
  | .post => paramsMatch e o.post
  | .address => e.matchesText o.address
  | .hostName => e.matchesText (Traits.shownText o.record.reverse)
  | .country => e.matchesText o.country
  | .proxy => e.matchesText o.traits.hiddenText
  | .networkName => e.matchesText o.traits.networkName
  | .referrer => referrerMatches e o.referrer
  | .userAgent => .ok (holdsPart o.userAgent e.needle)
  | .browser => e.matchesText o.agent.browser
  | .system => e.matchesText o.agent.system
  | .path => pathMatches e o.path
  | .cookie => .ok (cookieMatches e o.cookies)
  | .header => .ok (headerMatches e o)
  | .clickMark => .ok (clickMatches e o.query)

/-- A free condition holds: its key is not in the context, or its signal is as expected. -/
def freeHolds (key : String) (e : Expectation) (c : Context) : Except Fault Bool :=
  match c.flat.get? key with
  | some signal => e.matches signal
  | none => .ok true

/-- A condition holds in a context. -/
def conditionHolds (c : Context) (key : String) (e : Expectation) : Except Fault Bool :=
  match NamedCondition.ofKey? key with
  | some named => named.holds e c.server
  | none => freeHolds key e c

end Turnstile.Rule
