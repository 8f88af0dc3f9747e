import Turnstile.Text.Blank

/-!
# Routes

The endpoints of a service, the paths under which they are found, and the methods that
they answer.  The address of a lookup is one segment of the path.
-/

namespace Turnstile.Http

/-- What a service answers. -/
inductive Endpoint where
  /-- The document that describes the endpoints. -/
  | schema
  | docs
  /-- The page to which a sign-in from the documentation returns. -/
  | signIn
  | redoc
  | health
  | metrics
  | home
  | evaluate
  | serverSide
  | rules
  | address
  deriving DecidableEq, Repr

namespace Endpoint

/-- The pages of documentation. -/
def documentation : List Endpoint := [.docs, .signIn, .redoc]

/-- What every service answers. -/
def common : List Endpoint := [.schema, .health, .metrics]

/-- What a service that decides answers besides. -/
def decisions : List Endpoint := [.home, .evaluate, .serverSide, .rules, .address]

/-- The path, or what stands before the last segment of it. -/
def path : Endpoint → String
  | .schema => "/openapi.json"
  | .docs => "/docs"
  | .signIn => "/docs/oauth2-redirect"
  | .redoc => "/redoc"
  | .health => "/health"
  | .metrics => "/metrics"
  | .home => "/"
  | .evaluate => "/decisions/evaluate"
  | .serverSide => "/decisions/server-side"
  | .rules => "/decisions/rules"
  | .address => "/decisions/ip/"

/-- The path with the name of its segment between braces. -/
def template (e : Endpoint) : String :=
  match e with
  | .address => e.path ++ "\x7bip\x7d"
  | _ => e.path

/-- The methods that are answered. -/
def methods : Endpoint → List String
  | .schema | .docs | .signIn | .redoc => ["GET", "HEAD"]
  | .evaluate | .serverSide => ["POST"]
  | _ => ["GET"]

/-- The segment of a path that belongs to an endpoint, empty if it has none. -/
def segment? (e : Endpoint) (path : String) : Option String :=
  match e with
  | .address =>
    let start := e.path.toList
    let segment := path.toList.drop start.length
    if start.isPrefixOf path.toList && !segment.isEmpty && !segment.contains '/' then
      some (String.ofList segment)
    else none
  | _ => if path = e.path then some "" else none

end Endpoint

/-- Where a request leads. -/
inductive Route where
  | endpoint (e : Endpoint) (segment : String)
  /-- The path has an endpoint that answers other methods. -/
  | wrongMethod (allowed : List String)
  /-- The path has an endpoint but for a slash at its end. -/
  | moved (path : String)
  | notFound
  deriving DecidableEq, Repr

namespace Route

/-- The path without slashes at its end, or with one if it has none. -/
def toggled (path : String) : String :=
  if path.toList.getLast? = some '/' then
    String.ofList (Text.dropEndWhile (· = '/') path.toList)
  else path ++ "/"

/-- Where a method and a path lead among some endpoints. -/
def find (endpoints : List Endpoint) (method path : String) : Route :=
  let found := endpoints.filterMap fun e => (e.segment? path).map fun segment => (e, segment)
  match found.find? fun (e, _) => e.methods.contains method, found.head? with
  | some (e, segment), _ => .endpoint e segment
  | none, some (e, _) => .wrongMethod e.methods
  | none, none =>
    if path != "/" && endpoints.any fun e => (e.segment? (toggled path)).isSome then
      .moved (toggled path)
    else .notFound

end Route

end Turnstile.Http
