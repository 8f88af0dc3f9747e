import Turnstile.Intel.Record
import Turnstile.Json.Reader
import Turnstile.Net.Percent
import Turnstile.Store.Encoding
import Turnstile.Text.Blank

/-!
# Lookups

An address that no cache knows is looked up once at an external service.  The address is
one escaped segment of the URL.  Whatever is not a successful answer with a readable
record counts as a failure, for which the fallback record stands; only a URL that the
client refuses to request is no answer at all.
-/

namespace Turnstile

/-- The service that is asked. -/
structure LookupApi where
  url : String
  /-- The fields that are asked for, if they are named. -/
  fields : Option String
  /-- The time that an answer may take. -/
  timeout : Json

namespace LookupApi

/-- The URL of the service without closing slashes. -/
def base (api : LookupApi) : String :=
  String.ofList (Text.dropEndWhile (· = '/') api.url.toList)

/-- The URL that is requested for an address. -/
def urlFor (api : LookupApi) (address : String) : String :=
  api.base ++ "/" ++ Percent.encode address

/-- The parameters of a request. -/
def parameters (api : LookupApi) : Option (Members String) :=
  match api.fields with
  | none | some "" => none
  | some fields => some [("fields", fields)]

end LookupApi

/-- What comes of a request. -/
inductive LookupOutcome where
  | response (status : Int) (body : List Nat)
  | failed
  /-- The client refuses to request the URL. -/
  | refused

namespace LookupOutcome

/-- The record of a successful answer. -/
def record? : LookupOutcome → Option Record
  | .response status body =>
    if status = 200 then
      match (Encoding.decode? body).bind Json.readChars with
      | some (.object ms) =>
        match Record.ofMembers ms with
        | .ok record => if record.isSuccess then some record else none
        | .error _ => none
      | _ => none
    else none
  | _ => none

end LookupOutcome

/-- A request that was made. -/
structure LookupCall where
  url : String
  parameters : Option (Members String)
  timeout : Json

/-- The request for an address. -/
def LookupApi.call (api : LookupApi) (address : String) : LookupCall :=
  ⟨api.urlFor address, api.parameters, api.timeout⟩

/-- What is counted when an address is resolved. -/
inductive ResolutionEvent where
  | cacheHit
  | cacheMiss
  | lookupSuccess
  | lookupFailure
  deriving DecidableEq, Repr

end Turnstile
