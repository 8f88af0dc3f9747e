import Turnstile.Intel.Cache
import Turnstile.Intel.Lookup

/-!
# Resolving addresses

An address is resolved in three steps: read the cache; if it holds no valid record, look
the address up; write what was found, or the fallback, to the cache.  Faults of the
cache are no obstacles.  As the fallback is kept too, no address is looked up twice.
-/

namespace Turnstile

/-- What resolving an address brings. -/
structure Resolution where
  /-- The record; none if the client refused the request. -/
  record : Option Record
  cache : Cache
  calls : List LookupCall
  events : List ResolutionEvent

namespace Resolver

/-- The valid record that a cache holds for an address. -/
def cached? (cache : Cache) (address : String) : Option Record :=
  match cache.get address with
  | .ok (some document) => (Record.ofMembers document).toOption
  | _ => none

/-- The record of an address that could not be looked up. -/
def fallback (address : String) : Record :=
  Record.fallback address (some Record.failureMessage)

/-- The record that a lookup gives, the fallback being one; none if it was refused. -/
def looked? (address : String) (outcome : LookupOutcome) : Option Record :=
  match outcome with
  | .refused => none
  | _ => some (outcome.record?.getD (fallback address))

/-- What is counted of a lookup. -/
def eventOf (outcome : LookupOutcome) : ResolutionEvent :=
  if outcome.record?.isSome then .lookupSuccess else .lookupFailure

/-- The cache once a record was written, or the write failed. -/
def written (cache : Cache) (address : String) (record : Record) : Cache :=
  (cache.set address (.object record.document)).1

/-- Looks up an address that the cache does not know. -/
def lookUp (api : LookupApi) (lookup : String → LookupOutcome) (cache : Cache)
    (address : String) : Resolution :=
  let outcome := lookup address
  match looked? address outcome with
  | none => ⟨none, cache, [api.call address], [.cacheMiss]⟩
  | some record =>
    ⟨some record, written cache address record, [api.call address], [.cacheMiss, eventOf outcome]⟩

/-- Resolves an address; the empty one is not looked for anywhere. -/
def resolve (api : LookupApi) (lookup : String → LookupOutcome) (cache : Cache)
    (address : String) : Resolution :=
  if address = "" then ⟨some (Record.fallback "" none), cache, [], []⟩
  else
    match cached? cache address with
    | some record => ⟨some record, cache, [], [.cacheHit]⟩
    | none => lookUp api lookup cache address

end Resolver

end Turnstile
