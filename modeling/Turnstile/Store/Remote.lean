import Turnstile.Json.Basic

/-!
# Remote stores

A store of texts by key behind a connection.  A client that was never opened has no
access; an open one fails while the connection is broken.  Opening asks for a sign of
life: an error closes nothing again, so the client stays open even then.
-/

namespace Turnstile

/-- Why a remote store does not answer. -/
inductive RemoteFault where
  | notOpen
  | broken
  deriving DecidableEq, Repr

/-- A remote store as a client sees it. -/
structure Remote where
  values : Members String
  /-- What a sign of life brings: an answer, or the text of an error. -/
  life : Except String Bool
  isBroken : Bool
  isOpen : Bool

namespace Remote

/-- A store that answers, not yet opened. -/
def initial (values : Members String) : Remote := ⟨values, .ok true, false, false⟩

/-- Opens the client; the error is that of the sign of life. -/
def start (r : Remote) : Remote × Option String :=
  ({ r with isOpen := true },
    match r.life with
    | .ok _ => none
    | .error text => some text)

/-- The value under a key. -/
def get? (r : Remote) (key : String) : Except RemoteFault (Option String) :=
  if !r.isOpen then .error .notOpen
  else if r.isBroken then .error .broken
  else .ok (r.values.get? key)

/-- A text that is stored under a key and not empty. -/
def text? (r : Remote) (key : String) : Except RemoteFault (Option String) := do
  return (← r.get? key).filter (· != "")

/-- Stores a value under a key. -/
def put (r : Remote) (key value : String) : Except RemoteFault Remote :=
  if !r.isOpen then .error .notOpen
  else if r.isBroken then .error .broken
  else .ok { r with values := r.values.set key value }

/-- The client is open and the store gives a sign of life. -/
def isHealthy (r : Remote) : Bool :=
  r.isOpen &&
    match r.life with
    | .ok answer => answer
    | .error _ => false

end Remote

end Turnstile
