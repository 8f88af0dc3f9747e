import Turnstile.Failure
import Turnstile.Http.Message

/-!
# Admission

Privileged callers send the service's key.  Without a configured key nobody is admitted.
-/

namespace Turnstile.Admission

/-- The header that carries the key. -/
def headerName : String := "x-api-key"

/-- No key is configured. -/
def disabled : Failure :=
  Failure.authentication "Privileged routes are disabled: no server API key configured" []

/-- The key is missing or another one. -/
def refused : Failure := Failure.authentication "Invalid or missing API key" []

/-- A key that counts: one that is there and not empty. -/
def key? (key : Option String) : Option String := key.filter (· != "")

/-- Why a caller is not admitted, if so. -/
def failure? (configured : Option String) (r : Http.Request) : Option Failure :=
  match key? configured with
  | none => some disabled
  | some key => if r.header? headerName = some key then none else some refused

end Turnstile.Admission
