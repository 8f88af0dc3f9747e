import Turnstile.Json.Basic

/-!
# Failures

What the service reports to its callers when it cannot answer: a code, a message,
details, and the status of the answer.
-/

namespace Turnstile

/-- The families of failures. -/
inductive FailureKind where
  | general
  | ruleSource
  | signing
  | authentication
  deriving DecidableEq, Repr

/-- A failure that is reported to the caller. -/
structure Failure where
  kind : FailureKind
  code : String
  message : String
  details : Members Json

namespace Failure

/-- A failure with a code of its own. -/
def general (code message : String) (details : Members Json) : Failure :=
  ⟨.general, code, message, details⟩

/-- The rules cannot be read. -/
def ruleSource (message : String) (details : Members Json) : Failure :=
  ⟨.ruleSource, "RULE_SOURCE_ERROR", message, details⟩

/-- A URL cannot be signed. -/
def signing (message : String) (details : Members Json) : Failure :=
  ⟨.signing, "SIGNING_ERROR", message, details⟩

/-- The caller is not admitted. -/
def authentication (message : String) (details : Members Json) : Failure :=
  ⟨.authentication, "AUTHENTICATION_ERROR", message, details⟩

/-- The message of a rule source that gives none. -/
def ruleSourceMessage : String := "Rule source unavailable"

/-- The message of a signature that gives none. -/
def signingMessage : String := "Signing failed"

/-- The message of a refusal that gives none. -/
def authenticationMessage : String := "Authentication failed"

/-- The status of the answer. -/
def status (f : Failure) : Nat :=
  match f.kind with
  | .general | .signing => 400
  | .ruleSource => 500
  | .authentication => 401

/-- The document that reports a failure in a request. -/
def document (f : Failure) (requestId : Option String) : Members Json :=
  [("request_id", match requestId with
    | some id => .string id
    | none => .null),
    ("code", .string f.code), ("message", .string f.message), ("details", .object f.details)]

end Failure

end Turnstile
