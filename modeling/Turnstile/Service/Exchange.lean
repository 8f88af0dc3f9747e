import Turnstile.Service.Handling
import Turnstile.Service.Log

/-!
# Exchanges

A request and its answer.  Every answer carries the identifier of its request and is
counted under its method, path and status, with one exception: a request that breaks on
a fault is counted as an error, and its answer carries no identifier.
-/

namespace Turnstile

/-- What a request meets with. -/
structure Occasion where
  /-- The identifier for a request that brings none. -/
  fresh : String
  /-- The time that the request takes, in seconds. -/
  elapsed : Double

/-- What a request brings. -/
structure Exchange where
  service : Service
  answer : Http.Answer
  calls : List LookupCall
  /-- The rules were read. -/
  readsRules : Bool

namespace Exchange

/-- The header that carries the identifier of a request. -/
def idName : String := "x-request-id"

/-- The identifier of a request: the one it brings, or a fresh one. -/
def requestId (r : Http.Request) (o : Occasion) : String :=
  (LogContext.empty.withRequest (r.header? idName) o.fresh).2

/-- The code of faults of which the caller learns nothing. -/
def brokenCode : String := "INTERNAL_ERROR"

/-- The answer to a request that breaks on a fault. -/
def brokenAnswer : Http.Answer :=
  Http.Answer.object 500 [("code", .string brokenCode),
    ("message", .string "Internal server error"), ("details", .object [])]

/-- Counts an error. -/
def countError (s : Service) (code : String) : Service :=
  { s with tally := s.tally.recordError code .null }

/-- Counts an answer. -/
def countAnswer (s : Service) (r : Http.Request) (o : Occasion) (status : Nat) : Service :=
  { s with
    tally := (s.tally.recordRequest r.method r.target.label (toString status)
      (.float o.elapsed)).1 }

/-- The answer that reports a failure. -/
def failureAnswer (f : Failure) (id : String) : Http.Answer :=
  Http.Answer.object f.status (f.document (some id))

/-- Handles a request, unless it only asks whether a page may call. -/
def handled (s : Service) (r : Http.Request) : Handling :=
  match s.cors.preflight? r with
  | some permission => Handling.answer s permission
  | none => Handling.route s r

/-- The service and its answer, if the request does not break. -/
def concluded (h : Handling) (id : String) : Service × Option Http.Answer :=
  match h.outcome with
  | .answered a => (h.service, some a)
  | .failed f => (countError h.service f.code, some (failureAnswer f id))
  | .broken => (countError h.service brokenCode, none)

/-- Marks an answer for the page that called, unless the request only asks whether it may. -/
def marked (s : Service) (r : Http.Request) (a : Http.Answer) : Http.Answer :=
  if (s.cors.preflight? r).isSome then a else s.cors.mark r a

/-- Answers a request. -/
def run (s : Service) (r : Http.Request) (o : Occasion) : Exchange :=
  let id := requestId r o
  let h := handled s r
  match concluded h id with
  | (service, some a) =>
    ⟨countAnswer service r o a.status, (marked s r a).withHeader idName id, h.calls,
      h.readsRules⟩
  | (service, none) => ⟨service, brokenAnswer, h.calls, h.readsRules⟩

end Exchange

/-- The service after a request, and the answer. -/
def Service.answer (s : Service) (o : Occasion) (r : Http.Request) : Service × Http.Answer :=
  let x := Exchange.run s r o
  (x.service, x.answer)

/-- Answers requests one after the other. -/
def Service.answers (o : Occasion) (s : Service) : List Http.Request → Service × List Http.Answer
  | [] => (s, [])
  | r :: rest =>
    let (next, a) := s.answer o r
    let (last, as) := next.answers o rest
    (last, a :: as)

end Turnstile
