import Turnstile.Json.Basic
import Turnstile.Text.Blank

/-!
# Log events

A log event is an object.  What a service knows of the request at hand is laid over it:
the part of the logger's name before the first point as the service, the request's
identifier, and the visitor's address.
-/

namespace Turnstile

/-- What is known of the request at hand. -/
structure LogContext where
  requestId : Option String
  visitor : Option String
  deriving DecidableEq, Repr

/-- The levels of log events. -/
inductive LogLevel where
  | debug
  | info
  | warning
  | error
  | critical
  deriving DecidableEq, Repr

namespace LogLevel

/-- The name of a level. -/
def name : LogLevel → String
  | .debug => "debug"
  | .info => "info"
  | .warning => "warning"
  | .error => "error"
  | .critical => "critical"

/-- All levels, the least first. -/
def all : List LogLevel := [.debug, .info, .warning, .error, .critical]

/-- The level of a name. -/
def ofName? (name : String) : Option LogLevel := all.find? (·.name == name)

/-- Events of a level are logged: it is not below `info`. -/
def isLogged (level : LogLevel) : Bool := level != .debug

end LogLevel

namespace LogContext

/-- Nothing is known. -/
def empty : LogContext := ⟨none, none⟩

/-- Sets the identifier of the request: the one given, or a fresh one. -/
def withRequest (c : LogContext) (given : Option String) (fresh : String) : LogContext × String :=
  let id := given.getD fresh
  ({ c with requestId := some id }, id)

/-- Sets the visitor's address, if it is given and not empty. -/
def withVisitor (c : LogContext) : Option String → LogContext
  | none | some "" => c
  | some address => { c with visitor := some address }

/-- The service that a logger's name tells. -/
def serviceOf? (logger : Json) : Option String :=
  match logger with
  | .string name =>
    match Text.cut '.' name.toList with
    | (service, some _) => some (String.ofList service)
    | (_, none) => none
  | _ => none

/-- Lays a text over an event, if it is there and not empty. -/
def overlaid (event : Members Json) (name : String) : Option String → Members Json
  | none | some "" => event
  | some text => event.set name (.string text)

/-- An event with the service that its logger tells. -/
def withService (event : Members Json) : Members Json :=
  match serviceOf? ((event.get? "logger").getD (.string "")) with
  | some service => event.set "service" (.string service)
  | none => event

/-- An event with what is known laid over it. -/
def enrich (c : LogContext) (event : Members Json) : Members Json :=
  overlaid (overlaid (withService event) "request_id" c.requestId) "visitor_ip" c.visitor

/-- The event that a logger writes for a text with fields; none below the least level. -/
def event? (c : LogContext) (logger : String) (level : LogLevel) (text : String)
    (fields : Members Json) : Option (Members Json) :=
  if level.isLogged then
    some (c.enrich (Members.overlay fields
      [("event", .string text), ("logger", .string logger), ("level", .string level.name)]))
  else none

end LogContext

end Turnstile
