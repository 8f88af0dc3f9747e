import Turnstile.Http.Target
import Turnstile.Metrics.Tally
import Turnstile.Schema.Checked
import Turnstile.Text.Case

/-!
# Requests and answers

A request has a method, a target, headers and a text; the names of headers have no case.
The form of an answer's content tells its media type.
-/

namespace Turnstile.Http

/-- A request as a client sends it. -/
structure Request where
  method : String
  target : Target
  headers : Members String
  body : String

/-- The value of a header whose name is given in lowercase. -/
def Request.header? (r : Request) (name : String) : Option String :=
  (r.headers.find? fun (n, _) => Text.lower n == name).map (·.2)

/-- The content of an answer. -/
inductive Content where
  | document (v : Json)
  /-- A report of the flaws of a request. -/
  | flaws (fs : List Flaw)
  | text (s : String)
  | samples (xs : List Sample)
  /-- A page of documentation. -/
  | page
  /-- The description of the endpoints. -/
  | schema
  | empty

/-- The media type of a content. -/
def Content.mediaType : Content → String
  | .document _ | .flaws _ | .schema => "application/json"
  | .text _ | .samples _ => "text/plain"
  | .page => "text/html"
  | .empty => ""

/-- An answer. -/
structure Answer where
  status : Nat
  headers : Members String
  content : Content

namespace Answer

/-- An answer without headers of its own. -/
def plain (status : Nat) (content : Content) : Answer := ⟨status, [], content⟩

/-- An object as an answer. -/
def object (status : Nat) (members : Members Json) : Answer :=
  plain status (.document (.object members))

/-- An answer that only says what became of the request. -/
def detail (status : Nat) (text : String) : Answer := object status [("detail", .string text)]

/-- The answer to a request that has flaws. -/
def flawed (fs : List Flaw) : Answer := plain 422 (.flaws fs)

/-- An answer with one more header. -/
def withHeader (a : Answer) (name value : String) : Answer :=
  { a with headers := a.headers.set name value }

end Answer

end Turnstile.Http
