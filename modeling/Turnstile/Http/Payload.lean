import Turnstile.Http.Message
import Turnstile.Json.Reader
import Turnstile.Store.Encoding
import Turnstile.Visit.Request

/-!
# Payloads

The body of a request that reports a visit.  It is read as a document first, and only
then checked, so that other reasons to refuse the request can come between.
-/

namespace Turnstile.Http

/-- The body of a request. -/
inductive Payload where
  | absent
  /-- A text that is not declared to be a document. -/
  | foreign
  | document (v : Json)

namespace Payload

/-- The step to the body, with which the path of each of its flaws begins. -/
def root : PathStep := .name "body"

/-- A media type is that of documents. -/
def isDocumentType (mediaType : String) : Bool :=
  let type := Text.lower (Text.trim (String.ofList (Text.cut ';' mediaType.toList).1))
  match Text.pieces '/' type.toList with
  | [main, sub] =>
    String.ofList main == "application"
      && (String.ofList sub == "json" || "+json".toList.isSuffixOf sub)
  | _ => false

/-- The document that a text writes, as bytes. -/
def readText? (text : String) : Option Json :=
  (Encoding.decode? (Utf8.encode text.toList)).bind Json.readChars

/-- Reads the body of a request; the flaw is that of a text that is no document. -/
def read (r : Request) : Except Flaw Payload :=
  if r.body = "" then .ok .absent
  else if (r.header? "content-type").any isDocumentType then
    match readText? r.body with
    | some v => .ok (.document v)
    | none => .error ⟨[root], .malformed⟩
  else .ok .foreign

/-- The visit that a body reports. -/
def visit : Payload → Except (List Flaw) Turnstile.Request
  | .absent => .error [⟨[root], .missing⟩]
  | .document (.object ms) =>
    (Turnstile.Request.check ms).result.mapError fun fs =>
      fs.map fun f => { f with path := root :: f.path }
  | _ => .error [⟨[root], .notDocument⟩]

end Payload

end Turnstile.Http
