import Turnstile.Failure
import Turnstile.Json.Reader
import Turnstile.Rule.Basic
import Turnstile.Store.Remote
import Turnstile.Text.Utf8

/-!
# Sources of rules

Rules are read afresh for every decision, from a file or from a remote store.  A
document that is missing or malformed holds no rules; a remote store that was never
opened is a failure, and a broken connection is a fault.

**Life of a remote source.**  A start makes a client, unless the address of the store is
refused, and asks the store for a sign of life; the client is kept even if that brings an
error.  A stop closes connections only, and the client opens others when it is asked again.
-/

namespace Turnstile

/-- What stands under the name of the rules file. -/
inductive RuleFile where
  | absent
  | folder
  | file (bytes : List Nat)

/-- A source of rules. -/
inductive RuleSource where
  /-- A file, and whether the folder that holds it is there. -/
  | file (content : RuleFile) (hasParent : Bool)
  /-- A text under a key of a remote store. -/
  | remote (key : String) (store : Remote)

/-- Why rules cannot be read. -/
inductive SourceFault where
  /-- The remote store was never opened. -/
  | notStarted
  | disconnected
  deriving DecidableEq, Repr

/-- Why rules cannot be loaded. -/
inductive LoadFault where
  | source (fault : SourceFault)
  | rule (fault : Rule.Fault)
  deriving DecidableEq, Repr

namespace RuleSource

/-- The rules that a text writes; none if it is malformed. -/
def rulesOfText (cs : List Char) : List Json :=
  match Json.readChars cs with
  | some document => Rule.documentRules document
  | none => []

/-- The characters of a text file, in which line ends of all kinds are read as line feeds. -/
def charsOfFile? (bytes : List Nat) : Option (List Char) :=
  (Utf8.decode? bytes).map Text.withLineFeeds

/-- The rules of a file. -/
def rulesOfFile : RuleFile → List Json
  | .file bytes => ((charsOfFile? bytes).map rulesOfText).getD []
  | _ => []

/-- The raw rules of a source. -/
def raws : RuleSource → Except SourceFault (List Json)
  | .file content _ => .ok (rulesOfFile content)
  | .remote key store =>
    match store.text? key with
    | .ok text => .ok ((text.map fun s => rulesOfText s.toList).getD [])
    | .error .notOpen => .error .notStarted
    | .error .broken => .error .disconnected

/-- The active rules of a source, in order. -/
def load (source : RuleSource) (now : Moment) : Except LoadFault (List Rule) :=
  match source.raws with
  | .error fault => .error (.source fault)
  | .ok items =>
    match Rule.normalize now items with
    | .ok rules => .ok rules
    | .error fault => .error (.rule fault)

/-- The source can be read. -/
def isHealthy : RuleSource → Bool
  | .file _ hasParent => hasParent
  | .remote _ store => store.isHealthy

/-- The failure of a source that was never opened. -/
def notStartedFailure : Failure := Failure.ruleSource "Redis rule source not started" []

/-- The failure of a source that cannot be opened. -/
def startFailure (text : String) : Failure :=
  Failure.ruleSource "Redis rule source unavailable" [("error", .string text)]

end RuleSource

/-- A source of rules in a remote store, with what a start does to it. -/
structure RemoteSource where
  key : String
  /-- The error of making a client, if the address of the store is refused. -/
  refusal : Option String
  store : Remote

/-- What happens to a source of rules in a remote store. -/
inductive SourceEvent where
  | start
  | stop
  | load
  /-- Other texts are stored. -/
  | stored (values : Members String)
  /-- The connection changes: what a sign of life brings, and whether it is broken. -/
  | connected (life : Except String Bool) (isBroken : Bool)

namespace RemoteSource

/-- A source before its first start. -/
def initial (key : String) (refusal : Option String) (values : Members String) : RemoteSource :=
  ⟨key, refusal, Remote.initial values⟩

/-- The source as one that rules are read from. -/
def source (s : RemoteSource) : RuleSource := .remote s.key s.store

/-- Makes the client and asks for a sign of life; the failure is that of either. -/
def start (s : RemoteSource) : RemoteSource × Option Failure :=
  match s.refusal with
  | some text => (s, some (RuleSource.startFailure text))
  | none => ({ s with store := s.store.start.1 }, s.store.start.2.map RuleSource.startFailure)

/-- The source after an event. -/
def after (s : RemoteSource) : SourceEvent → RemoteSource
  | .start => s.start.1
  | .stop | .load => s
  | .stored values => { s with store := { s.store with values } }
  | .connected life isBroken => { s with store := { s.store with life, isBroken } }

/-- The source after events. -/
def run (s : RemoteSource) (events : List SourceEvent) : RemoteSource := events.foldl after s

end RemoteSource

end Turnstile
