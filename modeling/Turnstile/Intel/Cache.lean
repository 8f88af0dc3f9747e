import Turnstile.Failure
import Turnstile.Json.Reader
import Turnstile.Json.Writer
import Turnstile.Store.Entry
import Turnstile.Store.Remote

/-!
# Caches of records

One document for each address, kept for good.

**Folder.**  A file for each address, named by a safe form of it.  A document is written
to a temporary file that then takes the place of the old one, so a write that fails
leaves every entry as it was.  The name of the temporary file is any that no entry has.

**Remote store.**  A text for each address under a key of its own.

**Documents that cannot be written.**  A document with half of a surrogate pair has no form in
UTF-8.  Writing it to a file stops there, with what was written before in the temporary
file; a remote store gets nothing of it.
-/

namespace Turnstile

/-- A character that the name of a cache file keeps. -/
def isSafeChar (c : Char) : Bool :=
  ('a' ≤ c && c ≤ 'z') || ('A' ≤ c && c ≤ 'Z') || ('0' ≤ c && c ≤ '9')
    || c == '_' || c == '-' || c == '.'

/-- A name for an address in which other characters are underscores. -/
def safeName (address : String) : String :=
  String.ofList (address.toList.map fun c => if isSafeChar c then c else '_')

/-- The object that a text writes. -/
def readObject? (text : String) : Option (Members Json) :=
  match Json.read? text with
  | some (.object ms) => some ms
  | _ => none

/-- The folder of a cache. -/
structure CacheFolder where
  /-- The folder that holds it is there. -/
  hasParent : Bool
  /-- The folder itself is there. -/
  isThere : Bool
  entries : Members Entry

/-- What is asked of the folder of a cache. -/
inductive FolderStep where
  /-- The folder itself, and those above it, unless they are there. -/
  | make
  /-- A file without text, under a name that no entry has. -/
  | create (name : String)
  | fill (name text : String)
  /-- More of a document, for which there is no text. -/
  | fail
  /-- A file gets another name, in the place of a file that has it. -/
  | rename (name name' : String)
  | remove (name : String)
  deriving DecidableEq, Repr

/-- The names of the entries that a step touches. -/
def FolderStep.names : FolderStep → List String
  | .make | .fail => []
  | .create name | .fill name _ | .remove name => [name]
  | .rename name name' => [name, name']

namespace CacheFolder

/-- The folder before anything was written. -/
def initial : CacheFolder := ⟨false, false, []⟩

/-- The name of the file of an address. -/
def fileName (address : String) : String := safeName address ++ ".json"

/-- The text in which a document is written. -/
def documentText (document : Json) : String := Json.write .indented document

/-- The document of an address, if there is a readable one. -/
def get (f : CacheFolder) (address : String) : Except FolderFault (Option (Members Json)) :=
  if f.isThere && Entry.isTooLong (fileName address) then .error .nameTooLong
  else
    match f.entries.get? (fileName address) with
    | some (.file text) => .ok (readObject? text)
    | _ => .ok none

/-- The entries with one under another name. -/
def renamed (entries : Members Entry) (name name' : String) : Members Entry :=
  match entries.get? name with
  | some entry => (entries.erase name).set name' entry
  | none => entries

/-- Takes a step. -/
def does (f : CacheFolder) : FolderStep → Except FolderFault CacheFolder
  | .make => .ok { f with hasParent := true, isThere := true }
  | .create name => .ok { f with entries := f.entries.set name (.file "") }
  | .fill name text => .ok { f with entries := f.entries.set name (.file text) }
  | .fail => .error .unwritable
  | .rename name name' =>
    if Entry.isTooLong name' then .error .nameTooLong
    else if f.entries.get? name' = some .folder then .error .isFolder
    else .ok { f with entries := renamed f.entries name name' }
  | .remove name => .ok { f with entries := f.entries.erase name }

/-- Takes steps until there is a fault. -/
def run (f : CacheFolder) : List FolderStep → CacheFolder × Option FolderFault
  | [] => (f, none)
  | step :: rest =>
    match f.does step with
    | .ok next => next.run rest
    | .error fault => (f, some fault)

/-- The steps that write the document of an address through a temporary file. -/
def writeSteps (temporary address : String) (document : Json) : List FolderStep :=
  .make :: .create temporary ::
    match Json.partAt .indented 0 document with
    | none => [.fill temporary (documentText document), .rename temporary (fileName address)]
    | some part => [.fill temporary part, .fail]

/-- Writes through a temporary file, which is removed again after a fault of the file system. -/
def setThrough (f : CacheFolder) (temporary address : String) (document : Json) :
    CacheFolder × Option FolderFault :=
  match f.run (writeSteps temporary address document) with
  | (written, none) => (written, none)
  | (left, some fault) =>
    (if fault.isOfSystem then (left.run [.remove temporary]).1 else left, some fault)

/-- The names of temporary files. -/
def temporaryName (number : Nat) : String := ".ip-" ++ toString number ++ ".tmp"

/-- The first name of a temporary file that no entry has. -/
def freshName (f : CacheFolder) : String :=
  let names := (List.range (f.entries.length + 1)).map temporaryName
  (names.find? fun name => (f.entries.get? name).isNone).getD ""

/-- Writes the document of an address. -/
def set (f : CacheFolder) (address : String) (document : Json) :
    CacheFolder × Option FolderFault :=
  f.setThrough f.freshName address document

/-- The folder is there, or can be made in one that is there. -/
def isHealthy (f : CacheFolder) : Bool := f.isThere || f.hasParent

end CacheFolder

/-- Why a cache does not answer. -/
inductive CacheFault where
  | folder (fault : FolderFault)
  | remote (fault : RemoteFault)
  /-- A remote store has no text for a document. -/
  | unwritable
  /-- The cache never answers. -/
  | unavailable
  deriving DecidableEq, Repr

/-- A cache of records. -/
inductive Cache where
  | folder (f : CacheFolder)
  | remote (r : Remote)
  | unavailable

namespace Cache

/-- The key of an address in a remote store. -/
def remoteKey (address : String) : String := "ipintel:" ++ address

/-- The text of a document in a remote store. -/
def remoteText (document : Json) : String := Json.write .spaced document

/-- The document of an address, if there is a readable one. -/
def get (c : Cache) (address : String) : Except CacheFault (Option (Members Json)) :=
  match c with
  | .folder f =>
    match f.get address with
    | .ok found => .ok found
    | .error fault => .error (.folder fault)
  | .remote r =>
    match r.text? (remoteKey address) with
    | .ok found => .ok (found.bind readObject?)
    | .error fault => .error (.remote fault)
  | .unavailable => .error .unavailable

/-- Writes the document of an address. -/
def set (c : Cache) (address : String) (document : Json) : Cache × Option CacheFault :=
  match c with
  | .folder f =>
    let (written, fault) := f.set address document
    (.folder written, fault.map .folder)
  | .remote r =>
    match r.put (remoteKey address) (remoteText document) with
    | .ok written =>
      if document.isWritable then (.remote written, none) else (c, some .unwritable)
    | .error fault => (c, some (.remote fault))
  | .unavailable => (c, some .unavailable)

/-- The cache can be used. -/
def isHealthy : Cache → Bool
  | .folder f => f.isHealthy
  | .remote r => r.isHealthy
  | .unavailable => false

/-- The failure of a cache that cannot be opened. -/
def startFailure (text : String) : Failure := Failure.general "REDIS_START_FAILED" text []

end Cache

end Turnstile
