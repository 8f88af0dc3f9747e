import Turnstile.Crypto.Base64
import Turnstile.Crypto.Sha256
import Turnstile.Failure
import Turnstile.Json.Display
import Turnstile.Net.Percent
import Turnstile.Text.Numeral
import Turnstile.Time.Iso

/-!
# Shared access to stored pages

A signed URL admits its holder to a container of an object storage for a short time.

**Message.**  Sixteen fields on lines of their own, signed with the account's key.

**URL.**  The account's host or a domain of its own, the container, the entry page, and
the signed fields with the signature as parameters.

**Halves of surrogate pairs.**  UTF-8 has no form for a text with one, so that it can neither
be signed nor stand in a path.
-/

namespace Turnstile

/-- What a signed URL is made from. -/
structure SharedAccess where
  account : String
  /-- The account's key in base64. -/
  key : String
  container : String
  /-- The path of the entry page in the container. -/
  entry : String
  version : String
  /-- For how many seconds the URL admits. -/
  seconds : Nat
  /-- The URL admits one address only. -/
  locksAddress : Bool
  domain : String
  /-- No text that is signed or stands in the path has halves of surrogate pairs. -/
  isUnicode : Bool
  deriving DecidableEq, Repr

namespace SharedAccess

/-- The text under a name, trimmed; what is missing or null takes a default. -/
def memberText (ms : Members Json) (name absent : String) : String :=
  match Members.get? ms name with
  | none | some .null => absent
  | some v => Text.trim v.display

/-- The members whose texts are signed or stand in the path. -/
def encodedNames : List String := ["accountName", "container", "entryBlob", "sv"]

/-- The text under a name has halves of surrogate pairs. -/
def isHalved (ms : Members Json) (name : String) : Bool :=
  match Members.get? ms name with
  | some (.halved _) => true
  | _ => false

/-- The number of seconds that a value gives: its integer part, if it is a finite number. -/
def secondsOf? : Json → Option Int
  | .bool b => some (if b then 1 else 0)
  | .int n => (Double.ofInt n).truncate?
  | .float x => x.truncate?
  | .string s => (Double.ofText? s).bind Double.truncate?
  | _ => none

/-- The lifetime of URLs that give none. -/
def defaultSeconds : Nat := 15

/-- The longest lifetime: a week. -/
def maxSeconds : Nat := 604800

/-- The lifetime that a value gives, from one second to a week. -/
def lifetime : Json → Nat
  | .null => defaultSeconds
  | v => min (max 1 ((secondsOf? v).getD 0).toNat) maxSeconds

/-- Reads the members of a configuration. -/
def ofMembers (ms : Members Json) : SharedAccess where
  account := memberText ms "accountName" ""
  key := memberText ms "accountKeyB64" ""
  container := memberText ms "container" "$web"
  entry := String.ofList ((memberText ms "entryBlob" "index.html").toList.dropWhile (· = '/'))
  version := memberText ms "sv" "2022-11-02"
  seconds := lifetime ((Members.get? ms "ttlSeconds").getD .null)
  locksAddress := ((Members.get? ms "lockByIP").getD .null).isTruthy
  domain := memberText ms "customDomain" ""
  isUnicode := !encodedNames.any (isHalved ms)

/-- Why a URL cannot be signed. -/
inductive Flaw where
  /-- The window leaves the years 1 to 9999. -/
  | windowOutOfRange
  | key (flaw : Base64.Flaw)
  /-- UTF-8 has no form for some text. -/
  | notUnicode
  deriving DecidableEq, Repr

/-- The failure that reports a flaw, if one does. -/
def Flaw.failure? : Flaw → Option Failure
  | .windowOutOfRange =>
    some (Failure.signing "Signature window out of range"
      [("error", .string "date value out of range")])
  | .key flaw =>
    some (Failure.signing "Account key is not valid base64" [("error", .string flaw.message)])
  | .notUnicode => none

/-- A moment in universal time, to the second. -/
def stamp (m : Moment) : String :=
  let date := m.date
  let (hour, minute, second, _) := m.clock
  toString date.year ++ "-" ++ Moment.padded 2 date.month ++ "-" ++ Moment.padded 2 date.day
    ++ "T" ++ Moment.padded 2 hour ++ ":" ++ Moment.padded 2 minute ++ ":"
    ++ Moment.padded 2 second ++ "Z"

/-- The stamp of a moment, if universal time has it. -/
def stamp? (m : Moment) : Option String := m.toUtc?.map stamp

/-- The stamp some seconds after a moment. -/
def stampAfter? (m : Moment) (seconds : Int) : Option String :=
  (m.shift? (seconds * microsPerSecond)).bind stamp?

/-- What the signature covers. -/
def resource (account container : String) : String := "/blob/" ++ account ++ "/" ++ container

/-- The signed fields that vary. -/
structure SignedFields where
  permission : String
  start : String
  expiry : String
  resource : String
  address : String
  protocol : String
  version : String
  scope : String
  deriving DecidableEq, Repr

/-- The fields of the message, in order. -/
def SignedFields.toList (f : SignedFields) : List String :=
  [f.permission, f.start, f.expiry, f.resource, "", f.address, f.protocol, f.version, f.scope,
    "", "", "", "", "", "", ""]

/-- The message to be signed. -/
def SignedFields.message (f : SignedFields) : String := Text.joined "\n" f.toList

/-- The permission that is granted: to read. -/
def readPermission : String := "r"

/-- The only protocol that is admitted. -/
def secureProtocol : String := "https"

/-- The scope of a signature: a container. -/
def containerScope : String := "c"

/-- The fields that vary only with the window, the container, the address and the version. -/
def signedFields (start expiry resource address version : String) : SignedFields :=
  ⟨readPermission, start, expiry, resource, address, secureProtocol, version, containerScope⟩

/-- The signature of a message of characters under a key in base64. -/
def sign (message key : String) : Except Base64.Flaw String := do
  let bytes ← Base64.decode key
  return Base64.encode (Sha256.keyedHash bytes (Utf8.encode message.toList))

/-- The seconds by which the window starts before the present. -/
def skewSeconds : Int := 60

/-- The address that the URL admits, empty if it admits all. -/
def signedAddress (access : SharedAccess) (address : String) : String :=
  if access.locksAddress then address else ""

/-- The parameters of the URL, in order. -/
def parameters (f : SignedFields) (signature : String) : Members String :=
  [("sv", f.version), ("se", f.expiry), ("sr", f.scope), ("sp", f.permission),
    ("spr", f.protocol), ("st", f.start), ("sig", signature)]
    ++ if f.address = "" then [] else [("sip", f.address)]

/-- The text of parameters. -/
def parameterText (ps : Members String) : String :=
  Text.joined "&" (ps.map fun (name, value) => name ++ "=" ++ Percent.encode value)

/-- The host of the URL. -/
def host (access : SharedAccess) : String :=
  let domain := String.ofList (Text.dropEndWhile (· = '/') access.domain.toList)
  if domain = "" then access.account ++ ".blob.core.windows.net" else domain

/-- The path of the URL. -/
def path (access : SharedAccess) : String :=
  Percent.encode access.container ++ "/"
    ++ Text.joined "/" ((Text.pieces '/' access.entry.toList).map fun segment =>
      String.ofList (Percent.encodeChars segment))

/-- The fields that are signed for an address at a moment, if the window is in range. -/
def fieldsAt? (access : SharedAccess) (address : String) (now : Moment) : Option SignedFields := do
  let start ← stampAfter? now (-skewSeconds)
  let expiry ← stampAfter? now access.seconds
  return signedFields start expiry (resource access.account access.container)
    (access.signedAddress address) access.version

/-- The signed URL for an address at a moment, empty if there is no account or no key. -/
def url (access : SharedAccess) (address : String) (now : Moment) : Except Flaw String :=
  if access.account = "" || access.key = "" then .ok ""
  else
    match access.fieldsAt? address now with
    | none => .error .windowOutOfRange
    | some fields =>
      match sign fields.message access.key with
      | .error flaw => .error (.key flaw)
      | .ok signature =>
        if access.isUnicode then
          .ok ("https://" ++ access.host ++ "/" ++ access.path ++ "?"
            ++ parameterText (parameters fields signature))
        else .error .notUnicode

end SharedAccess

end Turnstile
