import Turnstile.Schema.Checked

/-!
# Records of addresses

What is known of an address: where it is, and whose network it belongs to.  A record is
read from a JSON document, whose further members are kept, and `document` writes it
back: the declared members in order, then the further ones, without nulls.
-/

namespace Turnstile

/-- What is known of an address. -/
structure Record where
  query : Wording
  status : Wording
  message : Option Wording
  country : Option Wording
  countryCode : Option Wording
  org : Option Wording
  isp : Option Wording
  proxy : Option Bool
  hosting : Option Bool
  reverse : Option Wording
  /-- Further members of the document. -/
  extra : Members Json

namespace Record

/-- The status of a lookup that succeeded. -/
def success : String := "success"

/-- The status of a lookup that failed. -/
def failure : String := "fail"

/-- Words for a set flag. -/
def trueWords : List String := ["1", "t", "y", "on", "yes", "true"]

/-- Words for a flag that is not set. -/
def falseWords : List String := ["0", "f", "n", "no", "off", "false"]

/-- The flag that a word stands for in any ASCII case. -/
def flagOfWord? (word : String) : Option Bool :=
  let lowered := String.ofList (word.toList.map Char.toLower)
  if trueWords.contains lowered then some true
  else if falseWords.contains lowered then some false
  else none

/-- The flag that a whole number stands for. -/
def flagOfInt? (n : Int) : Option Bool :=
  if n = 1 then some true else if n = 0 then some false else none

/-- The bound of numbers that are looked at as flags: two to the 63rd. -/
def flagBound : Int := 9223372036854775808

/-- A flag or null; words and the numbers zero and one stand for flags too. -/
def flag (path : List PathStep) (v : Json) : Checked (Option Bool) :=
  let read := fun (found : Option Bool) =>
    match found with
    | some b => Checked.clean (some b)
    | none => Checked.flawed none path .unreadableFlag
  match v with
  | .null => Checked.clean none
  | .bool b => Checked.clean (some b)
  | .string s => read (flagOfWord? s)
  | .int n =>
    if -flagBound ≤ n && n < flagBound then read (flagOfInt? n)
    else Checked.flawed none path .notFlag
  | .float x =>
    match x.toInt? with
    | some n =>
      if -flagBound < n && n < flagBound then read (flagOfInt? n)
      else Checked.flawed none path .notFlag
    | none => Checked.flawed none path .notFlag
  | _ => Checked.flawed none path .notFlag

/-- The names of the declared members, in order. -/
def declared : List String :=
  ["query", "status", "message", "country", "countryCode", "org", "isp", "proxy", "hosting",
    "reverse"]

/-- Checks the members of a document. -/
def check (ms : Members Json) : Checked Record := do
  let query ← Checked.field ms ["query"] (.whole "") Checked.wording
  let status ← Checked.field ms ["status"] (.whole failure) Checked.wording
  let message ← Checked.field ms ["message"] none Checked.optionalWording
  let country ← Checked.field ms ["country"] none Checked.optionalWording
  let countryCode ← Checked.field ms ["countryCode"] none Checked.optionalWording
  let org ← Checked.field ms ["org"] none Checked.optionalWording
  let isp ← Checked.field ms ["isp"] none Checked.optionalWording
  let proxy ← Checked.field ms ["proxy"] none flag
  let hosting ← Checked.field ms ["hosting"] none flag
  let reverse ← Checked.field ms ["reverse"] none Checked.optionalWording
  return {
    query, status, message, country, countryCode, org, isp, proxy, hosting, reverse
    extra := ms.filter fun (name, _) => !declared.contains name }

/-- Reads a record from the members of a document. -/
def ofMembers (ms : Members Json) : Except (List Flaw) Record := (check ms).result

/-- Reads a record from a document. -/
def decode : Json → Except (List Flaw) Record
  | .object ms => ofMembers ms
  | _ => .error [⟨[], .notRecord⟩]

/-- A text or null as a value. -/
def textValue : Option String → Json
  | some s => .string s
  | none => .null

/-- A text with or without halves of surrogate pairs, or null, as a value. -/
def wordingValue : Option Wording → Json
  | some text => .ofWording text
  | none => .null

/-- A flag or null as a value. -/
def flagValue : Option Bool → Json
  | some b => .bool b
  | none => .null

/-- The declared members with their values. -/
def declaredMembers (r : Record) : Members Json :=
  [("query", .ofWording r.query), ("status", .ofWording r.status),
    ("message", wordingValue r.message), ("country", wordingValue r.country),
    ("countryCode", wordingValue r.countryCode), ("org", wordingValue r.org),
    ("isp", wordingValue r.isp), ("proxy", flagValue r.proxy), ("hosting", flagValue r.hosting),
    ("reverse", wordingValue r.reverse)]

/-- The document of a record. -/
def document (r : Record) : Members Json :=
  (r.declaredMembers ++ r.extra).filter fun (_, value) => !value.unnamed.isNull

/-- The lookup of the record succeeded. -/
def isSuccess (r : Record) : Bool := r.status == .whole success

/-- The record of an address that could not be looked up. -/
def fallback (address : String) (message : Option String) : Record where
  query := .whole address
  status := .whole failure
  message := message.map .whole
  country := some (.whole "unknown")
  countryCode := some (.whole "XX")
  org := none
  isp := none
  proxy := none
  hosting := none
  reverse := none
  extra := []

/-- The message of a record whose lookup failed. -/
def failureMessage : String := "ip-api error"

end Record

end Turnstile
