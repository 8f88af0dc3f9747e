import Turnstile.Intel.Record
import Turnstile.Json.Display
import Turnstile.Net.Address
import Turnstile.Text.Case

/-!
# Traits of addresses

Whether an address belongs to a proxy, a private network or a hosting provider, the name
of that network, and the country.  Traits are read from a record or from any raw
document, in which flags and texts may have other forms.
-/

namespace Turnstile

/-- What conditions look at in a record. -/
structure Traits where
  /-- The record says that the address is a proxy or is hosted. -/
  isFlagged : Bool
  org : String
  isp : String
  countryCode : String
  deriving DecidableEq, Repr

namespace Traits

/-- The text of a raw member. -/
def rawText : Json → String
  | .null => ""
  | v => v.display

/-- The traits of a raw document. -/
def ofJson (v : Json) : Traits where
  isFlagged := (v.member "proxy").isTruthy || (v.member "hosting").isTruthy
  org := rawText (v.member "org")
  isp := rawText (v.member "isp")
  countryCode := rawText (v.member "countryCode")

/-- The text of a member of a record, empty if it is not there. -/
def shownText : Option Wording → String
  | some text => text.shown
  | none => ""

/-- The traits of a record. -/
def ofRecord (r : Record) : Traits where
  isFlagged := r.proxy.getD false || r.hosting.getD false
  org := shownText r.org
  isp := shownText r.isp
  countryCode := shownText r.countryCode

/-- Words in the names of networks that hide or host visitors. -/
def hostingWords : List String :=
  ["vpn", "virtual private network", "proxy", "tor", "exit node", "colo", "colocation",
    "datacenter", "data center", "hosting", "cloud", "vps", "digitalocean", "linode", "vultr",
    "ovh", "hetzner", "google cloud", "google llc", "amazon", "aws", "amazon web services",
    "microsoft azure", "azure", "choopa", "leaseweb", "contabo", "upcloud", "ikoula",
    "scaleway"]

/-- The names of the networks in lowercase. -/
def networkNames (t : Traits) : String := Text.lower t.org ++ " " ++ Text.lower t.isp

/-- The address is flagged, or its network has a name that says so. -/
def isHidden (t : Traits) : Bool :=
  t.isFlagged || hostingWords.any fun word => Text.isPart word.toList t.networkNames.toList

/-- The name of the network of a hidden address, empty for any other. -/
def networkName (t : Traits) : String :=
  if t.isHidden then if t.org = "" then t.isp else t.org else ""

/-- The text of whether an address is hidden. -/
def hiddenText (t : Traits) : String := if t.isHidden then "true" else "false"

/-- The country of addresses that are not public. -/
def localCountry : String := "localhost"

/-- The country of an address with these traits. -/
def country (t : Traits) (address : String) : String :=
  if Address.isLocalText address then localCountry else t.countryCode

end Traits

end Turnstile
