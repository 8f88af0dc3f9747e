import Turnstile.Net.Address
import Turnstile.Json.Display
import Turnstile.Text.Case

/-!
# Headers

Names of headers are compared in lowercase, trimmed, and with dashes for underscores.
Several headers name addresses of a visitor behind proxies; `clientAddress` takes the
first public one, and the socket peer if there is none.
-/

namespace Turnstile.Headers

/-- The form in which a header's name is compared. -/
def normalName (name : String) : String :=
  String.ofList ((Text.lower (Text.trim name)).toList.map fun c => if c = '_' then '-' else c)

/-- The text of a header's value. -/
def valueText : Json → String
  | .null => ""
  | v => v.display

/-- Headers under their compared names, a repeated one with its last value. -/
def normalize (headers : Members Json) : Members String :=
  Members.ofList (headers.map fun (name, value) => (normalName name, valueText value))

/-- Headers whose values are texts, under their compared names. -/
def normalizeTexts (headers : Members String) : Members String :=
  Members.ofList (headers.map fun (name, value) => (normalName name, value))

/-- The headers that name addresses, the most trusted first. -/
def forwarding : List String :=
  ["cf-connecting-ip", "true-client-ip", "x-real-ip", "x-forwarded-for", "x-forwarded",
    "forwarded-for", "forwarded"]

/-- The addresses that a header names, in order. -/
def candidates (value : String) : List String :=
  (Text.pieces ',' value.toList).map fun part => String.ofList (Text.trimmed part)

/-- The first public address that normalized headers name. -/
def forwardedAddress? (headers : Members String) : Option String :=
  (forwarding.flatMap fun name => candidates ((headers.get? name).getD "")).find?
    Address.isPublicText

/-- The address of a visitor: forwarded, else of the socket peer. -/
def clientAddress (headers : Members String) (remote : String) : String :=
  (forwardedAddress? headers).getD remote

end Turnstile.Headers
