import Turnstile.Json.Basic
import Turnstile.Text.Blank

/-!
# Cookies

A cookie header holds pairs between semicolons; name and value are trimmed, and a pair
without a name is dropped.
-/

namespace Turnstile.Cookies

/-- Name and value of a pair. -/
def pair (cs : List Char) : String × String :=
  let (name, value) := Text.cut '=' cs
  (String.ofList (Text.trimmed name), String.ofList (Text.trimmed (value.getD [])))

/-- The cookies of a header; a repeated name keeps its first position and its last value. -/
def ofHeader (header : String) : Members String :=
  Members.ofList (((Text.pieces ';' header.toList).map pair).filter (·.1 != ""))

end Turnstile.Cookies
