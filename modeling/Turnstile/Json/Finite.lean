import Turnstile.Json.Basic

/-!
# Finite documents

A document for callers holds no number without a finite value: null stands in its place.
-/

namespace Turnstile.Json

/-- A double as a value, null if it is not finite. -/
def finiteNumber : Double → Json
  | .nan | .infinite _ => .null
  | x => .float x

mutual

/-- A value with null for every number that is not finite. -/
def finite : Json → Json
  | .float x => finiteNumber x
  | .array items => .array (finiteItems items)
  | .object members => .object (finiteMembers members)
  | .misnamed name value => .misnamed name (finite value)
  | v => v

/-- The items of an array with null for every number that is not finite. -/
def finiteItems : List Json → List Json
  | [] => []
  | v :: rest => finite v :: finiteItems rest

/-- The members of an object with null for every number that is not finite. -/
def finiteMembers : List (String × Json) → List (String × Json)
  | [] => []
  | (name, v) :: rest => (name, finite v) :: finiteMembers rest

end

end Turnstile.Json
