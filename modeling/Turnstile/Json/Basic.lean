import Turnstile.Number.Double
import Turnstile.Text.Wording

/-!
# JSON values

Integers are exact and distinct from doubles, and the members of an object keep their
order.  `Members.set` is how a repeated name is read: the first position and the last
value.

**Halves of surrogate pairs.**  A string or the name of a member may hold one.  Such a
member stands in an object under the label of its name, and its value says what the name
is; nowhere else is a value wrapped like that.
-/

namespace Turnstile

/-- A JSON value. -/
inductive Json where
  | null
  | bool (b : Bool)
  | int (n : Int)
  | float (x : Double)
  | string (s : String)
  /-- A string with halves of surrogate pairs. -/
  | halved (t : HalvedText)
  | array (items : List Json)
  | object (members : List (String × Json))
  /-- The value of a member whose name has halves of surrogate pairs. -/
  | misnamed (name : HalvedText) (value : Json)

namespace Json

instance : Inhabited Json := ⟨.null⟩

/-- A text as a value. -/
def ofWording : Wording → Json
  | .whole s => .string s
  | .halved t => .halved t

/-- A value as a member with a name. -/
def named : Wording → Json → String × Json
  | .whole name, value => (name, value)
  | .halved name, value => (name.label, .misnamed name value)

/-- The value of a member, whatever the name is. -/
@[simp] def unnamed : Json → Json
  | .misnamed _ value => value
  | value => value

end Json

/-- Named values in order. -/
abbrev Members (α : Type) := List (String × α)

namespace Members

variable {α : Type}

/-- The value under a name. -/
def get? (members : Members α) (name : String) : Option α :=
  (members.find? (·.1 == name)).map (·.2)

/-- A value under a name: in the place of an earlier one, else at the end. -/
def set (members : Members α) (name : String) (value : α) : Members α :=
  match members with
  | [] => [(name, value)]
  | (n, v) :: rest => if n == name then (n, value) :: rest else (n, v) :: set rest name value

/-- Each name once, at its first position with its last value. -/
def ofList (pairs : Members α) : Members α :=
  pairs.foldl (fun acc pair => acc.set pair.1 pair.2) []

/-- The members of `upper` laid over those of `base`. -/
def overlay (base upper : Members α) : Members α :=
  upper.foldl (fun acc pair => acc.set pair.1 pair.2) base

/-- The members without a name. -/
def erase (members : Members α) (name : String) : Members α :=
  members.filter (·.1 != name)

end Members

namespace Json

/-- The member of an object under a name; anything else has no members. -/
def member? : Json → String → Option Json
  | .object members, name => Members.get? members name
  | _, _ => none

/-- The member of an object under a name, or null. -/
def member (v : Json) (name : String) : Json := (v.member? name).getD .null

/-- Neither null, false, zero nor empty. -/
def isTruthy : Json → Bool
  | .null => false
  | .bool b => b
  | .int n => n != 0
  | .float x => !Double.sameNumber x Double.zero
  | .string s => s != ""
  | .array items => !items.isEmpty
  | .object members => !members.isEmpty
  | .halved _ | .misnamed .. => true

/-- The value holds others. -/
def isNested : Json → Bool
  | .array _ | .object _ => true
  | _ => false

/-- Values by induction on the items and members in them. -/
theorem induction {motive : Json → Prop}
    (null : motive .null)
    (bool : ∀ b, motive (.bool b))
    (int : ∀ n, motive (.int n))
    (float : ∀ x, motive (.float x))
    (string : ∀ s, motive (.string s))
    (halved : ∀ t, motive (.halved t))
    (array : ∀ items, (∀ item ∈ items, motive item) → motive (.array items))
    (object : ∀ members : Members Json, (∀ member ∈ members, motive member.2) →
      motive (.object members))
    (misnamed : ∀ name value, motive value → motive (.misnamed name value))
    (v : Json) : motive v := by
  refine @Json.rec motive (fun items => ∀ item ∈ items, motive item)
    (fun members => ∀ member ∈ members, motive member.2) (fun member => motive member.2)
    null bool int float string halved array object misnamed ?_ ?_ ?_ ?_ ?_ v
  · exact nofun
  · exact fun item items hitem hitems => List.forall_mem_cons.mpr ⟨hitem, hitems⟩
  · exact nofun
  · exact fun member members hmember hmembers => List.forall_mem_cons.mpr ⟨hmember, hmembers⟩
  · exact fun name value hvalue => hvalue

/-- The value is null. -/
def isNull : Json → Bool
  | .null => true
  | _ => false

end Json

end Turnstile
