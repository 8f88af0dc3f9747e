import Turnstile.Json.Basic

/-!
# Checked documents

A document with a fixed set of members is checked as a whole: every member that does
not have its form is a flaw, and all flaws are reported in the order of the members.
-/

namespace Turnstile

/-- What a member should have been, or how it fails to be it. -/
inductive FlawKind where
  | notText
  | notObject
  | notList
  | notFlag
  | unreadableFlag
  | notNumber
  | unreadableNumber
  | notPositive
  | notInteger
  | unreadableInteger
  | fractionalInteger
  | infiniteInteger
  | hugeInteger
  | notRecord
  | notDocument
  | missing
  | malformed
  deriving DecidableEq, Repr

/-- The code under which a kind of flaw is reported. -/
def FlawKind.code : FlawKind → String
  | .notText => "string_type"
  | .notObject => "dict_type"
  | .notList => "list_type"
  | .notFlag => "bool_type"
  | .unreadableFlag => "bool_parsing"
  | .notNumber => "float_type"
  | .unreadableNumber => "float_parsing"
  | .notPositive => "greater_than"
  | .notInteger => "int_type"
  | .unreadableInteger => "int_parsing"
  | .fractionalInteger => "int_from_float"
  | .infiniteInteger => "finite_number"
  | .hugeInteger => "int_parsing_size"
  | .notRecord => "model_type"
  | .notDocument => "model_attributes_type"
  | .missing => "missing"
  | .malformed => "json_invalid"

/-- A step to a member of an object or to an item of a list. -/
inductive PathStep where
  | name (name : String)
  | index (place : Nat)
  deriving DecidableEq, Repr

instance : Coe String PathStep := ⟨.name⟩

/-- A member that does not have its form. -/
structure Flaw where
  path : List PathStep
  kind : FlawKind
  deriving DecidableEq, Repr

/-- A value together with the flaws found while reading it. -/
structure Checked (α : Type) where
  value : α
  flaws : List Flaw

namespace Checked

variable {α β : Type}

/-- A value without flaws. -/
def clean (value : α) : Checked α := ⟨value, []⟩

/-- A stand-in for a value with one flaw. -/
def flawed (standIn : α) (path : List PathStep) (kind : FlawKind) : Checked α :=
  ⟨standIn, [⟨path, kind⟩]⟩

/-- Checks one thing after another. -/
def bind (x : Checked α) (f : α → Checked β) : Checked β :=
  ⟨(f x.value).value, x.flaws ++ (f x.value).flaws⟩

instance : Monad Checked where
  pure := clean
  bind := bind

/-- The value, if it has no flaws. -/
def result (x : Checked α) : Except (List Flaw) α :=
  if x.flaws.isEmpty then .ok x.value else .error x.flaws

/-- A text, shown without halves of surrogate pairs. -/
def text (path : List PathStep) : Json → Checked String
  | .string s => clean s
  | .halved t => clean t.shown
  | _ => flawed "" path .notText

/-- A text as it is. -/
def wording (path : List PathStep) : Json → Checked Wording
  | .string s => clean (.whole s)
  | .halved t => clean (.halved t)
  | _ => flawed (.whole "") path .notText

/-- A text as it is, or null. -/
def optionalWording (path : List PathStep) : Json → Checked (Option Wording)
  | .null => clean none
  | .string s => clean (some (.whole s))
  | .halved t => clean (some (.halved t))
  | _ => flawed none path .notText

/-- A text or null. -/
def optionalText (path : List PathStep) : Json → Checked (Option String)
  | .null => clean none
  | .string s => clean (some s)
  | .halved t => clean (some t.shown)
  | _ => flawed none path .notText

/-- Values by name, whatever the names are. -/
def valuesOf (ms : Members Json) : Members Json := ms.map fun (name, value) => (name, value.unnamed)

/-- An object. -/
def members (path : List PathStep) : Json → Checked (Members Json)
  | .object ms => clean (valuesOf ms)
  | _ => flawed [] path .notObject

/-- An object or null. -/
def optionalMembers (path : List PathStep) : Json → Checked (Option (Members Json))
  | .null => clean none
  | .object ms => clean (some (valuesOf ms))
  | _ => flawed none path .notObject

/-- Members whose values are texts. -/
def textMembers (path : List PathStep) : Members Json → Checked (Members String)
  | [] => clean []
  | (name, value) :: rest => do
    let first ← text (path ++ [.name name]) value.unnamed
    return (name, first) :: (← textMembers path rest)

/-- An object whose values are texts. -/
def textsByName (path : List PathStep) : Json → Checked (Members String)
  | .object ms => textMembers path ms
  | _ => flawed [] path .notObject

/-- Texts, from a place in a list on. -/
def textItems (path : List PathStep) (place : Nat) : List Json → Checked (List String)
  | [] => clean []
  | item :: rest => do
    let first ← text (path ++ [.index place]) item
    return first :: (← textItems path (place + 1) rest)

/-- A list of texts. -/
def texts (path : List PathStep) : Json → Checked (List String)
  | .array items => textItems path 0 items
  | _ => flawed [] path .notList

/-- A member that may be left out: under the first of its names that is there. -/
def field (ms : Members Json) (names : List String) (absent : α)
    (read : List PathStep → Json → Checked α) : Checked α :=
  match names.findSome? fun name => (Members.get? ms name).map fun value => (name, value) with
  | some (name, value) => read [.name name] value
  | none => clean absent

end Checked

end Turnstile
