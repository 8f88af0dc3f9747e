import Turnstile.Json.Basic
import Turnstile.Number.Shortest
import Turnstile.Text.Printable

/-!
# Display texts

The text in which free-form data is shown where a text is wanted: a string as it is,
anything else with nested strings quoted.  A quoted string takes single quotes unless
it holds one and no double quote; what is not printable is escaped by its code.
-/

namespace Turnstile.Json

/-- The lowest `digits` hexadecimal digits of a number. -/
def hexDigits : Nat → Nat → List Char
  | 0, _ => []
  | digits + 1, n =>
    let d := n / Nat.pow 16 digits % 16
    (if d < 10 then Char.ofNat (48 + d) else Char.ofNat (87 + d)) :: hexDigits digits n

/-- A character inside quotes of a kind. -/
def shownChar (quote c : Char) : List Char :=
  if c = quote || c = '\\' then ['\\', c]
  else if c = '\t' then ['\\', 't']
  else if c = '\n' then ['\\', 'n']
  else if c = '\r' then ['\\', 'r']
  else if Text.isPrintable c.toNat then [c]
  else if c.toNat < 0x100 then '\\' :: 'x' :: hexDigits 2 c.toNat
  else if c.toNat < 0x10000 then '\\' :: 'u' :: hexDigits 4 c.toNat
  else '\\' :: 'U' :: hexDigits 8 c.toNat

/-- A code point inside quotes of a kind; a half of a surrogate pair is not printable. -/
def shownPoint (quote : Char) : CodePoint → List Char
  | .char c => shownChar quote c
  | p => '\\' :: 'u' :: hexDigits 4 p.code

/-- The quotes around some characters. -/
def quoteFor (cs : List Char) : Char :=
  if cs.contains '\'' && !cs.contains '"' then '"' else '\''

/-- A string in quotes. -/
def shownString (s : String) : String :=
  let quote := quoteFor s.toList
  String.ofList (quote :: s.toList.flatMap (shownChar quote) ++ [quote])

/-- A string with halves of surrogate pairs in quotes. -/
def shownHalved (t : HalvedText) : String :=
  let quote := quoteFor (t.points.filterMap CodePoint.char?)
  String.ofList (quote :: t.points.flatMap (shownPoint quote) ++ [quote])

/-- The name of a member in quotes, given its value. -/
def shownName (name : String) : Json → String
  | .misnamed t _ => shownHalved t
  | _ => shownString name

mutual

/-- A value inside another. -/
def shown : Json → String
  | .null => "None"
  | .bool b => if b then "True" else "False"
  | .int n => toString n
  | .float x => x.text
  | .string s => shownString s
  | .halved t => shownHalved t
  | .array items => "[" ++ shownItems items ++ "]"
  | .object members => "\x7b" ++ shownMembers members ++ "\x7d"
  | .misnamed _ value => shown value

/-- Values one after another. -/
def shownItems : List Json → String
  | [] => ""
  | [item] => shown item
  | item :: next :: items => shown item ++ ", " ++ shownItems (next :: items)

/-- Members one after another. -/
def shownMembers : List (String × Json) → String
  | [] => ""
  | [(name, value)] => shownName name value ++ ": " ++ shown value
  | (name, value) :: next :: members =>
    shownName name value ++ ": " ++ shown value ++ ", " ++ shownMembers (next :: members)

end

/-- The display text of a value. -/
def display : Json → String
  | .string s => s
  | .halved t => t.shown
  | v => shown v

end Turnstile.Json
