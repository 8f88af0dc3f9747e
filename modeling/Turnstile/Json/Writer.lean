import Turnstile.Json.Basic
import Turnstile.Number.Shortest
import Turnstile.Text.Numeral

/-!
# Writing JSON documents

A `Layout` says what separates items and names, whether nested values are indented,
and whether characters outside ASCII are escaped.  `compact` is the layout in which
values are compared, `spaced` and `indented` those in which documents are stored.

**What cannot be written.**  Halves of surrogate pairs are always escaped here, but UTF-8
has no form for them, so that a document with one cannot be stored.  Nor can one with an
integer that has too many digits to be read again.
-/

namespace Turnstile.Json

/-- How a document is laid out. -/
structure Layout where
  itemSeparator : String
  nameSeparator : String
  indent : Option Nat
  asciiOnly : Bool

/-- No blanks, ASCII only. -/
def Layout.compact : Layout := ⟨",", ":", none, true⟩

/-- A blank after each separator. -/
def Layout.spaced : Layout := ⟨", ", ": ", none, false⟩

/-- One item a line, two blanks deeper for each level. -/
def Layout.indented : Layout := ⟨",", ": ", some 2, false⟩

/-- One hexadecimal digit. -/
def hexChar (n : Nat) : Char := if n < 10 then Char.ofNat (48 + n) else Char.ofNat (87 + n)

/-- The escape of a UTF-16 unit. -/
def unitEscape (unit : Nat) : List Char :=
  ['\\', 'u', hexChar (unit / 4096 % 16), hexChar (unit / 256 % 16), hexChar (unit / 16 % 16),
    hexChar (unit % 16)]

/-- The escape of a character, as one UTF-16 unit or two. -/
def charEscape (code : Nat) : List Char :=
  if code < 0x10000 then unitEscape code
  else
    unitEscape (0xD800 + (code - 0x10000) / 0x400)
      ++ unitEscape (0xDC00 + (code - 0x10000) % 0x400)

/-- A character inside quotes. -/
def quotedChar (asciiOnly : Bool) (c : Char) : List Char :=
  if c = '"' then ['\\', '"']
  else if c = '\\' then ['\\', '\\']
  else if c = '\n' then ['\\', 'n']
  else if c = '\r' then ['\\', 'r']
  else if c = '\t' then ['\\', 't']
  else if c.toNat = 12 then ['\\', 'f']
  else if c.toNat = 8 then ['\\', 'b']
  else if c.toNat < 32 || (asciiOnly && 126 < c.toNat) then charEscape c.toNat
  else [c]

/-- A quoted text. -/
def quoted (asciiOnly : Bool) (s : String) : String :=
  String.ofList ('"' :: s.toList.flatMap (quotedChar asciiOnly) ++ ['"'])

/-- A code point inside quotes; halves of surrogate pairs are always escaped. -/
def quotedPoint (asciiOnly : Bool) : CodePoint → List Char
  | .char c => quotedChar asciiOnly c
  | p => unitEscape p.code

/-- A quoted text with halves of surrogate pairs. -/
def quotedHalved (asciiOnly : Bool) (t : HalvedText) : String :=
  String.ofList ('"' :: t.points.flatMap (quotedPoint asciiOnly) ++ ['"'])

/-- A double; the values that are no numbers have names. -/
def numberText : Double → String
  | .nan => "NaN"
  | .infinite negative => if negative then "-Infinity" else "Infinity"
  | x => x.text

/-- The line break before an item at a depth, if the layout indents. -/
def Layout.lineBreak (layout : Layout) (depth : Nat) : String :=
  match layout.indent with
  | none => ""
  | some width => "\n" ++ String.ofList (List.replicate (width * depth) ' ')

/-- What stands before a wrapped value that is no member under the label of its name. -/
def misplacedMark : String := "!"

/-- A member with a value whose text is given; a wrapped value under its label is one by itself. -/
def memberWith (layout : Layout) (name : String) (value : Json) (text : String) : String :=
  let pair := quoted layout.asciiOnly name ++ layout.nameSeparator ++ text
  match value with
  | .misnamed t _ =>
    if name = t.label then String.ofList (text.toList.drop misplacedMark.length) else pair
  | _ => pair

mutual

/-- A value inside `depth` brackets. -/
def writeAt (layout : Layout) (depth : Nat) : Json → String
  | .null => "null"
  | .bool b => if b then "true" else "false"
  | .int n => toString n
  | .float x => numberText x
  | .string s => quoted layout.asciiOnly s
  | .halved t => quotedHalved layout.asciiOnly t
  | .array [] => "[]"
  | .array (item :: items) =>
    "[" ++ layout.lineBreak (depth + 1) ++ writeAt layout (depth + 1) item
      ++ writeItems layout (depth + 1) items ++ layout.lineBreak depth ++ "]"
  | .object [] => "\x7b\x7d"
  | .object ((name, value) :: members) =>
    "\x7b" ++ layout.lineBreak (depth + 1)
      ++ memberWith layout name value (writeAt layout (depth + 1) value)
      ++ writeMembers layout (depth + 1) members ++ layout.lineBreak depth ++ "\x7d"
  | .misnamed name value =>
    misplacedMark ++ quotedHalved layout.asciiOnly name ++ layout.nameSeparator
      ++ writeAt layout depth value


/-- Further items, each after a separator. -/
def writeItems (layout : Layout) (depth : Nat) : List Json → String
  | [] => ""
  | item :: items =>
    layout.itemSeparator ++ layout.lineBreak depth ++ writeAt layout depth item
      ++ writeItems layout depth items

/-- Further members, each after a separator. -/
def writeMembers (layout : Layout) (depth : Nat) : List (String × Json) → String
  | [] => ""
  | (name, value) :: members =>
    layout.itemSeparator ++ layout.lineBreak depth
      ++ memberWith layout name value (writeAt layout depth value)
      ++ writeMembers layout depth members

end

/-- The text of a document. -/
def write (layout : Layout) (v : Json) : String := writeAt layout 0 v

/-- An integer is written and read in so many digits at most. -/
def isWritableInt (n : Int) : Bool := (Nat.toDigits 10 n.natAbs).length ≤ Text.maxIntegerDigits

mutual

/-- The value holds no half of a surrogate pair, and no integer with too many digits. -/
def isWritable : Json → Bool
  | .int n => isWritableInt n
  | .halved _ | .misnamed .. => false
  | .array items => areWritable items
  | .object members => membersWritable members
  | _ => true

/-- All items can be written. -/
def areWritable : List Json → Bool
  | [] => true
  | item :: items => isWritable item && areWritable items

/-- All members can be written. -/
def membersWritable : List (String × Json) → Bool
  | [] => true
  | (_, value) :: members => isWritable value && membersWritable members

end

/-- What a store holds of the name of a member; one with halves is not written. -/
def nameAt (layout : Layout) (name : String) : Json → String
  | .misnamed .. => ""
  | _ => quoted layout.asciiOnly name ++ layout.nameSeparator

mutual

/-- What a store holds of a value when writing it stops at a text or an integer, if it does. -/
def partAt (layout : Layout) (depth : Nat) : Json → Option String
  | .int n => if isWritableInt n then none else some ""
  | .halved _ | .misnamed .. => some ""
  | .array items => partOfItems layout (depth + 1) ("[" ++ layout.lineBreak (depth + 1)) items
  | .object members =>
    (partOfMembers layout (depth + 1) (layout.lineBreak (depth + 1)) members).map ("\x7b" ++ ·)
  | _ => none

/-- The same of items, of which the first follows an opening, written with a scalar at once. -/
def partOfItems (layout : Layout) (depth : Nat) (opening : String) : List Json → Option String
  | [] => none
  | item :: items =>
    match partAt layout depth item with
    | some part => some (if item.isNested then opening ++ part else "")
    | none =>
      (partOfItems layout depth (layout.itemSeparator ++ layout.lineBreak depth) items).map
        (opening ++ writeAt layout depth item ++ ·)

/-- The same of members, the first of which follows an opening. -/
def partOfMembers (layout : Layout) (depth : Nat) (opening : String) :
    List (String × Json) → Option String
  | [] => none
  | (name, value) :: members =>
    match partAt layout depth value with
    | some part => some (opening ++ nameAt layout name value ++ part)
    | none =>
      (partOfMembers layout depth (layout.itemSeparator ++ layout.lineBreak depth) members).map
        (opening ++ memberWith layout name value (writeAt layout depth value) ++ ·)

end

theorem partOfItems_eq_none_iff {layout : Layout} {items : List Json} {depth : Nat}
    (h : ∀ item ∈ items, partAt layout depth item = none ↔ item.isWritable = true)
    (opening : String) :
    partOfItems layout depth opening items = none ↔ areWritable items = true := by
  induction items generalizing opening with
  | nil => simp [partOfItems, areWritable]
  | cons item items ih =>
    obtain ⟨hitem, hitems⟩ := List.forall_mem_cons.mp h
    rw [partOfItems, areWritable, Bool.and_eq_true, ← hitem]
    cases partAt layout depth item with
    | none => simp [ih hitems]
    | some part => simp

theorem partOfMembers_eq_none_iff {layout : Layout} {members : List (String × Json)} {depth : Nat}
    (h : ∀ member ∈ members, partAt layout depth member.2 = none ↔ member.2.isWritable = true)
    (opening : String) :
    partOfMembers layout depth opening members = none ↔ membersWritable members = true := by
  induction members generalizing opening with
  | nil => simp [partOfMembers, membersWritable]
  | cons member members ih =>
    obtain ⟨name, value⟩ := member
    obtain ⟨hvalue, hmembers⟩ := List.forall_mem_cons.mp h
    rw [partOfMembers, membersWritable, Bool.and_eq_true, ← hvalue]
    cases partAt layout depth value with
    | none => simp [ih hmembers]
    | some part => simp

/-- Writing a value stops nowhere iff it can be written. -/
theorem partAt_eq_none_iff (layout : Layout) (v : Json) (depth : Nat) :
    partAt layout depth v = none ↔ v.isWritable = true := by
  induction v using Json.induction generalizing depth with
  | int n => by_cases h : isWritableInt n = true <;> simp [partAt, isWritable, h]
  | array items ih =>
    rw [partAt, isWritable]
    exact partOfItems_eq_none_iff (fun item hitem => ih item hitem (depth + 1)) _
  | object members ih =>
    rw [partAt, isWritable, Option.map_eq_none_iff]
    exact partOfMembers_eq_none_iff (fun member hmember => ih member hmember (depth + 1)) _
  | halved | misnamed => simp [partAt, isWritable]
  | _ => simp [partAt, isWritable]

end Turnstile.Json
