import Turnstile.Pattern.Token
import Turnstile.Json.Reader
import Turnstile.Text.CharacterName

/-!
# Reading a pattern: escapes and sets

A backslash before a letter names a class, an anchor or a control character, before
digits a code or a group, before anything else the character itself.  A character can also
be given by its code or by its name.
-/

namespace Turnstile.Pattern

/-- What an escape stands for. -/
inductive Escape where
  | code (code : Nat)
  | category (kind : Category) (negated : Bool)
  | anchor (kind : Char)
  | group (index : Nat) (width : Nat × Option Nat)

/-- The number of octal digits. -/
def octalValue (cs : List Char) : Nat := cs.foldl (fun n c => 8 * n + (c.toNat - 48)) 0

/-- The number of hexadecimal digits. -/
def hexValue (cs : List Char) : Nat :=
  cs.foldl (fun n c => 16 * n + (Json.hexDigit? c).getD 0) 0

/-- An octal digit. -/
def isOctal (c : Char) : Bool := '0' ≤ c && c ≤ '7'

/-- An ASCII letter. -/
def isAsciiLetter (c : Char) : Bool := ('a' ≤ c && c ≤ 'z') || ('A' ≤ c && c ≤ 'Z')

/-- The class that a letter names. -/
def category? (c : Char) : Option Escape :=
  match c with
  | 'd' => some (.category .digit false)
  | 'D' => some (.category .digit true)
  | 's' => some (.category .space false)
  | 'S' => some (.category .space true)
  | 'w' => some (.category .word false)
  | 'W' => some (.category .word true)
  | _ => none

/-- The control character that a letter names. -/
def control? (c : Char) : Option Nat :=
  match c with
  | 'a' => some 7
  | 'b' => some 8
  | 'f' => some 12
  | 'n' => some 10
  | 'r' => some 13
  | 't' => some 9
  | 'v' => some 11
  | '\\' => some 92
  | _ => none

/-- The greatest code point. -/
def maxCode : Nat := 0x10FFFF

/-- A code written in exactly `digits` hexadecimal digits. -/
def readHex (digits : Nat) : Reader Escape := do
  let cs ← Reader.takeWhile (fun c => (Json.hexDigit? c).isSome) digits
  if cs.length == digits && hexValue cs ≤ maxCode then return .code (hexValue cs)
  else Reader.fail

/-- A character given by its name in braces. -/
def readNamed : Reader Escape := do
  if ← Reader.accept '{' then
    match Text.characterOfName? (← Reader.takeUntil '\x7d') with
    | some code => return .code code
    | none => Reader.fail
  else Reader.fail

/-- An escape that means the same inside and outside of sets. -/
def readCommon (c : Char) : Reader Escape :=
  if c == 'x' then readHex 2
  else if c == 'u' then readHex 4
  else if c == 'U' then readHex 8
  else if c == 'N' then readNamed
  else if isAsciiLetter c || Json.isDecimal c then Reader.fail
  else return .code c.toNat

/-- A code in octal digits of which the first are given, within one byte. -/
def octalCode (cs : List Char) : Reader Escape :=
  if octalValue cs ≤ 0o377 then return .code (octalValue cs) else Reader.fail

/-- The escape of a character inside a set. -/
def readSetEscape (c : Char) : Reader Escape := do
  match control? c, category? c with
  | some code, _ => return .code code
  | none, some escape => return escape
  | none, none =>
    if isOctal c then
      let more ← Reader.takeWhile isOctal 2
      octalCode (c :: more)
    else readCommon c

/-- A reference to a group by its number. -/
def groupReference (index : Nat) : Reader Escape := do
  let width ← Reader.closedGroup index
  Reader.checkUse index
  return .group index width

/-- Digits that do not start with a zero: three octal digits are a code, others a group. -/
def readDigits (c : Char) : Reader Escape := do
  let second ← Reader.takeWhile Json.isDecimal 1
  match second with
  | [d] =>
    if isOctal c && isOctal d then
      let third ← Reader.takeWhile isOctal 1
      if third.isEmpty then groupReference (Json.digitsValue [c, d])
      else octalCode (c :: d :: third)
    else groupReference (Json.digitsValue [c, d])
  | _ => groupReference (Json.digitsValue [c])

/-- The escape of a character outside of sets. -/
def readEscape (c : Char) : Reader Escape := do
  if c == 'A' || c == 'b' || c == 'B' || c == 'Z' then return .anchor c
  match category? c, control? c with
  | some escape, _ => return escape
  | none, some code => return .code code
  | none, none =>
    if c == '0' then
      let more ← Reader.takeWhile isOctal 2
      return .code (octalValue (c :: more))
    else if Json.isDecimal c then readDigits c
    else readCommon c

/-- What an escape adds to a set. -/
def Escape.setItem? : Escape → Option SetItem
  | .code value => some (.char value)
  | .category kind negated => some (.category kind negated)
  | _ => none

/-- One entry of a set, without a range. -/
def readSetItem : Token → Reader SetItem
  | .plain c => return .char c.toNat
  | .escaped c => do
    match (← readSetEscape c).setItem? with
    | some item => return item
    | none => Reader.fail

/-- The range between two entries. -/
def rangeItem? : SetItem → SetItem → Option SetItem
  | .char first, .char last => if first ≤ last then some (.range first last) else none
  | _, _ => none

/-- The entries of a set up to its closing bracket; a bracket that comes first is an entry. -/
def readSetItems : Nat → List SetItem → Reader (List SetItem)
  | 0, _ => Reader.fail
  | fuel + 1, items => do
    match ← Reader.take with
    | none => Reader.fail
    | some token =>
      if token == .plain ']' && !items.isEmpty then return items
      else
        let item ← readSetItem token
        if ← Reader.accept '-' then
          match ← Reader.take with
          | none => Reader.fail
          | some (.plain ']') => return items ++ [item, .char 45]
          | some other =>
            match rangeItem? item (← readSetItem other) with
            | some range => readSetItems fuel (items ++ [range])
            | none => Reader.fail
        else readSetItems fuel (items ++ [item])

/-- Entries without repetition. -/
def distinctItems (items : List SetItem) : List SetItem :=
  items.foldl (fun kept item => if kept.contains item then kept else kept ++ [item]) []

/-- A set after its opening bracket. -/
def readSet (options : Options) : Reader Node := do
  let negated ← Reader.accept '^'
  let items := distinctItems (← readSetItems ((← get).rest.length + 1) [])
  match items with
  | [.char code] => return .one (.literal options.fold negated code)
  | _ => return .one (.set options.fold options.ascii negated items)

end Turnstile.Pattern
