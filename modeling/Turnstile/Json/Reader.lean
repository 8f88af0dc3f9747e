import Turnstile.Json.Basic
import Turnstile.Text.Numeral

/-!
# Reading JSON documents

The grammar of JSON, with three additions for numbers (`NaN`, `Infinity` and
`-Infinity`).  A number without fraction and exponent is an integer, of at most 4300
digits; any other is rounded to a double.  Control characters are not allowed inside
strings.  A repeated member name keeps its first position and takes its last value.
Half of a surrogate pair that is escaped without the other half is kept as it is.

Every reader takes the text that is left and returns what it leaves.
-/

namespace Turnstile.Json

/-- The blanks between tokens. -/
def isSpacing (c : Char) : Bool := c == ' ' || c == '\t' || c == '\n' || c == '\r'

/-- Skips the blanks between tokens. -/
def skipSpacing (cs : List Char) : List Char := cs.dropWhile isSpacing

/-- The number written by decimal digits. -/
def digitsValue (cs : List Char) : Nat := cs.foldl (fun n c => 10 * n + (c.toNat - 48)) 0

/-- The value of a hexadecimal digit. -/
def hexDigit? (c : Char) : Option Nat :=
  if '0' ≤ c && c ≤ '9' then some (c.toNat - 48)
  else if 'a' ≤ c && c ≤ 'f' then some (c.toNat - 87)
  else if 'A' ≤ c && c ≤ 'F' then some (c.toNat - 55)
  else none

/-- The value of four hexadecimal digits. -/
def hexUnit? (a b c d : Char) : Option Nat := do
  return ((← hexDigit? a) * 16 + (← hexDigit? b)) * 256 + (← hexDigit? c) * 16 + (← hexDigit? d)

/-- The character that a letter after a backslash stands for. -/
def shortEscape? (c : Char) : Option Char :=
  match c with
  | '"' => some '"'
  | '\\' => some '\\'
  | '/' => some '/'
  | 'b' => some (Char.ofNat 8)
  | 'f' => some (Char.ofNat 12)
  | 'n' => some '\n'
  | 'r' => some '\r'
  | 't' => some '\t'
  | _ => none

/-- What a string is made of between its quotes. -/
inductive Piece where
  /-- A character, plain or escaped by a letter. -/
  | char (c : Char)
  /-- A UTF-16 unit escaped by its code. -/
  | unit (code : Nat)

/-- What a piece stands for on its own. -/
def Piece.point : Piece → CodePoint
  | .char c => .char c
  | .unit code => .ofUnit code

/-- One more piece in front of what was read. -/
def withPiece (piece : Piece) : Option (List Piece × List Char) → Option (List Piece × List Char)
  | some (read, rest) => some (piece :: read, rest)
  | none => none

/-- The pieces up to the closing quote, and what follows it. -/
def readPieces : List Char → Option (List Piece × List Char)
  | [] => none
  | '"' :: rest => some ([], rest)
  | '\\' :: 'u' :: a :: b :: c :: d :: rest =>
    match hexUnit? a b c d with
    | some code => withPiece (.unit code) (readPieces rest)
    | none => none
  | '\\' :: c :: rest =>
    match shortEscape? c with
    | some e => withPiece (.char e) (readPieces rest)
    | none => none
  | c :: rest => if c.toNat < 32 then none else withPiece (.char c) (readPieces rest)

/-- The text up to the closing quote, and what follows it. -/
def readString (cs : List Char) : Option (Wording × List Char) :=
  (readPieces cs).map fun (pieces, rest) => (.ofPoints (pieces.map Piece.point), rest)

/-- A decimal digit of ASCII. -/
def isDecimal (c : Char) : Bool := '0' ≤ c && c ≤ '9'

/-- The integer part of a number: a lone zero, or digits that do not start with one. -/
def readIntegerPart : List Char → Option (List Char × List Char)
  | '0' :: rest => some (['0'], rest)
  | c :: rest =>
    if isDecimal c then some (c :: rest.takeWhile isDecimal, rest.dropWhile isDecimal) else none
  | [] => none

/-- A point and at least one digit, if they come next. -/
def readFraction : List Char → List Char × List Char
  | '.' :: rest =>
    if (rest.takeWhile isDecimal).isEmpty then ([], '.' :: rest)
    else (rest.takeWhile isDecimal, rest.dropWhile isDecimal)
  | cs => ([], cs)

/-- An exponent with at least one digit, if it comes next. -/
def readExponent (cs : List Char) : Option (Int × List Char) :=
  match cs with
  | e :: rest =>
    if e == 'e' || e == 'E' then
      let (negative, digits) :=
        match rest with
        | '-' :: more => (true, more)
        | '+' :: more => (false, more)
        | more => (false, more)
      let written := digits.takeWhile isDecimal
      if written.isEmpty then none
      else
        let size : Int := digitsValue written
        some (if negative then -size else size, digits.dropWhile isDecimal)
    else none
  | [] => none

/-- A number after its sign. -/
def readUnsigned (negative : Bool) (cs : List Char) : Option (Json × List Char) :=
  match readIntegerPart cs with
  | none => none
  | some (whole, afterWhole) =>
    let (fraction, afterFraction) := readFraction afterWhole
    match readExponent afterFraction with
    | some (exponent, rest) =>
      some (.float (Double.ofDecimal negative (digitsValue (whole ++ fraction))
        (exponent - fraction.length)), rest)
    | none =>
      if fraction.isEmpty then
        if whole.length ≤ Text.maxIntegerDigits then
          let size : Int := digitsValue whole
          some (.int (if negative then -size else size), afterFraction)
        else none
      else
        some (.float (Double.ofDecimal negative (digitsValue (whole ++ fraction))
          (-(fraction.length : Int))), afterFraction)

/-- The text after `word`, if it starts with it. -/
def expect? (word : List Char) (cs : List Char) : Option (List Char) :=
  if word.isPrefixOf cs then some (cs.drop word.length) else none

/-- A word that stands for a value, or a number. -/
def readScalar (cs : List Char) : Option (Json × List Char) :=
  match cs with
  | 'n' :: _ => (expect? "null".toList cs).map ((.null, ·))
  | 't' :: _ => (expect? "true".toList cs).map ((.bool true, ·))
  | 'f' :: _ => (expect? "false".toList cs).map ((.bool false, ·))
  | 'N' :: _ => (expect? "NaN".toList cs).map ((.float .nan, ·))
  | 'I' :: _ => (expect? "Infinity".toList cs).map ((.float (.infinite false), ·))
  | '-' :: rest =>
    match expect? "Infinity".toList rest with
    | some after => some (.float (.infinite true), after)
    | none => readUnsigned true rest
  | _ => readUnsigned false cs

mutual

/-- A value at the head of the text. -/
def readValue : Nat → List Char → Option (Json × List Char)
  | 0, _ => none
  | depth + 1, cs =>
    match cs with
    | '"' :: rest => (readString rest).map fun (text, after) => (ofWording text, after)
    | '[' :: rest =>
      match skipSpacing rest with
      | ']' :: after => some (.array [], after)
      | inner => (readItems depth inner).map fun (items, after) => (.array items, after)
    | '{' :: rest =>
      match skipSpacing rest with
      | '}' :: after => some (.object [], after)
      | inner =>
        (readMembers depth inner).map fun (members, after) =>
          (.object (Members.ofList members), after)
    | _ => readScalar cs

/-- The items of an array up to its closing bracket. -/
def readItems : Nat → List Char → Option (List Json × List Char)
  | 0, _ => none
  | depth + 1, cs =>
    match readValue depth cs with
    | none => none
    | some (item, rest) =>
      match skipSpacing rest with
      | ']' :: after => some ([item], after)
      | ',' :: more =>
        (readItems depth (skipSpacing more)).map fun (items, after) => (item :: items, after)
      | _ => none

/-- The members of an object up to its closing brace. -/
def readMembers : Nat → List Char → Option (Members Json × List Char)
  | 0, _ => none
  | depth + 1, cs =>
    match cs with
    | '"' :: quoted =>
      match readString quoted with
      | none => none
      | some (name, rest) =>
        match skipSpacing rest with
        | ':' :: valueText =>
          match readValue depth (skipSpacing valueText) with
          | none => none
          | some (value, afterValue) =>
            match skipSpacing afterValue with
            | '}' :: after => some ([named name value], after)
            | ',' :: more =>
              (readMembers depth (skipSpacing more)).map fun (members, after) =>
                (named name value :: members, after)
            | _ => none
        | _ => none
    | _ => none

end

/-- The document written by a list of characters. -/
def readChars (cs : List Char) : Option Json :=
  match readValue (2 * cs.length + 2) (skipSpacing cs) with
  | some (v, rest) => if (skipSpacing rest).isEmpty then some v else none
  | none => none

/-- The document written by a text; a byte order mark is not part of one. -/
def read? (text : String) : Option Json := readChars text.toList

end Turnstile.Json
