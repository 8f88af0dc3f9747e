/-!
# Base64

Each digit stands for six bits, and four digits for three bytes; a group of two or three
digits is filled up with padding.  `decode` reads strictly:

* nothing but digits and padding may occur, and padding may not come first;
* no digit may follow padding, and nothing may follow padding that completes a group;
* a group is complete at the end, where padding counts once two digits are there.
-/

namespace Turnstile.Base64

/-- Why a text cannot be decoded. -/
inductive Flaw where
  | notAscii
  | foreignCharacter
  | leadingPadding
  | dataAfterPadding
  | brokenPadding
  /-- One digit is left over of so many. -/
  | lonelyDigit (digits : Nat)
  | missingPadding
  deriving DecidableEq, Repr

/-- The text of a flaw. -/
def Flaw.message : Flaw → String
  | .notAscii => "string argument should contain only ASCII characters"
  | .foreignCharacter => "Only base64 data is allowed"
  | .leadingPadding => "Leading padding not allowed"
  | .dataAfterPadding => "Excess data after padding"
  | .brokenPadding => "Discontinuous padding not allowed"
  | .lonelyDigit digits =>
    "Invalid base64-encoded string: number of data characters (" ++ toString digits
      ++ ") cannot be 1 more than a multiple of 4"
  | .missingPadding => "Incorrect padding"

/-- The value of a digit. -/
def digit? (c : Char) : Option Nat :=
  let n := c.toNat
  if 65 ≤ n && n ≤ 90 then some (n - 65)
  else if 97 ≤ n && n ≤ 122 then some (n - 71)
  else if 48 ≤ n && n ≤ 57 then some (n + 4)
  else if n = 43 then some 62
  else if n = 47 then some 63
  else none

/-- The digit of a value below 64. -/
def digitChar (v : Nat) : Char :=
  if v < 26 then Char.ofNat (v + 65)
  else if v < 52 then Char.ofNat (v + 71)
  else if v < 62 then Char.ofNat (v - 4)
  else if v = 62 then '+'
  else '/'

/-- The whole bytes of a group of up to four digits. -/
def groupBytes : List Nat → List Nat
  | [a, b] => [4 * a + b / 16]
  | [a, b, c] => [4 * a + b / 16, 16 * (b % 16) + c / 4]
  | [a, b, c, d] => [4 * a + b / 16, 16 * (b % 16) + c / 4, 64 * (c % 4) + d]
  | _ => []

/--
Decodes what follows the digits of an open group, where `whole` digits came in groups
before it.  `padded` says that padding came before, and `fill` how much of it counts.
-/
def decodeFrom (whole : Nat) (group : List Nat) (padded : Bool) (fill : Nat) :
    List Char → Except Flaw (List Nat)
  | [] =>
    match group with
    | [] => .ok []
    | [_] => .error (.lonelyDigit (whole + 1))
    | _ => .error .missingPadding
  | c :: rest =>
    if c = '=' then
      if group.length < 2 then decodeFrom whole group true fill rest
      else if group.length + fill + 1 < 4 then decodeFrom whole group true (fill + 1) rest
      else if rest.isEmpty then .ok (groupBytes group)
      else .error .dataAfterPadding
    else
      match digit? c with
      | none => .error .foreignCharacter
      | some v =>
        if padded then .error .brokenPadding
        else if group.length < 3 then decodeFrom whole (group ++ [v]) false 0 rest
        else (decodeFrom (whole + 4) [] false 0 rest).map (groupBytes (group ++ [v]) ++ ·)

/-- The bytes that a text stands for. -/
def decode (text : String) : Except Flaw (List Nat) :=
  let cs := text.toList
  if cs.any (127 < ·.toNat) then .error .notAscii
  else if cs.head? = some '=' then .error .leadingPadding
  else decodeFrom 0 [] false 0 cs

/-- The digits of bytes, with padding. -/
def encodeChars : List Nat → List Char
  | a :: b :: c :: rest =>
    digitChar (a / 4) :: digitChar (16 * (a % 4) + b / 16) :: digitChar (4 * (b % 16) + c / 64)
      :: digitChar (c % 64) :: encodeChars rest
  | [a, b] =>
    [digitChar (a / 4), digitChar (16 * (a % 4) + b / 16), digitChar (4 * (b % 16)), '=']
  | [a] => [digitChar (a / 4), digitChar (16 * (a % 4)), '=', '=']
  | [] => []

/-- The text that stands for bytes. -/
def encode (bytes : List Nat) : String := String.ofList (encodeChars bytes)

end Turnstile.Base64
