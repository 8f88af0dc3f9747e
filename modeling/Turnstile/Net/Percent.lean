import Turnstile.Text.Utf8
import Turnstile.Json.Reader

/-!
# Percent-encoding

`encode` keeps ASCII letters, digits and `_ . - ~`, and writes every other byte of the
UTF-8 form as a percent sign with two hexadecimal digits.  `decode` reads such escapes
in stretches of ASCII text; a percent sign without two digits stands for itself.
-/

namespace Turnstile.Percent

/-- A byte that is kept as it is. -/
def isKept (b : Nat) : Bool :=
  (48 ≤ b && b ≤ 57) || (65 ≤ b && b ≤ 90) || (97 ≤ b && b ≤ 122)
    || b == 95 || b == 46 || b == 45 || b == 126

/-- One uppercase hexadecimal digit. -/
def hexChar (n : Nat) : Char := if n < 10 then Char.ofNat (48 + n) else Char.ofNat (55 + n)

/-- A byte in encoded form. -/
def encodeByte (b : Nat) : List Char :=
  if isKept b then [Char.ofNat b] else ['%', hexChar (b / 16), hexChar (b % 16)]

/-- A text in encoded form. -/
def encodeChars (cs : List Char) : List Char := (Utf8.encode cs).flatMap encodeByte

/-- A text in encoded form. -/
def encode (s : String) : String := String.ofList (encodeChars s.toList)

/-- The bytes that ASCII text stands for. -/
def bytes : List Char → List Nat
  | '%' :: a :: b :: rest =>
    match Json.hexDigit? a, Json.hexDigit? b with
    | some high, some low => (16 * high + low) :: bytes rest
    | _, _ => 37 :: bytes (a :: b :: rest)
  | c :: rest => c.toNat :: bytes rest
  | [] => []

/-- An ASCII character. -/
def isAscii (c : Char) : Bool := c.toNat < 128

/-- Decodes text after a stretch of ASCII characters, given last first. -/
def decodeAfter (stretch : List Char) : List Char → List Char
  | [] => Utf8.decodeLossy (bytes stretch.reverse)
  | c :: rest =>
    if isAscii c then decodeAfter (c :: stretch) rest
    else Utf8.decodeLossy (bytes stretch.reverse) ++ c :: decodeAfter [] rest

/-- A text with its escapes read. -/
def decode (cs : List Char) : List Char := decodeAfter [] cs

/-- A text with its escapes read, in which a plus sign stands for a blank. -/
def decodeForm (cs : List Char) : List Char :=
  decode (cs.map fun c => if c = '+' then ' ' else c)

end Turnstile.Percent
