import Turnstile.Json.Writer
import Turnstile.Text.Utf8

/-!
# Encodings of documents

A document that comes as bytes starts with a mark of its encoding, or has an ASCII
character first, so that the places of zero bytes among the first four tell the width
and the order of its units.  Halves of surrogate pairs are taken for their escapes, unless they
follow an open escape, which they cannot end.
-/

namespace Turnstile.Encoding

/-- The width and order of units. -/
inductive Form where
  | utf8
  | utf16 (bigEndian : Bool)
  | utf32 (bigEndian : Bool)
  deriving DecidableEq, Repr

/-- The form that zero bytes among the first ones tell. -/
def formByZeros : List Nat → Form
  | a :: b :: c :: d :: _ =>
    if a = 0 then if b = 0 then .utf32 true else .utf16 true
    else if b = 0 then if c = 0 && d = 0 then .utf32 false else .utf16 false
    else .utf8
  | [a, b] => if a = 0 then .utf16 true else if b = 0 then .utf16 false else .utf8
  | _ => .utf8

/-- The form of a document, and its bytes without the mark. -/
def detect : List Nat → Form × List Nat
  | 0x00 :: 0x00 :: 0xFE :: 0xFF :: rest => (.utf32 true, rest)
  | 0xFF :: 0xFE :: 0x00 :: 0x00 :: rest => (.utf32 false, rest)
  | 0xFE :: 0xFF :: rest => (.utf16 true, rest)
  | 0xFF :: 0xFE :: rest => (.utf16 false, rest)
  | 0xEF :: 0xBB :: 0xBF :: rest => (.utf8, rest)
  | bytes => (formByZeros bytes, bytes)

/-- Units of two bytes. -/
def units16 (bigEndian : Bool) : List Nat → Option (List Nat)
  | [] => some []
  | a :: b :: rest =>
    (units16 bigEndian rest).map ((if bigEndian then 256 * a + b else 256 * b + a) :: ·)
  | _ => none

/-- The code points of units of two bytes. -/
def points16? (bigEndian : Bool) (bytes : List Nat) : Option (List CodePoint) :=
  (units16 bigEndian bytes).map fun units => CodePoint.paired (units.map CodePoint.ofUnit)

/-- The code points of units of four bytes. -/
def points32? (bigEndian : Bool) : List Nat → Option (List CodePoint)
  | [] => some []
  | a :: b :: c :: d :: rest =>
    let code :=
      if bigEndian then ((a * 256 + b) * 256 + c) * 256 + d
      else ((d * 256 + c) * 256 + b) * 256 + a
    if code < 0x110000 then (points32? bigEndian rest).map (CodePoint.ofUnit code :: ·) else none
  | _ => none

/-- The half of a surrogate pair that three bytes stand for, and what follows them. -/
def half? : List Nat → Option (CodePoint × List Nat)
  | 0xED :: b :: c :: rest =>
    if 0xA0 ≤ b && b < 0xC0 && Utf8.isTail c then
      some (.ofUnit (0xD000 + (b - 0x80) * 64 + (c - 0x80)), rest)
    else none
  | _ => none

theorem length_lt_of_half? {bytes rest : List Nat} {half : CodePoint}
    (h : half? bytes = some (half, rest)) : rest.length < bytes.length := by
  unfold half? at h
  split at h
  · split at h
    · obtain ⟨-, rfl⟩ := Prod.mk.inj (Option.some.inj h)
      simp only [List.length_cons]
      omega
    · cases h
  · cases h

/-- The code points of bytes in UTF-8, in which halves of surrogate pairs have forms too. -/
def points8? : List Nat → Option (List CodePoint)
  | [] => some []
  | first :: rest =>
    match _ : half? (first :: rest) with
    | some (half, after) => (points8? after).map (half :: ·)
    | none =>
      match (Utf8.step first rest).1 with
      | some c => (points8? (Utf8.step first rest).2).map (.char c :: ·)
      | none => none
termination_by bytes => bytes.length
decreasing_by
  · exact length_lt_of_half? ‹_›
  · have := Utf8.length_step_le first rest
    simp only [List.length_cons]
    omega

/-- The code points of a document. -/
def points? (bytes : List Nat) : Option (List CodePoint) :=
  match detect bytes with
  | (.utf8, rest) => points8? rest
  | (.utf16 bigEndian, rest) => points16? bigEndian rest
  | (.utf32 bigEndian, rest) => points32? bigEndian rest

/-- The bytes of a document stand for no halves of surrogate pairs. -/
def isUnicode (bytes : List Nat) : Bool :=
  (points? bytes).all fun points => (CodePoint.chars? points).isSome

/-- The characters of code points inside strings, after an open escape or not. -/
def spelling? (escaped : Bool) : List CodePoint → Option (List Char)
  | [] => some []
  | .char c :: rest => (spelling? (c == '\\' && !escaped) rest).map (c :: ·)
  | half :: rest =>
    if escaped then none else (spelling? false rest).map (Json.unitEscape half.code ++ ·)

/-- The characters of a document, in which halves of surrogate pairs are escaped. -/
def decode? (bytes : List Nat) : Option (List Char) := (points? bytes).bind (spelling? false)

end Turnstile.Encoding
