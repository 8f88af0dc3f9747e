import Turnstile.Text.CaseTable
import Turnstile.Text.SigmaTable
import Turnstile.Text.CodeRange

/-!
# Lowercase and uppercase texts

`simpleLower` and `simpleUpper` map one character to one character, the first of its
full form.  `lower` and `upper` give the full forms of a text: the dotted capital I
has a lowercase of two characters, and a capital sigma becomes a final sigma where a
cased character precedes and none follows, not counting case-ignorable ones.
-/

namespace Turnstile.Text

/-- The image of `code` under a table of runs, by binary search between two positions. -/
def shifted (runs : Array (Nat × Nat × Nat × Int)) (code : Nat) : Nat → Nat → Nat → Nat
  | 0, _, _ => code
  | steps + 1, low, high =>
    if high ≤ low then code
    else
      let middle := (low + high) / 2
      match runs[middle]? with
      | none => code
      | some (first, last, stride, shift) =>
        if code < first then shifted runs code steps low middle
        else if last < code then shifted runs code steps (middle + 1) high
        else if (code - first) % stride = 0 then (code + shift).toNat
        else code

/-- The image of `code` under a table of runs. -/
def mapped (runs : Array (Nat × Nat × Nat × Int)) (code : Nat) : Nat :=
  shifted runs code (runs.size + 1) 0 runs.size

/-- Lowercase of an ASCII letter. -/
def asciiLower (code : Nat) : Nat := if 65 ≤ code && code ≤ 90 then code + 32 else code

/-- Lowercase as one character. -/
def simpleLower (code : Nat) : Nat :=
  if code < 128 then asciiLower code
  else if code = 304 then 105
  else mapped lowerRuns code

/-- The uppercase form. -/
def upperForm (code : Nat) : List Nat :=
  if code < 128 then [if 97 ≤ code && code ≤ 122 then code - 32 else code]
  else
    match upperExpansions.find? (·.1 == code) with
    | some (_, form) => form
    | none => [mapped upperRuns code]

/-- Uppercase as one character. -/
def simpleUpper (code : Nat) : Nat := (upperForm code).headD code

/-- The uppercase form of a text. -/
def upper (s : String) : String :=
  String.ofList (s.toList.flatMap fun c => (upperForm c.toNat).map Char.ofNat)

/-- A cased character comes first once case-ignorable ones are skipped. -/
def leadsWithCased (cs : List Char) : Bool :=
  match cs.dropWhile fun c => CodeRange.contains ignorableRanges c.toNat with
  | [] => false
  | c :: _ => CodeRange.contains casedRanges c.toNat

/-- The lowercase form of a character with the text before it (last first) and after it. -/
def lowerForm (before : List Char) (c : Char) (after : List Char) : List Char :=
  if c = 'Σ' then [if leadsWithCased before && !leadsWithCased after then 'ς' else 'σ']
  else if c = 'İ' then ['i', Char.ofNat 775]
  else [Char.ofNat (simpleLower c.toNat)]

/-- The lowercase forms of the characters after `before` (last first). -/
def lowerAfter (before : List Char) : List Char → List Char
  | [] => []
  | c :: rest => lowerForm before c rest ++ lowerAfter (c :: before) rest

/-- The lowercase form of a text. -/
def lower (s : String) : String := String.ofList (lowerAfter [] s.toList)

end Turnstile.Text
