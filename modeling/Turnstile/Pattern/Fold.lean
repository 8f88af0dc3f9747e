import Turnstile.Text.Case

/-!
# Characters that differ only in case

Matching without regard to case compares lowercase forms of single characters.  Some
lowercase characters share their uppercase form with others (the long and the round s,
two forms of sigma), and count as the same; `variants` lists those of each.
-/

namespace Turnstile.Pattern

/-- How the case of characters counts. -/
inductive Fold where
  /-- Case counts. -/
  | exact
  /-- The case of ASCII letters does not count. -/
  | ascii
  /-- Case does not count. -/
  | unicode
  deriving DecidableEq, Repr

/-- Lowercase characters with others that share their uppercase form. -/
def variantTable : List (Nat × List Nat) := [
  (105, [305]), (115, [383]), (181, [956]), (305, [105]), (383, [115]), (837, [953, 8126]),
  (912, [8147]), (944, [8163]), (946, [976]), (949, [1013]), (952, [977]), (953, [837, 8126]),
  (954, [1008]), (956, [181]), (960, [982]), (961, [1009]), (962, [963]), (963, [962]), (966,
  [981]), (976, [946]), (977, [952]), (981, [966]), (982, [960]), (1008, [954]), (1009, [961]),
  (1013, [949]), (1074, [7296]), (1076, [7297]), (1086, [7298]), (1089, [7299]), (1090, [7300,
  7301]), (1098, [7302]), (1123, [7303]), (7296, [1074]), (7297, [1076]), (7298, [1086]), (7299,
  [1089]), (7300, [1090, 7301]), (7301, [1090, 7300]), (7302, [1098]), (7303, [1123]), (7304,
  [42571]), (7777, [7835]), (7835, [7777]), (8126, [837, 953]), (8147, [912]), (8163, [944]),
  (42571, [7304]), (64261, [64262]), (64262, [64261])]

/-- The other lowercase characters with the same uppercase form. -/
def variants (code : Nat) : List Nat :=
  match variantTable.find? (·.1 == code) with
  | some (_, others) => others
  | none => []

/-- The form in which a character of the text is compared. -/
def Fold.normal : Fold → Nat → Nat
  | .exact, code => code
  | .ascii, code => Text.asciiLower code
  | .unicode, code => Text.simpleLower code

/-- The forms that match a character written in a pattern. -/
def Fold.forms (fold : Fold) (code : Nat) : List Nat :=
  match fold with
  | .unicode => Text.simpleLower code :: variants (Text.simpleLower code)
  | _ => [fold.normal code]

/-- A character of the text matches a character written in a pattern. -/
def Fold.same (fold : Fold) (written read : Nat) : Bool :=
  (fold.forms written).contains (fold.normal read)

/-- The characters whose lowercase form is `code`. -/
def lowerSources (code : Nat) : List Nat :=
  let fromRuns := Text.lowerRuns.toList.filterMap fun (first, last, stride, shift) =>
    let source := ((code : Int) - shift).toNat
    if first ≤ source && source ≤ last && (source - first) % stride == 0
        && (code : Int) - shift == source then some source else none
  let itself := if Text.simpleLower code == code then [code] else []
  let dotted := if code == 105 then [304] else []
  itself ++ fromRuns ++ dotted

/-- The characters that, written in a pattern, match a character in compared form. -/
def Fold.sources (fold : Fold) (normal : Nat) : List Nat :=
  match fold with
  | .exact => [normal]
  | .ascii =>
    if 97 ≤ normal && normal ≤ 122 then [normal, normal - 32]
    else if 65 ≤ normal && normal ≤ 90 then []
    else [normal]
  | .unicode => (normal :: variants normal).flatMap lowerSources

/-- The text holds a word somewhere, without regard to case. -/
def holdsWord (word : List Nat) : List Nat → Bool
  | [] => word.isEmpty
  | code :: rest => startsWithWord word (code :: rest) || holdsWord word rest
where
  /-- The text starts with a word, without regard to case. -/
  startsWithWord : List Nat → List Nat → Bool
    | [], _ => true
    | _ :: _, [] => false
    | w :: word, code :: rest => Fold.unicode.same w code && startsWithWord word rest

end Turnstile.Pattern
