import Turnstile.Text.CharacterTable
import Turnstile.Json.Reader

/-!
# Characters by name

A character is found under its name or another one it has, in any ASCII case.  Some
names are told from codes: a syllable of Hangul is spelled out of its parts, and
ideographs and the characters of a few scripts are numbered by their codes.  The names of
syllables and unified ideographs are in uppercase only.
-/

namespace Turnstile.Text

/-- The end of a part of a name. -/
def endsNamePart (c : Char) : Bool := c == ' ' || c == '-'

/-- The parts of a name, each with the blank or hyphen that ends it. -/
def nameParts : List Char → List (List Char)
  | [] => []
  | c :: rest =>
    if endsNamePart c then [c] :: nameParts rest
    else
      match nameParts rest with
      | [] => [[c]]
      | part :: more => (c :: part) :: more

/-- The sign before a code in the table of names. -/
def codeSign : Char := '='

/-- What stands before an entry in the table of names. -/
def isNameMark (c : Char) : Bool := c == codeSign || ('a' ≤ c && c ≤ 'z')

/-- The entries of a text, each with its mark. -/
def nameEntries (cs : List Char) : List (Char × List Char) :=
  (cs.foldr (fun c (text, entries) =>
    if isNameMark c then ([], (c, text) :: entries) else (c :: text, entries)) ([], [])).2

/-- The names that entries write, the first for a code and after a name of some parts. -/
def writtenNames (code : Nat) (before : List (List Char)) :
    List (Char × List Char) → List (Nat × List Char)
  | [] => []
  | (mark, text) :: rest =>
    if mark == codeSign then writtenNames (Json.digitsValue text) [] rest
    else
      let parts := before.take (mark.toNat - 97) ++ nameParts text
      (code, parts.flatten) :: writtenNames (code + 1) parts rest

/-- The digits of a number to the base sixteen, at least one. -/
def upperHex (n : Nat) : List Char := (Nat.toDigits 16 n).map Char.toUpper

/-- The characters that are named by their codes in any case, and what their names begin with. -/
def codedNames : List (String × Nat × Nat) :=
  [("CJK COMPATIBILITY IDEOGRAPH-", 0xF900, 0xFA6D),
    ("CJK COMPATIBILITY IDEOGRAPH-", 0xFA70, 0xFAD9),
    ("CJK COMPATIBILITY IDEOGRAPH-", 0x2F800, 0x2FA1D),
    ("KHITAN SMALL SCRIPT CHARACTER-", 0x18B00, 0x18CD5), ("NUSHU CHARACTER-", 0x1B170, 0x1B2FB)]

/-- The code that a coded name ends with. -/
def codedName? (name : List Char) : Option Nat :=
  codedNames.findSome? fun (beginning, first, last) =>
    ((List.range (last - first + 1)).map (first + ·)).find? fun code =>
      beginning.toList ++ upperHex code == name

/-- What the names of unified ideographs begin with. -/
def ideographBeginning : List Char := "CJK UNIFIED IDEOGRAPH-".toList

/-- The unified ideographs. -/
def ideographs : Array (Nat × Nat) := #[
  (0x3400, 0x4DBF), (0x4E00, 0x9FFF), (0x20000, 0x2A6DF), (0x2A700, 0x2B738), (0x2B740, 0x2B81D),
  (0x2B820, 0x2CEA1), (0x2CEB0, 0x2EBE0), (0x30000, 0x3134A)]

/-- The unified ideograph with a code of four or five digits. -/
def ideograph? (digits : List Char) : Option Nat :=
  let code := digits.foldl (fun n c => 16 * n + (Json.hexDigit? c).getD 0) 0
  if (digits.length = 4 || digits.length = 5)
      && digits.all (fun c => (Json.hexDigit? c).isSome && c.toUpper == c)
      && ideographs.any (fun (first, last) => first ≤ code && code ≤ last) then some code
  else none

/-- What the names of syllables of Hangul begin with. -/
def syllableBeginning : List Char := "HANGUL SYLLABLE ".toList

/-- The consonants that begin a syllable, one of them silent. -/
def leadNames : List String :=
  ["G", "GG", "N", "D", "DD", "R", "M", "B", "BB", "S", "SS", "", "J", "JJ", "C", "K", "T", "P",
    "H"]

/-- The vowels of syllables. -/
def vowelNames : List String :=
  ["A", "AE", "YA", "YAE", "EO", "E", "YEO", "YE", "O", "WA", "WAE", "OE", "YO", "U", "WEO", "WE",
    "WI", "YU", "EU", "YI", "I"]

/-- The consonants that end a syllable, or none. -/
def tailNames : List String :=
  ["", "G", "GG", "GS", "N", "NJ", "NH", "D", "L", "LG", "LM", "LB", "LS", "LT", "LP", "LH", "M",
    "B", "BS", "S", "SS", "NG", "J", "C", "K", "T", "P", "H"]

/-- The place of the longest of some names that begins a text, and what follows it. -/
def longest? (names : List String) (cs : List Char) : Option (Nat × List Char) :=
  let fitting := names.zipIdx.filter fun (name, _) => name.toList.isPrefixOf cs
  (fitting.foldl (fun best (name, place) =>
    match best with
    | some (size, _) => if size < name.length then some (name.length, place) else best
    | none => some (name.length, place)) none).map fun (size, place) => (place, cs.drop size)

/-- The syllable of Hangul that is spelled by its parts. -/
def syllable? (cs : List Char) : Option Nat := do
  let (lead, afterLead) ← longest? leadNames cs
  let (vowel, afterVowel) ← longest? vowelNames afterLead
  let (tail, rest) ← longest? tailNames afterVowel
  if rest.isEmpty then
    return 0xAC00 + (lead * vowelNames.length + vowel) * tailNames.length + tail
  else none

/-- The character with a name of the table, or with another name, in uppercase. -/
def listedName? (name : List Char) : Option Nat :=
  let text := nameLines.flatMap fun lines => lines.toList.flatMap String.toList
  let written := writtenNames 0 [] (nameEntries text)
  match written.find? fun (_, other) => other == name with
  | some (code, _) => some code
  | none => (nameAliases.find? fun (_, other) => other.toList == name).map (·.1)

/-- The character with a name. -/
def characterOfName? (name : List Char) : Option Nat :=
  if syllableBeginning.isPrefixOf name then syllable? (name.drop syllableBeginning.length)
  else if ideographBeginning.isPrefixOf name then ideograph? (name.drop ideographBeginning.length)
  else
    let upper := name.map Char.toUpper
    (codedName? upper).orElse fun _ => listedName? upper

end Turnstile.Text
