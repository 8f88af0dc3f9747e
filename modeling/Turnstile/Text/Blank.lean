/-!
# Blanks, pieces and parts of texts

Texts are handled as lists of characters.  `trim` drops blanks at both ends, where a
blank is a separator, tabulation or line break of any script; `pieces` cuts at every
separator; `isPart` finds a contiguous part; `withLineFeeds` is how the lines of a text
file are read.
-/

namespace Turnstile.Text

/-- White space of any script, with the four information separators. -/
def isBlankCode (code : Nat) : Bool :=
  (9 ≤ code && code ≤ 13) || (28 ≤ code && code ≤ 32) || code == 133 || code == 160
    || code == 5760 || (8192 ≤ code && code ≤ 8202) || code == 8232 || code == 8233
    || code == 8239 || code == 8287 || code == 12288

/-- ASCII white space. -/
def isAsciiBlankCode (code : Nat) : Bool := (9 ≤ code && code ≤ 13) || code == 32

/-- White space of any script. -/
def isBlank (c : Char) : Bool := isBlankCode c.toNat

/-- Drops the characters in a class from the end. -/
def dropEndWhile (p : Char → Bool) (cs : List Char) : List Char :=
  (cs.reverse.dropWhile p).reverse

/-- Drops blanks from both ends. -/
def trimmed (cs : List Char) : List Char := dropEndWhile isBlank (cs.dropWhile isBlank)

/-- Drops blanks from both ends of a text. -/
def trim (s : String) : String := String.ofList (trimmed s.toList)

/-- The parts between separators; there is always at least one. -/
def pieces (separator : Char) : List Char → List (List Char)
  | [] => [[]]
  | c :: rest =>
    match pieces separator rest with
    | [] => [[c]]
    | first :: others =>
      if c = separator then [] :: first :: others else (c :: first) :: others

/-- The text before the first separator, and what follows it if there is one. -/
def cut (separator : Char) : List Char → List Char × Option (List Char)
  | [] => ([], none)
  | c :: rest =>
    if c = separator then ([], some rest)
    else
      let (before, after) := cut separator rest
      (c :: before, after)

/-- `needle` is a contiguous part of the text. -/
def isPart (needle : List Char) : List Char → Bool
  | [] => needle.isEmpty
  | c :: rest => needle.isPrefixOf (c :: rest) || isPart needle rest

/-- Line ends of all kinds as line feeds. -/
def withLineFeeds : List Char → List Char
  | '\r' :: '\n' :: rest => '\n' :: withLineFeeds rest
  | '\r' :: rest => '\n' :: withLineFeeds rest
  | c :: rest => c :: withLineFeeds rest
  | [] => []

/-- Parts written one after another with a text between them. -/
def joined (between : String) (parts : List String) : String := between.intercalate parts

end Turnstile.Text
