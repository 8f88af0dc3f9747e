import Turnstile.Net.Address
import Turnstile.Net.Percent
import Turnstile.Text.Digit

/-!
# Queries of page addresses

`query?` finds the query of a URL: what stands between the first question mark and the
fragment, once the scheme and the authority are split off.  There is none when the
authority is malformed.  `parameters` reads the query as a form: names and values
between ampersands, a repeated name keeping its first position and its last value.
-/

namespace Turnstile.Url

/-- A control character or a blank, dropped before a URL. -/
def isLeading (c : Char) : Bool := c.toNat ≤ 32

/-- Tabulations and line breaks, dropped everywhere in a URL. -/
def isDropped (c : Char) : Bool := c = '\t' || c = '\n' || c = '\r'

/-- The characters of a URL that count. -/
def cleaned (cs : List Char) : List Char := (cs.dropWhile isLeading).filter (!isDropped ·)

/-- An ASCII letter. -/
def isLetter (c : Char) : Bool := ('a' ≤ c && c ≤ 'z') || ('A' ≤ c && c ≤ 'Z')

/-- A character of a scheme. -/
def isSchemeChar (c : Char) : Bool :=
  isLetter c || Json.isDecimal c || c = '+' || c = '-' || c = '.'

/-- What follows the scheme, if the text starts with one. -/
def afterScheme (cs : List Char) : List Char :=
  match Text.cut ':' cs with
  | (scheme, some rest) =>
    if scheme.head?.any isLetter && scheme.all isSchemeChar then rest else cs
  | (_, none) => cs

/-- A character that ends an authority. -/
def endsAuthority (c : Char) : Bool := c = '/' || c = '?' || c = '#'

/-- The authority, which follows two slashes, and what comes after it. -/
def splitAuthority : List Char → List Char × List Char
  | '/' :: '/' :: rest => (rest.takeWhile (!endsAuthority ·), rest.dropWhile (!endsAuthority ·))
  | cs => ([], cs)

/-- Characters that stand for one of `/ ? # @ :` in a compatible form. -/
def isDelimiterLike (c : Char) : Bool :=
  [8263, 8264, 8265, 8448, 8449, 8453, 8454, 10868, 65043, 65046, 65109, 65110, 65119, 65131,
    65283, 65295, 65306, 65311, 65312].contains c.toNat

/-- A host of a version to come: a letter, hexadecimal digits, a point, and more. -/
def isFutureHost : List Char → Bool
  | 'v' :: rest =>
    match Text.cut '.' rest with
    | (digits, some more) =>
      !digits.isEmpty && digits.all (fun c => (Json.hexDigit? c).isSome) && !more.isEmpty
    | (_, none) => false
  | _ => false

/-- What may stand between brackets: an address of version 6 or of a version to come. -/
def isBracketedHost (cs : List Char) : Bool :=
  if cs.head? = some 'v' then isFutureHost cs
  else
    match Address.read? cs with
    | some (.v6 _) => true
    | _ => false

/-- What follows the last at sign, or all of it. -/
def afterUser (cs : List Char) : List Char := (cs.reverse.takeWhile (· != '@')).reverse

/-- Brackets enclose the host alone, up to a port. -/
def bracketsFit (authority : List Char) : Bool :=
  let hostAndPort := afterUser authority
  match Text.cut '[' hostAndPort with
  | (before, some bracketed) =>
    let (host, port) := Text.cut ']' bracketed
    let portFits := (port.getD []).isEmpty || (port.getD []).head? = some ':'
    before.isEmpty && portFits && isBracketedHost host
  | (_, none) => isBracketedHost (Text.cut ':' hostAndPort).1

/-- An authority is well formed. -/
def isAuthority (cs : List Char) : Bool :=
  cs.contains '[' == cs.contains ']' && (!cs.contains '[' || bracketsFit cs)
    && !cs.any isDelimiterLike

/-- The query of a URL, empty if it has none. -/
def query? (url : String) : Option (List Char) :=
  let (authority, rest) := splitAuthority (afterScheme (cleaned url.toList))
  if isAuthority authority then some ((Text.cut '?' (Text.cut '#' rest).1).2.getD []) else none

/-- Name and value of a part of a form. -/
def formPair (cs : List Char) : String × String :=
  let (name, value) := Text.cut '=' cs
  (String.ofList (Percent.decodeForm name), String.ofList (Percent.decodeForm (value.getD [])))

/-- The names and values of a form. -/
def formMembers (cs : List Char) : Members String :=
  Members.ofList (((Text.pieces '&' cs).filter (!·.isEmpty)).map formPair)

/-- The parameters of a URL. -/
def parameters (url : String) : Members String :=
  match query? url with
  | some query => formMembers query
  | none => []

end Turnstile.Url
