import Turnstile.Net.Url

/-!
# Targets

What a request asks for: a path, whose escapes are read and whose dot segments are
resolved, and the parameters of the query.
-/

namespace Turnstile.Http

/-- What a request asks for. -/
structure Target where
  path : String
  parameters : Members String

namespace Target

/-- Adds a segment of a path: a dot stays in place, two dots go back. -/
def step (before : List (List Char)) (segment : List Char) : List (List Char) :=
  if segment = ['.'] then before
  else if segment = ['.', '.'] then if before = [[]] then before else before.dropLast
  else before ++ [segment]

/-- A path with its dot segments resolved. -/
def resolved (path : List Char) : List Char :=
  ['/'].intercalate ((Text.pieces '/' path).foldl step [])

/-- A path with exactly one slash in front. -/
def rooted (path : List Char) : List Char := '/' :: path.dropWhile (· = '/')

/-- The target that a text names; a fragment is not part of it. -/
def ofText (text : String) : Target :=
  let (path, query) := Text.cut '?' (Text.cut '#' text.toList).1
  ⟨String.ofList (Percent.decode (resolved (rooted path))), Url.formMembers (query.getD [])⟩

/-- A character that ends a path in the text of a URL. -/
def endsPath (c : Char) : Bool := c = '?' || c = '#'

/-- The path under which a request is counted, as it reads in the text of a URL. -/
def label (t : Target) : String :=
  String.ofList ((t.path.toList.takeWhile (!endsPath ·)).filter (!Url.isDropped ·))

end Target

end Turnstile.Http
