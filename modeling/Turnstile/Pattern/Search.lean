import Turnstile.Pattern.Parser
import Turnstile.Pattern.Matcher

/-!
# Searching with written patterns

`compile` turns a written pattern into a tree; an empty text and one that breaks the
grammar give none.  A *delimited* pattern `/body/letters` carries options after its
last slash: `i` for case, `m` for line anchors, `s` for the dot, `x` for spacing.  An
unknown letter and an empty body give no pattern.
-/

namespace Turnstile.Pattern

/-- Body and letters of a delimited pattern; a line feed may follow the letters. -/
def delimited? (text : List Char) : Option (List Char × List Char) :=
  match text with
  | '/' :: rest =>
    let tail := (rest.reverse.takeWhile (· != '/')).reverse
    let letters := if tail.getLast? == some '\n' then tail.dropLast else tail
    if rest.contains '/' && letters.all isAsciiLetter then
      some (rest.take (rest.length - tail.length - 1), letters)
    else none
  | _ => none

/-- The options that letters after a delimited pattern ask for. -/
def letterOptions? : List Char → Option Options
  | [] => some {}
  | c :: rest =>
    if c == 'i' || c == 'm' || c == 's' || c == 'x' then
      (letterOptions? rest).map fun options => options.turnOn c
    else none

/-- The pattern that a text writes under options; none if it breaks the grammar. -/
def compileWith (options : Options) (text : List Char) : Except Error (Option Node) :=
  if text.isEmpty then .ok none
  else
    match parse options text with
    | .ok node => .ok (some node)
    | .error .malformed => .ok none
    | .error e => .error e

/-- The pattern that a text writes, delimited if that is allowed. -/
def compile (allowDelimited : Bool) (text : String) : Except Error (Option Node) :=
  match if allowDelimited then delimited? text.toList else none with
  | none => compileWith {} text.toList
  | some (body, letters) =>
    match letterOptions? letters with
    | some options => compileWith options body
    | none => .ok none

/-- A text holds a match of a written pattern; where there is no pattern there is no match. -/
def find (allowDelimited : Bool) (pattern text : String) : Except Error Bool := do
  match ← compile allowDelimited pattern with
  | some node => return node.search text
  | none => return false

end Turnstile.Pattern
