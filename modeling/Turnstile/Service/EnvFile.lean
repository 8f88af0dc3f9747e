import Turnstile.Json.Basic
import Turnstile.Text.Blank

/-!
# Files of variables

**Lines.**  A line binds a name to a value after an equals sign, or names a variable
without a value; `export` may stand before it.  A number sign starts a comment at the
start of a line or after a blank.  A line of any other form is passed over.

**Values.**  A value in quotes may go over lines and hold escapes.  In every value,
`$` with a name in braces stands for a variable, or for a text after `:-` if there is
none.
-/

namespace Turnstile.EnvFile

/-- A blank inside a line. -/
def isInlineBlank (c : Char) : Bool := Text.isBlank c && c != '\n'

/-- What follows the rest of a line. -/
def afterLine (cs : List Char) : List Char := (cs.dropWhile (· != '\n')).drop 1

/-- What follows the word `export` and blanks, if they come first. -/
def afterExport (cs : List Char) : List Char :=
  let word := "export".toList
  let rest := cs.drop word.length
  if word.isPrefixOf cs && rest.head?.any isInlineBlank then rest.dropWhile isInlineBlank else cs

/-- A character of a name without quotes. -/
def isNameChar (c : Char) : Bool := c != '=' && c != '#' && !Text.isBlank c

/-- A name, none before a comment, and what follows it; none if there is no name. -/
def readName (cs : List Char) : Option (Option (List Char) × List Char) :=
  match cs with
  | '#' :: _ => some (none, cs)
  | '\'' :: rest =>
    match Text.cut '\'' rest with
    | (name, some more) => if name.isEmpty then none else some (some name, more)
    | (_, none) => none
  | _ =>
    let name := cs.takeWhile isNameChar
    if name.isEmpty then none else some (some name, cs.dropWhile isNameChar)

/--
A value up to a quote, and what follows the quote: the first that no backslash precedes,
else the last one.
-/
def readQuoted (quote : Char) : List Char → Option (List Char × List Char)
  | [] => none
  | '\\' :: c :: rest =>
    if c = quote then
      match readQuoted quote rest with
      | some (value, more) => some ('\\' :: c :: value, more)
      | none => some (['\\'], rest)
    else (readQuoted quote (c :: rest)).map fun (value, more) => ('\\' :: value, more)
  | c :: rest =>
    if c = quote then some ([], rest)
    else (readQuoted quote rest).map fun (value, more) => (c :: value, more)

/-- The character of an escape between double quotes. -/
def doubleEscape? (c : Char) : Option Char :=
  if c = '\\' || c = '\'' || c = '"' then some c
  else if c = 'a' then some (Char.ofNat 7)
  else if c = 'b' then some (Char.ofNat 8)
  else if c = 'f' then some (Char.ofNat 12)
  else if c = 'n' then some '\n'
  else if c = 'r' then some '\r'
  else if c = 't' then some '\t'
  else if c = 'v' then some (Char.ofNat 11)
  else none

/-- The character of an escape between single quotes. -/
def singleEscape? (c : Char) : Option Char := if c = '\\' || c = '\'' then some c else none

/-- A text with its escapes read; a backslash before any other character stands for itself. -/
def unescaped (escape? : Char → Option Char) : List Char → List Char
  | '\\' :: c :: rest =>
    match escape? c with
    | some d => d :: unescaped escape? rest
    | none => '\\' :: unescaped escape? (c :: rest)
  | c :: rest => c :: unescaped escape? rest
  | [] => []

/-- The text before a number sign that blanks precede. -/
def withoutComment : List Char → List Char
  | [] => []
  | c :: rest =>
    if Text.isBlank c && (rest.dropWhile Text.isBlank).head? = some '#' then []
    else c :: withoutComment rest

/-- A value, and what follows it; none if its quotes are not closed. -/
def readValue (cs : List Char) : Option (List Char × List Char) :=
  match cs with
  | '\'' :: rest =>
    (readQuoted '\'' rest).map fun (value, more) => (unescaped singleEscape? value, more)
  | '"' :: rest =>
    (readQuoted '"' rest).map fun (value, more) => (unescaped doubleEscape? value, more)
  | _ =>
    some (Text.dropEndWhile Text.isBlank (withoutComment (cs.takeWhile (· != '\n'))),
      cs.dropWhile (· != '\n'))

/-- What follows a comment and the end of the line; none if something else stands there. -/
def readLineEnd (cs : List Char) : Option (List Char) :=
  match cs.dropWhile isInlineBlank with
  | [] => some []
  | '\n' :: rest => some rest
  | '#' :: rest => some (afterLine rest)
  | _ => none

/-- A line that binds a name: the name, if there is one, and its value, if there is one. -/
structure Binding where
  name : List Char
  value : Option (List Char)

/-- A binding, and what follows its line. -/
def readBinding (cs : List Char) : Option Binding × List Char :=
  let start := afterExport cs
  match readName start with
  | none => (none, afterLine start)
  | some (name, afterName) =>
    let bound := fun value rest =>
      match readLineEnd rest with
      | some more => (name.map fun n => ⟨n, value⟩, more)
      | none => (none, afterLine rest)
    match afterName.dropWhile isInlineBlank with
    | '=' :: rest =>
      let rest := rest.dropWhile isInlineBlank
      match readValue rest with
      | some (value, more) => bound (some value) more
      | none => (none, afterLine rest)
    | rest => bound none rest

/-- The bindings of a text, reading at most so many lines. -/
def readBindings : Nat → List Char → List Binding
  | 0, _ => []
  | lines + 1, cs =>
    match cs.dropWhile Text.isBlank with
    | [] => []
    | c :: rest =>
      let (binding, more) := readBinding (c :: rest)
      binding.toList ++ readBindings lines more

/-- The bindings of a text. -/
def bindings (text : String) : List Binding :=
  let cs := Text.withLineFeeds text.toList
  readBindings (cs.length + 1) cs

/-- A variable in braces: its name, what stands for it if there is none, and what follows. -/
def readVariable (cs : List Char) : Option (List Char × List Char × List Char) :=
  let name := cs.takeWhile fun c => c != '\x7d' && c != ':'
  match cs.dropWhile fun c => c != '\x7d' && c != ':' with
  | '\x7d' :: rest => some (name, [], rest)
  | ':' :: '-' :: rest =>
    match Text.cut '\x7d' rest with
    | (absent, some more) => some (name, absent, more)
    | (_, none) => none
  | _ => none

/-- A text with its variables replaced, reading at most so many characters. -/
def replacedUpTo (value? : List Char → Option (List Char)) : Nat → List Char → List Char
  | 0, cs => cs
  | _, [] => []
  | left + 1, c :: rest =>
    if c = '$' && rest.head? = some '\x7b' then
      match readVariable (rest.drop 1) with
      | some (name, absent, more) => (value? name).getD absent ++ replacedUpTo value? left more
      | none => c :: replacedUpTo value? left rest
    else c :: replacedUpTo value? left rest

/-- A text with its variables replaced. -/
def replaced (value? : List Char → Option (List Char)) (cs : List Char) : List Char :=
  replacedUpTo value? (cs.length + 1) cs

/-- The value of a variable: of the file so far, else of the environment. -/
def valueOf? (environment : Members String) (sofar : Members (Option String)) (name : List Char) :
    Option (List Char) :=
  match sofar.get? (String.ofList name) with
  | some value => some ((value.map String.toList).getD [])
  | none => (environment.get? (String.ofList name)).map String.toList

/-- The variables of a file; one without a value is there, but has none. -/
def valuesOf (environment : Members String) (text : String) : Members (Option String) :=
  (bindings text).foldl (fun sofar binding =>
    sofar.set (String.ofList binding.name)
      (binding.value.map fun value =>
        String.ofList (replaced (valueOf? environment sofar) value))) []

end Turnstile.EnvFile
