import Turnstile.Pattern.Node
import Turnstile.Text.Name

/-!
# Reading a pattern: its text

The text of a pattern is a list of tokens, a character or a character after a
backslash.  `Reading` holds the tokens that are left and what was said so far about
groups and options.  A lone backslash at the end is an error as soon as every token
before it is read.
-/

namespace Turnstile.Pattern

/-- Why a text is not a pattern. -/
inductive Error where
  /-- It breaks the grammar. -/
  | malformed
  /-- A repetition count of `2 ^ 32 - 1` or more. -/
  | repetitionTooLarge
  /-- A repetition count too long to be read. -/
  | countTooLong
  /-- Both alphabets are asked for. -/
  | conflictingAlphabets
  deriving DecidableEq, Repr

/-- The options in force at a place of a pattern. -/
structure Options where
  ignoreCase : Bool := false
  lineAnchors : Bool := false
  dotAll : Bool := false
  spaced : Bool := false
  ascii : Bool := false
  /-- The full alphabet was asked for by name. -/
  unicode : Bool := false
  /-- Repetitions are refused. -/
  template : Bool := false
  deriving DecidableEq, Repr

/-- How case counts under the options. -/
def Options.fold (options : Options) : Fold :=
  if options.ignoreCase then if options.ascii then .ascii else .unicode else .exact

/-- A token of a pattern. -/
inductive Token where
  | plain (c : Char)
  | escaped (c : Char)
  deriving DecidableEq, Repr

/-- The characters of a token. -/
def Token.chars : Token → List Char
  | .plain c => [c]
  | .escaped c => ['\\', c]

/-- The tokens of a text, and whether a lone backslash ends it. -/
def tokenize : List Char → List Token × Bool
  | [] => ([], false)
  | ['\\'] => ([], true)
  | '\\' :: c :: rest =>
    let (tokens, dangling) := tokenize rest
    (.escaped c :: tokens, dangling)
  | c :: rest =>
    let (tokens, dangling) := tokenize rest
    (.plain c :: tokens, dangling)

/-- What is left of a pattern, and what was said so far. -/
structure Reading where
  rest : List Token
  dangling : Bool
  /-- The options for the whole pattern. -/
  options : Options
  /-- The widths of the groups so far; a group that is still open has none. -/
  groups : List (Option (Nat × Option Nat)) := []
  names : List (String × Nat) := []
  /-- Inside an assertion about what precedes: the groups opened before it. -/
  groupsBefore : Option Nat := none
  /-- The groups that conditions ask about. -/
  asked : List Nat := []
  /-- Some assertion about what precedes has no fixed width. -/
  unfixed : Bool := false
  /-- Something is repeated. -/
  repeats : Bool := false

/-- Readers of patterns. -/
abbrev Reader := StateT Reading (Except Error)

namespace Reader

/-- Refuses the pattern. -/
def fail {α : Type} : Reader α := throw Error.malformed

/-- The next token. -/
def peek : Reader (Option Token) := do return (← get).rest.head?

/-- Goes on with the given tokens. -/
def continueWith (rest : List Token) : Reader Unit := do
  let reading ← get
  if rest.isEmpty && reading.dangling then fail
  else set { reading with rest := rest }

/-- Takes the next token. -/
def take : Reader (Option Token) := do
  match (← get).rest with
  | [] => return none
  | token :: rest => continueWith rest; return some token

/-- Takes the next token if it is the given character. -/
def accept (c : Char) : Reader Bool := do
  if (← peek) == some (.plain c) then let _ ← take; return true else return false

/-- Takes up to `count` characters of a class. -/
def takeWhile (p : Char → Bool) : Nat → Reader (List Char)
  | 0 => return []
  | count + 1 => do
    match ← peek with
    | some (.plain c) =>
      if p c then
        let _ ← take
        return c :: (← takeWhile p count)
      else return []
    | _ => return []

/-- Takes the text up to a terminator, which is there and does not come first. -/
def takeUntil (terminator : Char) : Reader (List Char) := do
  let tokens := (← get).rest
  let before := tokens.takeWhile (· != .plain terminator)
  match tokens.dropWhile (· != .plain terminator) with
  | [] => fail
  | _ :: rest =>
    if before.isEmpty then fail
    else
      continueWith rest
      return before.flatMap Token.chars

/-- The number of groups opened so far, with the whole match. -/
def groupCount : Reader Nat := do return (← get).groups.length + 1

/-- The width of a group that is closed; an open or unknown one is refused. -/
def closedGroup (index : Nat) : Reader (Nat × Option Nat) := do
  match (← get).groups[index - 1]? with
  | some (some width) => if index = 0 then fail else return width
  | _ => fail

/-- Inside an assertion about what precedes, only groups closed before it can be used. -/
def checkUse (index : Nat) : Reader Unit := do
  match (← get).groupsBefore with
  | none => return ()
  | some bound =>
    let _ ← closedGroup index
    if bound ≤ index then fail

/-- Opens a group and gives its number; a name is used once only. -/
def openGroup (name : Option String) : Reader Nat := do
  let reading ← get
  let index := reading.groups.length + 1
  match name with
  | none => set { reading with groups := reading.groups ++ [none] }
  | some n =>
    if (reading.names.lookup n).isSome then fail
    else
      set { reading with groups := reading.groups ++ [none], names := (n, index) :: reading.names }
  return index

/-- Closes a group. -/
def closeGroup (index : Nat) (width : Nat × Option Nat) : Reader Unit :=
  modify fun reading => { reading with groups := reading.groups.set (index - 1) (some width) }

end Reader

end Turnstile.Pattern
