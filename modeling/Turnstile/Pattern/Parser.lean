import Turnstile.Pattern.Escape
import Turnstile.Text.Numeral

/-!
# Reading a pattern: sequences, groups and choices

A pattern is a choice of sequences.  `readChoice` and `readSequence` call each other
on the tokens that are left, whose number bounds the depth.  Groups without captures
and options are spliced into the sequence around them.

**Choices.**  What all branches start with is taken out in front, and branches that
are single characters or sets become one set.
-/

namespace Turnstile.Pattern

/-- What an element of a sequence allows after it. -/
inductive ChunkKind where
  | repeatable
  | anchor
  | repetition
  deriving DecidableEq

/-- An element of a sequence: the nodes it contributes. -/
structure Chunk where
  kind : ChunkKind
  nodes : List Node

/-- An element of one node. -/
def Chunk.single (node : Node) : Chunk := ⟨.repeatable, [node]⟩

/-- The least repetition count that is refused. -/
def repetitionLimit : Nat := 4294967295

/-- The least number of a group that no condition can ask about. -/
def groupLimit : Nat := 1073741823

/-- The widest text that an assertion looks back over. -/
def lookBehindLimit : Nat := 4294967294

/-- Blanks that are skipped in a spaced pattern. -/
def isPatternBlank (c : Char) : Bool := Text.isAsciiBlankCode c.toNat

/-- Skips the rest of a line. -/
def skipLine : Reader Unit := do
  Reader.continueWith (((← get).rest.dropWhile (· != .plain '\n')).drop 1)

/-- Skips a remark up to its closing parenthesis. -/
def skipRemark : Reader Unit := do
  match (← get).rest.dropWhile (· != .plain ')') with
  | [] => Reader.fail
  | _ :: rest => Reader.continueWith rest

/-- The bounds between braces: the count, or the least and the greatest count. -/
def readBounds (tokens : List Token) : Option (List Char × Option (List Char) × List Token) :=
  let digits := fun (ts : List Token) =>
    (ts.takeWhile isCount).flatMap Token.chars
  let first := digits tokens
  match tokens.dropWhile isCount with
  | .plain ',' :: more =>
    match more.dropWhile isCount with
    | .plain '}' :: rest => some (first, some (digits more), rest)
    | _ => none
  | .plain '}' :: rest => some (first, none, rest)
  | _ => none
where
  /-- A token that is a decimal digit. -/
  isCount : Token → Bool
    | .plain c => Json.isDecimal c
    | .escaped _ => false

/-- A repetition count. -/
def readCount (cs : List Char) : Reader Nat :=
  if Text.maxIntegerDigits < cs.length then throw .countTooLong
  else if repetitionLimit ≤ Json.digitsValue cs then throw .repetitionTooLarge
  else return Json.digitsValue cs

/-- The least and greatest count of a repetition in braces. -/
def readCounts (first : List Char) (second : Option (List Char)) : Reader (Nat × Option Nat) := do
  let least ← if first.isEmpty then pure 0 else readCount first
  let written := second.getD first
  if written.isEmpty then return (least, none)
  else
    let most ← readCount written
    if most < least then Reader.fail else return (least, some most)

/-- A repetition in braces after the opening one, or nothing if the brace stands for itself. -/
def readBraces : Reader (Option (Nat × Option Nat)) := do
  let rest := (← get).rest
  match if rest.head? == some (.plain '\x7d') then none else readBounds rest with
  | none => return none
  | some (first, second, after) =>
    Reader.continueWith after
    return some (← readCounts first second)

/-- The greed that a mark after a repetition asks for. -/
def readGreed : Reader Greed := do
  if ← Reader.accept '?' then return .reluctant
  else if ← Reader.accept '+' then return .possessive
  else return .greedy

/-- Repeats the last element of a sequence. -/
def repeatLast (chunks : List Chunk) (least : Nat) (most : Option Nat) : Reader (List Chunk) := do
  match chunks.getLast? with
  | none => Reader.fail
  | some last =>
    if last.kind != .repeatable then Reader.fail
    else
      let greed ← readGreed
      modify fun reading => { reading with repeats := true }
      let node := Node.repetition greed least most (Node.ofList last.nodes)
      return chunks.dropLast ++ [⟨.repetition, [node]⟩]

/-- Letters of options that can be set inside a pattern. -/
def isOptionLetter (c : Char) : Bool := "iLmsxatu".toList.contains c

/-- Options with one letter turned on. -/
def Options.turnOn (options : Options) (c : Char) : Options :=
  match c with
  | 'i' => { options with ignoreCase := true }
  | 'm' => { options with lineAnchors := true }
  | 's' => { options with dotAll := true }
  | 'x' => { options with spaced := true }
  | 'a' => { options with ascii := true }
  | 'u' => { options with unicode := true }
  | 't' => { options with template := true }
  | _ => options

/-- Options inside a group that turns letters on and off; an alphabet replaces the other. -/
def Options.within (options : Options) (on off : List Char) : Options :=
  let base :=
    if on.contains 'a' || on.contains 'u' then { options with ascii := on.contains 'a' } else options
  { base with
    ignoreCase := (base.ignoreCase || on.contains 'i') && !off.contains 'i'
    lineAnchors := (base.lineAnchors || on.contains 'm') && !off.contains 'm'
    dotAll := (base.dotAll || on.contains 's') && !off.contains 's'
    spaced := (base.spaced || on.contains 'x') && !off.contains 'x' }

/-- What a group of option letters does. -/
inductive OptionGroup where
  /-- Turns letters on for the whole pattern. -/
  | whole (on : List Char)
  /-- Turns letters on and off inside the group that follows. -/
  | inside (on off : List Char)

/-- Turns options on for the whole pattern, and gives those in force then. -/
def turnOnAll (letters : List Char) : Reader Options := do
  modify fun reading => { reading with options := letters.foldl Options.turnOn reading.options }
  return (← get).options

/-- The option letters that come next. -/
def readLetters : Reader (List Char) := do
  Reader.takeWhile isOptionLetter (← get).rest.length

/-- The group of options after its first letter or dash. -/
def readOptionGroup (start : Char) : Reader OptionGroup := do
  let letters ← if start == '-' then pure [] else readLetters
  let on := if start == '-' then [] else start :: letters
  if on.contains 'L' || (on.contains 'a' && on.contains 'u') then Reader.fail
  let mark ← if start == '-' then pure (some (Token.plain '-')) else Reader.take
  match mark with
  | some (.plain ')') => return .whole on
  | some (.plain ':') => if on.contains 't' then Reader.fail else return .inside on []
  | some (.plain '-') =>
    let off ← readLetters
    let closed ← Reader.accept ':'
    let refused := off.any fun c =>
      c == 'a' || c == 'u' || c == 'L' || c == 't' || on.contains c
    if on.contains 't' || off.isEmpty || !closed || refused then Reader.fail
    else return .inside on off
  | _ => Reader.fail

/-- The entries of a node that can be part of a set under the options. -/
def setItems? (options : Options) : Node → Option (List SetItem)
  | .one (.literal fold false code) => if fold = options.fold then some [.char code] else none
  | .one (.set fold ascii false items) =>
    if fold = options.fold && ascii = options.ascii then some items else none
  | _ => none

/-- The entries of branches that are all single characters or sets. -/
def branchItems? (options : Options) : List (List Node) → Option (List SetItem)
  | [] => some []
  | [node] :: rest => do return (← setItems? options node) ++ (← branchItems? options rest)
  | _ :: _ => none

/-- A node that can be told equal to another by its text alone. -/
def isPlain : Node → Bool
  | .one _ | .anchor _ | .backReference .. => true
  | _ => false

/-- The node that all branches start with. -/
def commonHead? (branches : List (List Node)) : Option Node :=
  match branches with
  | (head :: _) :: rest =>
    if isPlain head && rest.all (fun branch => branch.head? == some head) then some head else none
  | _ => none

/-- Takes common heads out of branches, at most `count` of them. -/
def factored : Nat → List (List Node) → List Node × List (List Node)
  | 0, branches => ([], branches)
  | count + 1, branches =>
    match commonHead? branches with
    | some head =>
      let (heads, rest) := factored count (branches.map (List.drop 1))
      (head :: heads, rest)
    | none => ([], branches)

/-- The nodes of a choice of branches. -/
def choiceNodes (options : Options) (branches : List (List Node)) : List Node :=
  match branches with
  | [branch] => branch
  | _ =>
    let (heads, rest) := factored ((branches.headD []).length) branches
    match branchItems? options rest with
    | some items => heads ++ [.one (.set options.fold options.ascii false (distinctItems items))]
    | none =>
      match rest.map Node.ofList with
      | [] => heads
      | first :: others => heads ++ [Node.oneOf first others]

/-- The anchor that a letter names. -/
def namedAnchor (options : Options) (kind : Char) : Anchor :=
  match kind with
  | 'A' => .textStart
  | 'Z' => .textEnd
  | 'b' => .wordEdge options.ascii
  | _ => .notWordEdge options.ascii

/-- The element that an escape outside of sets stands for. -/
def Escape.chunk (options : Options) : Escape → Chunk
  | .code value => .single (.one (.literal options.fold false value))
  | .category kind negated =>
    .single (.one (.set options.fold options.ascii false [.category kind negated]))
  | .anchor kind => ⟨.anchor, [.anchor (namedAnchor options kind)]⟩
  | .group index (least, most) => .single (.backReference options.fold index least most)

/-- The name of a group, up to a terminator. -/
def readName (terminator : Char) : Reader String := do
  let cs ← Reader.takeUntil terminator
  if Text.isName cs then return String.ofList cs else Reader.fail

/-- The number of a group that a condition asks about, by name or by number. -/
def readAskedGroup : Reader Nat := do
  let cs ← Reader.takeUntil ')'
  if Text.isName cs then
    match (← get).names.lookup (String.ofList cs) with
    | some index => return index
    | none => Reader.fail
  else
    match Text.integer? cs with
    | some (.ofNat index) =>
      if index = 0 || groupLimit ≤ index then Reader.fail
      else
        modify fun reading => { reading with asked := index :: reading.asked }
        return index
    | _ => Reader.fail

/-- A reference to a group by its name. -/
def readNamedReference (options : Options) : Reader Chunk := do
  let name ← readName ')'
  match (← get).names.lookup name with
  | none => Reader.fail
  | some index =>
    let escape ← groupReference index
    return escape.chunk options

/-- The options in force: at the top those for the whole pattern. -/
def optionsAt (top : Bool) (options : Options) : Reader Options := do
  let whole := (← get).options
  return if top then whole else options

mutual

/-- A choice of sequences, and the nodes it contributes. -/
def readChoice : Nat → Options → (top : Bool) → (branches : List (List Node)) →
    Reader (List Node)
  | 0, _, _, _ => Reader.fail
  | fuel + 1, options, top, branches => do
    let options ← optionsAt top options
    let branch ← readSequence fuel options (top && branches.isEmpty) []
    let branches := branches ++ [branch]
    if ← Reader.accept '|' then readChoice fuel options top branches
    else
      let options ← optionsAt top options
      return choiceNodes options branches

/-- A sequence of elements up to a bar, a closing parenthesis or the end. -/
def readSequence : Nat → Options → (first : Bool) → List Chunk → Reader (List Node)
  | 0, _, _, _ => Reader.fail
  | fuel + 1, options, first, chunks => do
    match ← Reader.peek with
    | none | some (.plain '|') | some (.plain ')') => return chunks.flatMap (·.nodes)
    | some token =>
      let _ ← Reader.take
      let more := fun chunk => readSequence fuel options first (chunks ++ [chunk])
      match token with
      | .escaped c => more ((← readEscape c).chunk options)
      | .plain c =>
        if options.spaced && isPatternBlank c then readSequence fuel options first chunks
        else if options.spaced && c == '#' then
          skipLine
          readSequence fuel options first chunks
        else
          match c with
          | '[' => more (.single (← readSet options))
          | '.' => more (.single (.one (.any options.dotAll)))
          | '^' =>
            more ⟨.anchor, [.anchor (if options.lineAnchors then .lineStart else .textStart)]⟩
          | '$' =>
            more ⟨.anchor, [.anchor (if options.lineAnchors then .lineEnd else .lastLineEnd)]⟩
          | '?' => readSequence fuel options first (← repeatLast chunks 0 (some 1))
          | '*' => readSequence fuel options first (← repeatLast chunks 0 none)
          | '+' => readSequence fuel options first (← repeatLast chunks 1 none)
          | '{' =>
            match ← readBraces with
            | none => more (.single (.one (.literal options.fold false c.toNat)))
            | some (least, most) => readSequence fuel options first (← repeatLast chunks least most)
          | '(' => readGroup fuel options first chunks
          | _ => more (.single (.one (.literal options.fold false c.toNat)))

/-- What follows an opening parenthesis, and then the rest of the sequence. -/
def readGroup : Nat → Options → (first : Bool) → List Chunk → Reader (List Node)
  | 0, _, _, _ => Reader.fail
  | fuel + 1, options, first, chunks => do
    let more := fun chunk => readSequence fuel options first (chunks ++ [chunk])
    if !(← Reader.accept '?') then more (← readCapture fuel options none)
    else
      match ← Reader.take with
      | some (.plain ':') => more ⟨.repeatable, ← readClosed fuel options⟩
      | some (.plain '>') => more (.single (.atomic (Node.ofList (← readClosed fuel options))))
      | some (.plain 'P') =>
        if ← Reader.accept '<' then
          let name ← readName '>'
          more (← readCapture fuel options (some name))
        else if ← Reader.accept '=' then more (← readNamedReference options)
        else Reader.fail
      | some (.plain '#') =>
        skipRemark
        readSequence fuel options first chunks
      | some (.plain '=') => more (← readAssertion fuel options false false)
      | some (.plain '!') => more (← readAssertion fuel options true false)
      | some (.plain '<') =>
        if ← Reader.accept '=' then more (← readAssertion fuel options false true)
        else if ← Reader.accept '!' then more (← readAssertion fuel options true true)
        else Reader.fail
      | some (.plain '(') => more (← readConditional fuel options)
      | some (.plain c) =>
        if isOptionLetter c || c == '-' then
          match ← readOptionGroup c with
          | .whole on =>
            if !first || !chunks.isEmpty then Reader.fail
            else
              readSequence fuel (← turnOnAll on) first chunks
          | .inside on off =>
            let nodes ← readClosed fuel (options.within on off)
            more (.single (Node.ofList nodes))
        else Reader.fail
      | _ => Reader.fail

/-- A choice and its closing parenthesis. -/
def readClosed : Nat → Options → Reader (List Node)
  | 0, _ => Reader.fail
  | fuel + 1, options => do
    let nodes ← readChoice fuel options false []
    if ← Reader.accept ')' then return nodes else Reader.fail

/-- The inside of a group that captures. -/
def readCapture : Nat → Options → Option String → Reader Chunk
  | 0, _, _ => Reader.fail
  | fuel + 1, options, name => do
    let index ← Reader.openGroup name
    let body := Node.ofList (← readClosed fuel options)
    Reader.closeGroup index body.width
    return .single (.capture index body)

/-- The inside of an assertion about what follows or precedes. -/
def readAssertion : Nat → Options → (negated behind : Bool) → Reader Chunk
  | 0, _, _, _ => Reader.fail
  | fuel + 1, options, negated, behind => do
    let outer := (← get).groupsBefore
    if behind && outer.isNone then
      let count ← Reader.groupCount
      modify fun reading => { reading with groupsBefore := some count }
    let body := Node.ofList (← readClosed fuel options)
    if behind then
      modify fun reading => { reading with groupsBefore := outer }
      let (least, most) := body.width
      if most != some least || lookBehindLimit < least then
        modify fun reading => { reading with unfixed := true }
    return .single (.assertion (if behind then body.width.1 else 0) negated body)

/-- The inside of a choice by whether a group captured. -/
def readConditional : Nat → Options → Reader Chunk
  | 0, _ => Reader.fail
  | fuel + 1, options => do
    let index ← readAskedGroup
    Reader.checkUse index
    let present ← readSequence fuel options false []
    let absent ←
      if ← Reader.accept '|' then readSequence fuel options false [] else pure []
    if ← Reader.accept ')' then
      return .single (.conditional index (Node.ofList present) (Node.ofList absent))
    else Reader.fail

end

/-- A whole pattern. -/
def readPattern : Reader Node := do
  if (← get).rest.isEmpty && (← get).dangling then Reader.fail
  let fuel := 4 * (← get).rest.length + 8
  let nodes ← readChoice fuel {} true []
  let reading ← get
  if reading.options.ascii && reading.options.unicode then throw .conflictingAlphabets
  if !reading.rest.isEmpty then Reader.fail
  if reading.asked.any (reading.groups.length < ·) then Reader.fail
  if reading.unfixed || (reading.options.template && reading.repeats) then Reader.fail
  return Node.ofList nodes

/-- The pattern that a text writes, under given options. -/
def parse (options : Options) (text : List Char) : Except Error Node :=
  let (tokens, dangling) := tokenize text
  (readPattern.run ⟨tokens, dangling, options, [], [], none, [], false, false⟩).map (·.1)

end Turnstile.Pattern
