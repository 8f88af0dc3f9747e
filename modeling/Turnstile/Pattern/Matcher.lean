import Turnstile.Pattern.Node

/-!
# Matching

`Node.run` tries a pattern at a place of a text and hands the place behind it, with
the captures so far, to a continuation; the first way in which both succeed is the
answer.  Choices are tried in order, repetitions by their greed.

**Termination.**  `run` recurses on the pattern.  A repetition gets its body as a
function and counts rounds: required rounds go down to zero, and of further rounds
each but one moves forward, so the length of the text bounds them.
-/

namespace Turnstile.Pattern

/-- A place in a text, and where each group starts and ends so far. -/
structure Place where
  position : Nat
  marks : List (Nat × Nat)

namespace Place

/-- Records the position under a mark. -/
def mark (place : Place) (name : Nat) : Place :=
  { place with marks := (name, place.position) :: place.marks.filter (·.1 != name) }

/-- The position recorded under a mark. -/
def mark? (place : Place) (name : Nat) : Option Nat := place.marks.lookup name

/-- The mark at the start of a group. -/
def startMark (index : Nat) : Nat := 2 * index

/-- The mark at the end of a group. -/
def endMark (index : Nat) : Nat := 2 * index + 1

/-- The bounds of what a group captured. -/
def captured? (place : Place) (index : Nat) : Option (Nat × Nat) :=
  match place.mark? (startMark index), place.mark? (endMark index) with
  | some first, some last => if first ≤ last then some (first, last) else none
  | _, _ => none

end Place

/-- What to do from a place on. -/
abbrev Continuation := Place → Option Place

/-- A pattern as a function: from a place, and then a continuation. -/
abbrev Step := Place → Continuation → Option Place

section Repetition

variable (step : Step)

/-- Exactly `rounds` rounds. -/
def required : Nat → Step
  | 0, place, next => next place
  | rounds + 1, place, next => step place fun reached => required rounds reached next

/-- No further round may start here: none is left, or the last one did not move. -/
def settled (left last : Option Nat) (place : Place) : Bool :=
  left == some 0 || last == some place.position

/-- Further rounds, as many as possible first. -/
def greedily : Nat → (left last : Option Nat) → Step
  | 0, _, _, place, next => next place
  | fuel + 1, left, last, place, next =>
    if settled left last place then next place
    else
      match step place fun reached =>
          greedily fuel (left.map (· - 1)) (some place.position) reached next with
      | some found => some found
      | none => next place

/-- Further rounds, as few as possible first. -/
def reluctantly : Nat → (left last : Option Nat) → Step
  | 0, _, _, place, next => next place
  | fuel + 1, left, last, place, next =>
    match next place with
    | some found => some found
    | none =>
      if settled left last place then none
      else step place fun reached =>
        reluctantly fuel (left.map (· - 1)) (some place.position) reached next

/-- The place after as many further rounds as possible, each matched in its first way. -/
def furthest : Nat → (left last : Option Nat) → Place → Place
  | 0, _, _, place => place
  | fuel + 1, left, last, place =>
    if settled left last place then place
    else
      match step place some with
      | some reached => furthest fuel (left.map (· - 1)) (some place.position) reached
      | none => place

/-- The place after exactly `rounds` rounds, each matched in its first way. -/
def requiredFirst : Nat → Place → Option Place
  | 0, place => some place
  | rounds + 1, place => (step place some).bind (requiredFirst rounds)

end Repetition

/-- The character at a position is part of a word. -/
def wordAt (text : Array Nat) (ascii : Bool) (position : Nat) : Bool :=
  match text[position]? with
  | some code => Category.word.contains ascii code
  | none => false

/-- Exactly one of the neighbours of a place is part of a word. -/
def atWordEdge (text : Array Nat) (ascii : Bool) (position : Nat) : Bool :=
  (position != 0 && wordAt text ascii (position - 1)) != wordAt text ascii position

/-- A condition on a place holds; an empty text has neither word edges nor other places. -/
def Anchor.holds (text : Array Nat) (position : Nat) : Anchor → Bool
  | .textStart => position == 0
  | .lineStart => position == 0 || text[position - 1]? == some 10
  | .textEnd => position == text.size
  | .lastLineEnd =>
    position == text.size || (position + 1 == text.size && text[position]? == some 10)
  | .lineEnd => position == text.size || text[position]? == some 10
  | .wordEdge ascii => text.size != 0 && atWordEdge text ascii position
  | .notWordEdge ascii => text.size != 0 && !atWordEdge text ascii position

/-- The text from one position to another recurs at a third. -/
def recurs (text : Array Nat) (fold : Fold) (first last position : Nat) : Bool :=
  position + (last - first) ≤ text.size
    && (List.range (last - first)).all fun i =>
      match text[first + i]?, text[position + i]? with
      | some a, some b => fold.normal a == fold.normal b
      | _, _ => false

/-- Tries a pattern at a place, and then a continuation. -/
def Node.run (text : Array Nat) : Node → Step
  | .empty, place, next => next place
  | .one test, place, next =>
    match text[place.position]? with
    | some code =>
      if test.admits code then next { place with position := place.position + 1 } else none
    | none => none
  | .anchor condition, place, next =>
    if condition.holds text place.position then next place else none
  | .sequence first second, place, next =>
    first.run text place fun reached => second.run text reached next
  | .choice first second, place, next =>
    match first.run text place next with
    | some found => some found
    | none => second.run text place next
  | .capture index body, place, next =>
    body.run text (place.mark (Place.startMark index)) fun reached =>
      next (reached.mark (Place.endMark index))
  | .repetition greed least most body, place, next =>
    let left := most.map (· - least)
    let rounds := text.size + 2
    match greed with
    | .greedy =>
      required (body.run text) least place fun reached =>
        greedily (body.run text) rounds left none reached next
    | .reluctant =>
      required (body.run text) least place fun reached =>
        reluctantly (body.run text) rounds left none reached next
    | .possessive =>
      match requiredFirst (body.run text) least place with
      | some reached => next (furthest (body.run text) rounds left none reached)
      | none => none
  | .assertion behind negated body, place, next =>
    let found :=
      if behind ≤ place.position then
        body.run text { place with position := place.position - behind } some
      else none
    match found, negated with
    | some reached, false => next { reached with position := place.position }
    | none, true => next place
    | _, _ => none
  | .atomic body, place, next =>
    match body.run text place some with
    | some reached => next reached
    | none => none
  | .backReference fold index _ _, place, next =>
    match place.captured? index with
    | some (first, last) =>
      if recurs text fold first last place.position then
        next { place with position := place.position + (last - first) }
      else none
    | none => none
  | .conditional index present absent, place, next =>
    match place.captured? index with
    | some _ => present.run text place next
    | none => absent.run text place next

/-- The pattern matches at some place of the text. -/
def Node.search (node : Node) (text : String) : Bool :=
  let codes := (text.toList.map Char.toNat).toArray
  (List.range (codes.size + 1)).any fun start => (node.run codes ⟨start, []⟩ some).isSome

end Turnstile.Pattern
