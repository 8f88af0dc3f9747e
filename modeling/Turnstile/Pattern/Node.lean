import Turnstile.Pattern.Fold
import Turnstile.Text.Digit
import Turnstile.Text.Word
import Turnstile.Text.Blank

/-!
# Search patterns

A pattern is a tree over tests of single characters, anchors, choices, repetitions,
captures and assertions.  All options (case, line anchors, alphabet) are settled when
the tree is built, so a tree has one meaning everywhere.

Characters are given by their code points; a pattern may name code points that no text
contains.
-/

namespace Turnstile.Pattern

/-- A class of characters with a letter of its own. -/
inductive Category where
  | digit
  | space
  | word
  deriving DecidableEq, Repr

/-- Membership in a class, over ASCII or over all characters. -/
def Category.contains (ascii : Bool) : Category → Nat → Bool
  | .digit, code => if ascii then 48 ≤ code && code ≤ 57 else Text.isDigit code
  | .space, code => if ascii then Text.isAsciiBlankCode code else Text.isBlankCode code
  | .word, code =>
    code == 95 || (if ascii then Text.isAsciiAlphanumeric code else Text.isAlphanumeric code)

/-- One entry of a set of characters. -/
inductive SetItem where
  | char (code : Nat)
  | range (first last : Nat)
  | category (kind : Category) (negated : Bool)
  deriving DecidableEq, Repr

/-- One past the characters of the basic plane. -/
def planeSize : Nat := 0x10000

/--
An entry admits a character in compared form.  Outside the basic plane a single
character is compared as written, and a range also through the uppercase form.
-/
def SetItem.admits (fold : Fold) (ascii : Bool) (normal : Nat) : SetItem → Bool
  | .char code =>
    if fold.normal code < planeSize then (fold.forms code).contains normal else code == normal
  | .range first last =>
    ((fold.sources normal).any fun code => first ≤ code && code ≤ last && code < planeSize)
      || (planeSize ≤ last
        && ((first ≤ normal && normal ≤ last)
          || (fold != .exact
            && first ≤ Text.simpleUpper normal && Text.simpleUpper normal ≤ last)))
  | .category kind negated => kind.contains ascii normal != negated

/-- A test of one character. -/
inductive CharTest where
  /-- One character, or every other. -/
  | literal (fold : Fold) (negated : Bool) (code : Nat)
  /-- Every character; the line feed only on request. -/
  | any (lineFeed : Bool)
  /-- The characters of a set, or all others. -/
  | set (fold : Fold) (ascii : Bool) (negated : Bool) (items : List SetItem)
  deriving DecidableEq, Repr

/-- A test admits a character. -/
def CharTest.admits : CharTest → Nat → Bool
  | .literal fold negated written, code => fold.same written code != negated
  | .any lineFeed, code => lineFeed || code != 10
  | .set fold ascii negated items, code =>
    (items.any fun item => item.admits fold ascii (fold.normal code)) != negated

/-- A condition on a place between characters. -/
inductive Anchor where
  | textStart
  | lineStart
  | textEnd
  /-- The end of the text, or just before a line feed that ends it. -/
  | lastLineEnd
  | lineEnd
  | wordEdge (ascii : Bool)
  | notWordEdge (ascii : Bool)
  deriving DecidableEq, Repr

/-- How eagerly a repetition takes more. -/
inductive Greed where
  | greedy
  | reluctant
  /-- As much as possible, and never less on second thought. -/
  | possessive
  deriving DecidableEq, Repr

/-- A search pattern. -/
inductive Node where
  | empty
  | one (test : CharTest)
  | anchor (place : Anchor)
  | sequence (first second : Node)
  | choice (first second : Node)
  | capture (index : Nat) (body : Node)
  | repetition (greed : Greed) (least : Nat) (most : Option Nat) (body : Node)
  /-- The text from `behind` characters back matches, or does not. -/
  | assertion (behind : Nat) (negated : Bool) (body : Node)
  /-- The first way in which the body matches, and no other. -/
  | atomic (body : Node)
  /-- The text captured by a group, whose least and greatest width are recorded. -/
  | backReference (fold : Fold) (index : Nat) (least : Nat) (most : Option Nat)
  /-- One of two patterns, after whether a group captured. -/
  | conditional (index : Nat) (present absent : Node)
  deriving DecidableEq, Repr

namespace Node

/-- Patterns one after another. -/
def ofList : List Node → Node
  | [] => .empty
  | [n] => n
  | n :: m :: rest => .sequence n (ofList (m :: rest))

/-- One of several patterns. -/
def oneOf (first : Node) : List Node → Node
  | [] => first
  | second :: rest => .choice first (oneOf second rest)

/-- The sum of two bounds, the absent bound being infinite. -/
def addMost : Option Nat → Option Nat → Option Nat
  | some a, some b => some (a + b)
  | _, _ => none

/-- The larger of two bounds. -/
def maxMost : Option Nat → Option Nat → Option Nat
  | some a, some b => some (max a b)
  | _, _ => none

/-- The product of two bounds; nothing without end and anything no times is nothing. -/
def mulMost : Option Nat → Option Nat → Option Nat
  | some 0, _ | _, some 0 => some 0
  | some a, some b => some (a * b)
  | _, _ => none

/-- The least and greatest number of characters that a pattern matches. -/
def width : Node → Nat × Option Nat
  | .empty => (0, some 0)
  | .one _ => (1, some 1)
  | .anchor _ => (0, some 0)
  | .sequence a b => (a.width.1 + b.width.1, addMost a.width.2 b.width.2)
  | .choice a b => (min a.width.1 b.width.1, maxMost a.width.2 b.width.2)
  | .capture _ body => body.width
  | .repetition _ least most body => (body.width.1 * least, mulMost body.width.2 most)
  | .assertion .. => (0, some 0)
  | .atomic body => body.width
  | .backReference _ _ least most => (least, most)
  | .conditional _ a b => (min a.width.1 b.width.1, maxMost a.width.2 b.width.2)

end Node

end Turnstile.Pattern
