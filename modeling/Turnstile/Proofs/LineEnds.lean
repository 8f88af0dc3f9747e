import Turnstile.Proofs.JsonText
import Turnstile.Proofs.ReadingDepth

/-!
# Line ends in documents

Reading a text file puts a line feed in the place of every line end.  Between the tokens of
a document line ends of all kinds are blanks, and inside of tokens none of them may stand.
So a reader that is given the one text gives the same as one that is given the other, and
leaves texts that again differ in their line ends only.

**Readers that ignore line ends.**  `IgnoresLineEnds` is closed under what readers are made
of: one after another, and after blanks.

**Results.**
* `ignoresLineEndsAt`: the readers of values, items and members.
* `readChars_withLineFeeds`: documents are read alike whatever line ends they have.
-/

namespace Turnstile

namespace Text

theorem withLineFeeds_cons
    {c : Char}
    (hc : c ≠ '\r')
    (rest : List Char) :
    withLineFeeds (c :: rest) = c :: withLineFeeds rest := by
  rw [withLineFeeds]
  · rintro more rfl
    exact absurd rfl hc
  · exact hc

theorem length_withLineFeeds_le
    (cs : List Char) :
    (withLineFeeds cs).length ≤ cs.length := by
  fun_induction withLineFeeds cs with
  | case1 rest ih =>
      simp only [List.length_cons]
      omega
  | case2 rest _ ih =>
      simp only [List.length_cons]
      omega
  | case3 c rest _ _ ih =>
      simp only [List.length_cons]
      omega
  | case4 => exact Nat.le_refl 0

/-- A line end of any kind starts with a line feed afterwards. -/
theorem exists_withLineFeeds_return
    (rest : List Char) :
    ∃ more, withLineFeeds ('\r' :: rest) = '\n' :: more := by
  unfold withLineFeeds
  split
  · exact ⟨_, rfl⟩
  · exact ⟨_, rfl⟩
  · rename_i hreturn heq
    exact absurd (List.cons.inj heq).1.symm hreturn
  · rename_i heq
    cases heq

section Classes

variable {p : Char → Bool}

/-- Characters of a class that has no line end. -/
theorem takeWhile_withLineFeeds
    (hreturn : p '\r' = false)
    (hfeed : p '\n' = false)
    (cs : List Char) :
    (withLineFeeds cs).takeWhile p = cs.takeWhile p := by
  fun_induction withLineFeeds cs with
  | case1 rest ih => simp [hreturn, hfeed]
  | case2 rest _ ih => simp [hreturn, hfeed]
  | case3 c rest _ _ ih => rw [List.takeWhile_cons, List.takeWhile_cons, ih]
  | case4 => rfl

/-- What follows the characters of a class that has all line ends or none. -/
theorem dropWhile_withLineFeeds
    (hbreaks : p '\r' = p '\n')
    (cs : List Char) :
    (withLineFeeds cs).dropWhile p = withLineFeeds (cs.dropWhile p) := by
  fun_induction withLineFeeds cs with
  | case1 rest ih =>
      cases hfeed : p '\n' with
      | true => simp [hbreaks, hfeed, ih]
      | false => simp [hbreaks, hfeed, withLineFeeds]
  | case2 rest hrest ih =>
      cases hfeed : p '\n' with
      | true => simp [hbreaks, hfeed, ih]
      | false =>
          rw [List.dropWhile_cons_of_neg (by simp [hfeed]),
            List.dropWhile_cons_of_neg (by simp [hbreaks, hfeed]), withLineFeeds]
          exact hrest
  | case3 c rest _ hc ih =>
      rw [List.dropWhile_cons, List.dropWhile_cons, ih]
      split
      · rfl
      · rw [withLineFeeds_cons hc]
  | case4 => rfl

end Classes

end Text

namespace Json

open Text (withLineFeeds)

section Readers

variable {α β : Type} {reader : List Char → Option (α × List Char)}

/-- Given texts that differ in their line ends, a reader leaves such texts. -/
def IgnoresLineEnds
    (reader : List Char → Option (α × List Char)) : Prop :=
  ∀ cs, reader (withLineFeeds cs) = (reader cs).map (Prod.map id withLineFeeds)

/-- A character that ends a line. -/
def IsLineEnd
    (c : Char) : Prop :=
  c = '\r' ∨ c = '\n'

instance (c : Char) : Decidable (IsLineEnd c) :=
  inferInstanceAs (Decidable (c = '\r' ∨ c = '\n'))

theorem IgnoresLineEnds.map
    (h : IgnoresLineEnds reader)
    (f : α → β) :
    IgnoresLineEnds fun cs => (reader cs).map fun read => (f read.1, read.2) := by
  intro cs
  simp only [h cs, Option.map_map]
  rfl

/-- One reader after another. -/
theorem IgnoresLineEnds.bind
    {next : α → List Char → Option (β × List Char)}
    (h : IgnoresLineEnds reader)
    (hnext : ∀ a, IgnoresLineEnds (next a)) :
    IgnoresLineEnds fun cs => (reader cs).bind fun read => next read.1 read.2 := by
  intro cs
  simp only [h cs]
  cases reader cs with
  | none => rfl
  | some read => exact hnext read.1 read.2

/-- A reader of tokens: it refuses the end of the text and line ends. -/
theorem ignoresLineEnds_of_token
    (hnil : reader [] = none)
    (hbreak : ∀ c rest, IsLineEnd c → reader (c :: rest) = none)
    (htoken : ∀ c rest, ¬ IsLineEnd c →
      reader (c :: withLineFeeds rest) =
        (reader (c :: rest)).map (Prod.map id withLineFeeds)) :
    IgnoresLineEnds reader := by
  intro cs
  cases cs with
  | nil =>
      rw [withLineFeeds, hnil]
      rfl
  | cons c rest =>
      by_cases hc : IsLineEnd c
      · have hread : reader (withLineFeeds (c :: rest)) = none := by
          rcases hc with rfl | rfl
          · obtain ⟨more, hmore⟩ := Text.exists_withLineFeeds_return rest
            rw [hmore, hbreak _ _ (.inr rfl)]
          · rw [Text.withLineFeeds_cons (by decide), hbreak _ _ (.inr rfl)]
        rw [hread, hbreak c rest hc]
        rfl
      · rw [Text.withLineFeeds_cons fun hreturn => hc (.inl hreturn), htoken c rest hc]

/-- Line ends of all kinds are blanks. -/
theorem skipSpacing_withLineFeeds
    (cs : List Char) :
    skipSpacing (withLineFeeds cs) = withLineFeeds (skipSpacing cs) :=
  Text.dropWhile_withLineFeeds rfl cs

/-- A reader after blanks. -/
theorem IgnoresLineEnds.spaced
    (h : IgnoresLineEnds reader) :
    IgnoresLineEnds fun cs => reader (skipSpacing cs) := by
  intro cs
  simp only [skipSpacing_withLineFeeds, h (skipSpacing cs)]

end Readers

section Strings

/-- Reads a hexadecimal digit. -/
def readHexDigit : List Char → Option (Nat × List Char)
  | [] => none
  | c :: rest => (hexDigit? c).map (·, rest)

theorem ignoresLineEnds_readHexDigit :
    IgnoresLineEnds readHexDigit := by
  refine ignoresLineEnds_of_token rfl ?_ ?_
  · rintro c rest (rfl | rfl)
    · rfl
    · rfl
  · intro c rest _
    simp only [readHexDigit, Option.map_map]
    rfl

/-- Reads the code of a unit. -/
def readUnit
    (cs : List Char) : Option (Nat × List Char) :=
  (readHexDigit cs).bind fun a =>
    (readHexDigit a.2).bind fun b =>
      (readHexDigit b.2).bind fun c =>
        (readHexDigit c.2).map fun d => ((a.1 * 16 + b.1) * 256 + c.1 * 16 + d.1, d.2)

theorem ignoresLineEnds_readUnit :
    IgnoresLineEnds readUnit :=
  ignoresLineEnds_readHexDigit.bind fun a => ignoresLineEnds_readHexDigit.bind fun b =>
    ignoresLineEnds_readHexDigit.bind fun c => ignoresLineEnds_readHexDigit.map fun d =>
      (a * 16 + b) * 256 + c * 16 + d

theorem readUnit_cons
    (a b c d : Char)
    (rest : List Char) :
    readUnit (a :: b :: c :: d :: rest) = (hexUnit? a b c d).map (·, rest) := by
  simp only [readUnit, readHexDigit, hexUnit?, Option.bind_map, Option.map_bind,
    Option.bind_eq_bind, Option.pure_def, Function.comp_def, Option.map_some]
  simp only [Option.map_eq_bind, Function.comp_def, Option.bind_assoc, Option.bind_some]

/-- A code has four digits. -/
theorem readUnit_of_ne
    {cs : List Char}
    (h : ∀ a b c d rest, cs ≠ a :: b :: c :: d :: rest) :
    readUnit cs = none := by
  match cs with
  | [] => rfl
  | [a] => simp [readUnit, readHexDigit, Option.bind_map]
  | [a, b] => simp [readUnit, readHexDigit, Option.bind_map]
  | [a, b, c] => simp [readUnit, readHexDigit, Option.bind_map]
  | a :: b :: c :: d :: rest => exact absurd rfl (h a b c d rest)

/-- A unit is escaped by its code. -/
theorem readPieces_unit
    (cs : List Char) :
    readPieces ('\\' :: 'u' :: cs) =
      (readUnit cs).bind fun read => withPiece (.unit read.1) (readPieces read.2) := by
  match cs with
  | [] => rfl
  | [a] => rw [readUnit_of_ne (by simp)]; rfl
  | [a, b] => rw [readUnit_of_ne (by simp)]; rfl
  | [a, b, c] => rw [readUnit_of_ne (by simp)]; rfl
  | a :: b :: c :: d :: rest =>
      rw [readUnit_cons, readPieces]
      cases hexUnit? a b c d <;> rfl

/-- Any other escape is a letter. -/
theorem readPieces_letter
    {c : Char}
    (hc : c ≠ 'u')
    (rest : List Char) :
    readPieces ('\\' :: c :: rest) =
      (shortEscape? c).bind fun e => withPiece (.char e) (readPieces rest) := by
  rw [readPieces]
  · cases shortEscape? c <;> rfl
  · rintro a b d e more rfl
    exact absurd rfl hc

theorem readPieces_control
    {c : Char}
    (hc : c.toNat < 32)
    (rest : List Char) :
    readPieces (c :: rest) = none := by
  rw [readPieces, if_pos hc]
  · rintro rfl
    exact absurd hc (by decide)
  · rintro a b d e more rfl
    exact absurd hc (by decide)
  · rintro d more rfl
    exact absurd hc (by decide)

theorem map_withPiece
    (piece : Piece)
    (read : Option (List Piece × List Char)) :
    (withPiece piece read).map (Prod.map id withLineFeeds) =
      withPiece piece (read.map (Prod.map id withLineFeeds)) := by
  cases read with
  | none => rfl
  | some found => rfl

/-- No line end may stand in a string, and none is taken for a part of an escape. -/
theorem ignoresLineEnds_readPieces :
    IgnoresLineEnds readPieces := by
  intro cs
  fun_induction readPieces cs with
  | case1 => rfl
  | case2 rest =>
      rw [Text.withLineFeeds_cons (by decide), readPieces]
      rfl
  | case3 a b c d rest code hcode ih =>
      have hunit := ignoresLineEnds_readUnit (a :: b :: c :: d :: rest)
      rw [readUnit_cons, hcode] at hunit
      rw [Text.withLineFeeds_cons (by decide), Text.withLineFeeds_cons (by decide),
        readPieces_unit, hunit, map_withPiece, ← ih]
      rfl
  | case4 a b c d rest hcode =>
      have hunit := ignoresLineEnds_readUnit (a :: b :: c :: d :: rest)
      rw [readUnit_cons, hcode] at hunit
      rw [Text.withLineFeeds_cons (by decide), Text.withLineFeeds_cons (by decide),
        readPieces_unit, hunit]
      rfl
  | case5 c rest _ e he ih =>
      have hreturn : c ≠ '\r' := by
        rintro rfl
        cases he
      have hunit : c ≠ 'u' := by
        rintro rfl
        cases he
      rw [Text.withLineFeeds_cons (by decide), Text.withLineFeeds_cons hreturn,
        readPieces_letter hunit, he, map_withPiece, ← ih]
      rfl
  | case6 c rest hshort he =>
      rw [Text.withLineFeeds_cons (by decide)]
      by_cases hunit : c = 'u'
      · subst hunit
        have hnone : readUnit rest = none :=
          readUnit_of_ne fun a b d e more heq => hshort a b d e more rfl heq
        rw [Text.withLineFeeds_cons (by decide), readPieces_unit, ignoresLineEnds_readUnit, hnone]
        rfl
      · by_cases hreturn : c = '\r'
        · subst hreturn
          obtain ⟨more, hmore⟩ := Text.exists_withLineFeeds_return rest
          rw [hmore, readPieces_letter (by decide)]
          rfl
        · rw [Text.withLineFeeds_cons hreturn, readPieces_letter hunit, he]
          rfl
  | case7 c rest _ _ _ hcontrol =>
      by_cases hreturn : c = '\r'
      · subst hreturn
        obtain ⟨more, hmore⟩ := Text.exists_withLineFeeds_return rest
        rw [hmore, readPieces_control (by decide)]
        rfl
      · rw [Text.withLineFeeds_cons hreturn, readPieces_control hcontrol]
        rfl
  | case8 c rest hquote _ hslash hcontrol ih =>
      by_cases hescape : c = '\\'
      · -- A backslash that ends the text.
        cases rest with
        | nil =>
            subst hescape
            rfl
        | cons d more => exact (hslash d more hescape rfl).elim
      · have hreturn : c ≠ '\r' := by
          rintro rfl
          exact hcontrol (by decide)
        rw [Text.withLineFeeds_cons hreturn, readPieces_plain hquote hescape hcontrol, ih,
          ← withPiece_eq, map_withPiece]

theorem ignoresLineEnds_readString :
    IgnoresLineEnds readString :=
  ignoresLineEnds_readPieces.map fun pieces => Wording.ofPoints (pieces.map Piece.point)

end Strings

section Numbers

theorem takeWhile_isDecimal_withLineFeeds
    (cs : List Char) :
    (withLineFeeds cs).takeWhile isDecimal = cs.takeWhile isDecimal :=
  Text.takeWhile_withLineFeeds (by decide) (by decide) cs

theorem dropWhile_isDecimal_withLineFeeds
    (cs : List Char) :
    (withLineFeeds cs).dropWhile isDecimal = withLineFeeds (cs.dropWhile isDecimal) :=
  Text.dropWhile_withLineFeeds (by decide) cs

theorem ignoresLineEnds_readIntegerPart :
    IgnoresLineEnds readIntegerPart := by
  refine ignoresLineEnds_of_token rfl ?_ ?_
  · rintro c rest (rfl | rfl)
    · rfl
    · rfl
  · intro c rest _
    by_cases hzero : c = '0'
    · subst hzero
      rfl
    · have hcons : ∀ more, readIntegerPart (c :: more) =
          if isDecimal c then some (c :: more.takeWhile isDecimal, more.dropWhile isDecimal)
          else none := by
        intro more
        rw [readIntegerPart]
        exact hzero
      rw [hcons, hcons, takeWhile_isDecimal_withLineFeeds, dropWhile_isDecimal_withLineFeeds]
      cases isDecimal c with
      | true => rfl
      | false => rfl

theorem readFraction_withLineFeeds
    (cs : List Char) :
    readFraction (withLineFeeds cs) =
      ((readFraction cs).1, withLineFeeds (readFraction cs).2) := by
  rcases cs with _ | ⟨c, rest⟩
  · rfl
  by_cases hreturn : c = '\r'
  · subst hreturn
    obtain ⟨more, hmore⟩ := Text.exists_withLineFeeds_return rest
    have hnone : readFraction ('\r' :: rest) = ([], '\r' :: rest) := rfl
    rw [hnone, hmore]
    rfl
  rw [Text.withLineFeeds_cons hreturn]
  by_cases hpoint : c = '.'
  · subst hpoint
    rw [readFraction, readFraction, takeWhile_isDecimal_withLineFeeds,
      dropWhile_isDecimal_withLineFeeds]
    split
    · rw [Text.withLineFeeds_cons hreturn]
    · rfl
  · have hnone : ∀ more, readFraction (c :: more) = ([], c :: more) :=
      fun more => readFraction_of_ne_point fun d hd => Option.some.inj hd ▸ hpoint
    rw [hnone, hnone, Text.withLineFeeds_cons hreturn]

theorem signed_withLineFeeds
    (cs : List Char) :
    Text.signed (withLineFeeds cs) = ((Text.signed cs).1, withLineFeeds (Text.signed cs).2) := by
  rcases cs with _ | ⟨c, rest⟩
  · rfl
  by_cases hreturn : c = '\r'
  · subst hreturn
    obtain ⟨more, hmore⟩ := Text.exists_withLineFeeds_return rest
    have hnone : Text.signed ('\r' :: rest) = (false, '\r' :: rest) := rfl
    rw [hnone, hmore]
    rfl
  rw [Text.withLineFeeds_cons hreturn]
  by_cases hminus : c = '-'
  · subst hminus
    rfl
  by_cases hplus : c = '+'
  · subst hplus
    rfl
  have hnone : ∀ more, Text.signed (c :: more) = (false, c :: more) := by
    intro more
    simp [Text.signed, hminus, hplus]
  rw [hnone, hnone, Text.withLineFeeds_cons hreturn]

theorem ignoresLineEnds_readExponent :
    IgnoresLineEnds readExponent := by
  refine ignoresLineEnds_of_token rfl ?_ ?_
  · rintro c rest (rfl | rfl)
    · rfl
    · rfl
  · intro letter rest _
    rw [readExponent_cons, readExponent_cons, signed_withLineFeeds,
      takeWhile_isDecimal_withLineFeeds, dropWhile_isDecimal_withLineFeeds]
    split
    · split
      · rfl
      · rfl
    · rfl

theorem ignoresLineEnds_readUnsigned
    (negative : Bool) :
    IgnoresLineEnds (readUnsigned negative) := by
  intro cs
  simp only [readUnsigned, ignoresLineEnds_readIntegerPart cs]
  cases readIntegerPart cs with
  | none => rfl
  | some read =>
      obtain ⟨whole, afterWhole⟩ := read
      simp only [Option.map_some, Prod.map, id, readFraction_withLineFeeds,
        ignoresLineEnds_readExponent (readFraction afterWhole).2]
      cases readExponent (readFraction afterWhole).2 with
      | some read => rfl
      | none =>
          simp only [Option.map_none]
          split
          · split
            · rfl
            · rfl
          · rfl

/-- A word stands at the start of a text whatever line ends follow. -/
theorem prefix_withLineFeeds
    {word : List Char}
    (hword : ∀ c ∈ word, ¬ IsLineEnd c)
    (cs : List Char) :
    word.isPrefixOf (withLineFeeds cs) = word.isPrefixOf cs ∧
      (word.isPrefixOf cs = true →
        (withLineFeeds cs).drop word.length = withLineFeeds (cs.drop word.length)) := by
  induction word generalizing cs with
  | nil => exact ⟨rfl, fun _ => rfl⟩
  | cons w word ih =>
      obtain ⟨hw, hword⟩ := List.forall_mem_cons.mp hword
      rcases cs with _ | ⟨c, rest⟩
      · exact ⟨rfl, fun h => by cases h⟩
      by_cases hreturn : c = '\r'
      · subst hreturn
        obtain ⟨more, hmore⟩ := Text.exists_withLineFeeds_return rest
        have hne : (w == '\r') = false := beq_false_of_ne fun h => hw (.inl h)
        have hne' : (w == '\n') = false := beq_false_of_ne fun h => hw (.inr h)
        rw [hmore, List.isPrefixOf, List.isPrefixOf, hne, hne', Bool.false_and, Bool.false_and]
        exact ⟨rfl, fun h => by cases h⟩
      · obtain ⟨hstarts, hdrop⟩ := ih hword rest
        rw [Text.withLineFeeds_cons hreturn, List.isPrefixOf, List.isPrefixOf, hstarts]
        exact ⟨rfl, fun h => hdrop (Bool.and_eq_true_iff.mp h).2⟩

theorem expect?_withLineFeeds
    {word : List Char}
    (hword : ∀ c ∈ word, ¬ IsLineEnd c)
    (cs : List Char) :
    expect? word (withLineFeeds cs) = (expect? word cs).map withLineFeeds := by
  obtain ⟨hstarts, hdrop⟩ := prefix_withLineFeeds hword cs
  rw [expect?, expect?, hstarts]
  split
  · rename_i h
    rw [hdrop h]
    rfl
  · rfl

theorem ignoresLineEnds_word
    {word : List Char}
    (hword : ∀ c ∈ word, ¬ IsLineEnd c)
    (w : Json) :
    IgnoresLineEnds fun cs => (expect? word cs).map ((w, ·)) := by
  intro cs
  simp only [expect?_withLineFeeds hword, Option.map_map]
  rfl

theorem ignoresLineEnds_readScalar :
    IgnoresLineEnds readScalar := by
  refine ignoresLineEnds_of_token rfl ?_ ?_
  · rintro c rest (rfl | rfl)
    · rfl
    · rfl
  · intro c rest hc
    have hcons := Text.withLineFeeds_cons (fun hreturn => hc (.inl hreturn)) rest
    have hword : ∀ {word : List Char} {w : Json}, (∀ d ∈ word, ¬ IsLineEnd d) →
        (expect? word (c :: withLineFeeds rest)).map ((w, ·)) =
          ((expect? word (c :: rest)).map ((w, ·))).map (Prod.map id withLineFeeds) := by
      intro word w hends
      rw [← hcons]
      exact ignoresLineEnds_word hends w (c :: rest)
    by_cases hminus : c = '-'
    · subst hminus
      have hinfinity : ∀ d ∈ "Infinity".toList, ¬ IsLineEnd d := by simp [IsLineEnd]
      simp only [readScalar, expect?_withLineFeeds hinfinity,
        ignoresLineEnds_readUnsigned true rest]
      cases expect? "Infinity".toList rest with
      | none => rfl
      | some after => rfl
    by_cases hletter : c ∈ ['n', 't', 'f', 'N', 'I']
    · simp only [List.mem_cons, List.not_mem_nil, or_false] at hletter
      rcases hletter with rfl | rfl | rfl | rfl | rfl
      · exact hword (by simp [IsLineEnd])
      · exact hword (by simp [IsLineEnd])
      · exact hword (by simp [IsLineEnd])
      · exact hword (by simp [IsLineEnd])
      · exact hword (by simp [IsLineEnd])
    · have hother : c ∉ ['n', 't', 'f', 'N', 'I', '-'] := by
        simpa [hminus] using hletter
      rw [readScalar_eq_readUnsigned hother, readScalar_eq_readUnsigned hother, ← hcons]
      exact ignoresLineEnds_readUnsigned false (c :: rest)

end Numbers

section Marks

variable {α : Type} {reader : List Char → Option (α × List Char)}

/-- Reads on after a mark that must come first. -/
def readMark
    (mark : Char)
    (reader : List Char → Option (α × List Char)) : List Char → Option (α × List Char)
  | [] => none
  | c :: rest => if c = mark then reader rest else none

/-- Reads on unless brackets are closed at once. -/
def readInside
    (close : Char)
    (empty : α)
    (reader : List Char → Option (α × List Char)) : List Char → Option (α × List Char)
  | [] => reader []
  | c :: rest => if c = close then some (empty, rest) else reader (c :: rest)

/-- Reads on after a comma unless brackets are closed. -/
def readAfter
    (close : Char)
    (last : α)
    (reader : List Char → Option (α × List Char)) : List Char → Option (α × List Char)
  | [] => none
  | c :: rest => if c = close then some (last, rest) else if c = ',' then reader rest else none

theorem ignoresLineEnds_readMark
    {mark : Char}
    (hmark : ¬ IsLineEnd mark)
    (h : IgnoresLineEnds reader) :
    IgnoresLineEnds (readMark mark reader) := by
  refine ignoresLineEnds_of_token rfl ?_ ?_
  · intro c rest hc
    rw [readMark, if_neg]
    rintro rfl
    exact hmark hc
  · intro c rest _
    rw [readMark, readMark]
    split
    · exact h rest
    · rfl

theorem ignoresLineEnds_readInside
    {close : Char}
    (hclose : ¬ IsLineEnd close)
    (empty : α)
    (h : IgnoresLineEnds reader) :
    IgnoresLineEnds (readInside close empty reader) := by
  rintro (_ | ⟨c, rest⟩)
  · exact h []
  by_cases hreturn : c = '\r'
  · subst hreturn
    obtain ⟨more, hmore⟩ := Text.exists_withLineFeeds_return rest
    have hread := h ('\r' :: rest)
    rw [hmore] at hread
    rw [hmore, readInside, readInside, if_neg fun heq => hclose (.inr heq.symm),
      if_neg fun heq => hclose (.inl heq.symm), hread]
  · have hread := h (c :: rest)
    rw [Text.withLineFeeds_cons hreturn] at hread
    rw [Text.withLineFeeds_cons hreturn, readInside, readInside]
    split
    · rfl
    · exact hread

theorem ignoresLineEnds_readAfter
    {close : Char}
    (hclose : ¬ IsLineEnd close)
    (last : α)
    (h : IgnoresLineEnds reader) :
    IgnoresLineEnds (readAfter close last reader) := by
  refine ignoresLineEnds_of_token rfl ?_ ?_
  · intro c rest hc
    rw [readAfter, if_neg, if_neg]
    · rintro rfl
      exact absurd hc (by decide)
    · rintro rfl
      exact hclose hc
  · intro c rest _
    rw [readAfter, readAfter]
    split
    · rfl
    · split
      · exact h rest
      · rfl

theorem readMark_of_ne
    {mark : Char}
    {cs : List Char}
    (hmark : ∀ rest, cs ≠ mark :: rest) :
    readMark mark reader cs = none := by
  rcases cs with _ | ⟨c, rest⟩
  · rfl
  · rw [readMark, if_neg]
    rintro rfl
    exact hmark rest rfl

theorem readAfter_of_ne
    {close : Char}
    {last : α}
    {cs : List Char}
    (hclose : ∀ rest, cs ≠ close :: rest)
    (hcomma : ∀ rest, cs ≠ ',' :: rest) :
    readAfter close last reader cs = none := by
  rcases cs with _ | ⟨c, rest⟩
  · rfl
  · rw [readAfter, if_neg, if_neg]
    · rintro rfl
      exact hcomma rest rfl
    · rintro rfl
      exact hclose rest rfl

end Marks

section Values

variable {depth : Nat}

theorem readValue_array
    (rest : List Char) :
    readValue (depth + 1) ('[' :: rest) =
      readInside ']' (.array [])
        (fun cs => (readItems depth cs).map fun read => (.array read.1, read.2))
        (skipSpacing rest) := by
  rw [readValue]
  rcases skipSpacing rest with _ | ⟨c, inner⟩
  · rfl
  · by_cases hclose : c = ']'
    · subst hclose
      rfl
    · rw [readInside, if_neg hclose]
      split
      · rename_i heq
        exact absurd (List.cons.inj heq).1 hclose
      · rfl

theorem readValue_object
    (rest : List Char) :
    readValue (depth + 1) ('{' :: rest) =
      readInside '}' (.object [])
        (fun cs => (readMembers depth cs).map fun read =>
          (.object (Members.ofList read.1), read.2))
        (skipSpacing rest) := by
  rw [readValue]
  rcases skipSpacing rest with _ | ⟨c, inner⟩
  · rfl
  · by_cases hclose : c = '}'
    · subst hclose
      rfl
    · rw [readInside, if_neg hclose]
      split
      · rename_i heq
        exact absurd (List.cons.inj heq).1 hclose
      · rfl

theorem readItems_succ
    (cs : List Char) :
    readItems (depth + 1) cs =
      (readValue depth cs).bind fun item =>
        readAfter ']' [item.1]
          (fun more => (readItems depth (skipSpacing more)).map fun read =>
            (item.1 :: read.1, read.2))
          (skipSpacing item.2) := by
  rw [readItems]
  cases readValue depth cs with
  | none => rfl
  | some item =>
      obtain ⟨item, rest⟩ := item
      simp only [Option.bind_some]
      split
      · rename_i after heq
        rw [heq]
        rfl
      · rename_i more heq
        rw [heq]
        rfl
      · rename_i hclose hcomma
        rw [readAfter_of_ne hclose hcomma]

/-- Reads the value of a member and the members after it. -/
def readNamed
    (depth : Nat)
    (name : Wording)
    (valueText : List Char) : Option (Members Json × List Char) :=
  (readValue depth (skipSpacing valueText)).bind fun value =>
    readAfter '}' [named name value.1]
      (fun more => (readMembers depth (skipSpacing more)).map fun read =>
        (named name value.1 :: read.1, read.2))
      (skipSpacing value.2)

theorem readMembers_succ
    (cs : List Char) :
    readMembers (depth + 1) cs =
      readMark '"' (fun quoted => (readString quoted).bind fun name =>
        readMark ':' (readNamed depth name.1) (skipSpacing name.2)) cs := by
  conv_lhs => unfold readMembers
  split
  · rename_i quoted
    rw [readMark, if_pos rfl]
    cases readString quoted with
    | none => rfl
    | some name =>
        obtain ⟨name, rest⟩ := name
        simp only [Option.bind_some]
        split
        · rename_i valueText hcolon
          rw [hcolon, readMark, if_pos rfl, readNamed]
          cases readValue depth (skipSpacing valueText) with
          | none => rfl
          | some value =>
              obtain ⟨value, afterValue⟩ := value
              simp only [Option.bind_some]
              split
              · rename_i after heq
                rw [heq]
                rfl
              · rename_i more heq
                rw [heq]
                rfl
              · rename_i hclose hcomma
                rw [readAfter_of_ne hclose hcomma]
        · rename_i hcolon
          rw [readMark_of_ne hcolon]
  · rename_i hquote
    rw [readMark_of_ne hquote]

/-- The readers at a depth ignore line ends. -/
structure IgnoresLineEndsAt
    (depth : Nat) : Prop where
  value : IgnoresLineEnds (readValue depth)
  items : IgnoresLineEnds (readItems depth)
  members : IgnoresLineEnds (readMembers depth)

theorem IgnoresLineEndsAt.value_succ
    (h : IgnoresLineEndsAt depth) :
    IgnoresLineEnds (readValue (depth + 1)) := by
  have hscalar : ∀ {c rest}, c ∉ ['"', '[', '{'] →
      readValue (depth + 1) (c :: rest) = readScalar (c :: rest) := by
    intro c rest hc
    simp only [List.mem_cons, List.not_mem_nil, or_false, not_or] at hc
    rw [readValue]
    · exact fun _ heq => hc.1 (List.cons.inj heq).1
    · exact fun _ heq => hc.2.1 (List.cons.inj heq).1
    · exact fun _ heq => hc.2.2 (List.cons.inj heq).1
  refine ignoresLineEnds_of_token rfl ?_ ?_
  · rintro c rest (rfl | rfl)
    · rw [hscalar (by decide)]
      rfl
    · rw [hscalar (by decide)]
      rfl
  · intro c rest hc
    by_cases hstring : c = '"'
    · subst hstring
      rw [readValue, readValue]
      exact ignoresLineEnds_readString.map ofWording rest
    by_cases harray : c = '['
    · subst harray
      rw [readValue_array, readValue_array]
      exact (ignoresLineEnds_readInside (by decide) _ (h.items.map Json.array)).spaced rest
    by_cases hobject : c = '{'
    · subst hobject
      rw [readValue_object, readValue_object]
      exact (ignoresLineEnds_readInside (by decide) _
        (h.members.map fun members => Json.object (Members.ofList members))).spaced rest
    · have hother : c ∉ ['"', '[', '{'] := by
        simp [hstring, harray, hobject]
      have hread := ignoresLineEnds_readScalar (c :: rest)
      rw [Text.withLineFeeds_cons fun hreturn => hc (.inl hreturn)] at hread
      rw [hscalar hother, hscalar hother, hread]

theorem IgnoresLineEndsAt.items_succ
    (h : IgnoresLineEndsAt depth) :
    IgnoresLineEnds (readItems (depth + 1)) := by
  intro cs
  rw [readItems_succ, readItems_succ]
  exact h.value.bind (fun item => (ignoresLineEnds_readAfter (by decide) [item]
    (h.items.spaced.map (item :: ·))).spaced) cs

theorem IgnoresLineEndsAt.readNamed
    (h : IgnoresLineEndsAt depth)
    (name : Wording) :
    IgnoresLineEnds (readNamed depth name) :=
  h.value.spaced.bind fun value =>
    (ignoresLineEnds_readAfter (by decide) [named name value]
      (h.members.spaced.map (named name value :: ·))).spaced

theorem IgnoresLineEndsAt.members_succ
    (h : IgnoresLineEndsAt depth) :
    IgnoresLineEnds (readMembers (depth + 1)) := by
  have hcolon := fun name => (ignoresLineEnds_readMark (by decide : ¬ IsLineEnd ':')
    (h.readNamed name)).spaced
  have hquote := ignoresLineEnds_readMark (by decide : ¬ IsLineEnd '"')
    (ignoresLineEnds_readString.bind hcolon)
  intro cs
  rw [readMembers_succ, readMembers_succ]
  exact hquote cs

theorem ignoresLineEndsAt
    (depth : Nat) :
    IgnoresLineEndsAt depth := by
  induction depth with
  | zero => exact ⟨fun _ => rfl, fun _ => rfl, fun _ => rfl⟩
  | succ depth ih => exact ⟨ih.value_succ, ih.items_succ, ih.members_succ⟩

theorem isEmpty_withLineFeeds
    (cs : List Char) :
    (withLineFeeds cs).isEmpty = cs.isEmpty := by
  fun_cases withLineFeeds cs <;> rfl

/-- Documents are read alike whatever line ends they have. -/
theorem readChars_withLineFeeds
    (cs : List Char) :
    readChars (withLineFeeds cs) = readChars cs := by
  have hlength : 2 * (withLineFeeds cs).length + 1 ≤ 2 * cs.length + 1 := by
    have hle := Text.length_withLineFeeds_le cs
    omega
  have hread : readValue (2 * cs.length + 1) (skipSpacing (withLineFeeds cs)) =
      (readValue (2 * cs.length + 1) (skipSpacing cs)).map (Prod.map id withLineFeeds) :=
    (ignoresLineEndsAt _).value.spaced cs
  rw [readChars_eq hlength, readChars_eq (Nat.le_refl (2 * cs.length + 1)), hread]
  cases readValue (2 * cs.length + 1) (skipSpacing cs) with
  | none => rfl
  | some read =>
      simp only [Option.map_some, Option.bind_some, Prod.map, id, skipSpacing_withLineFeeds,
        isEmpty_withLineFeeds]

end Values

end Json
end Turnstile
