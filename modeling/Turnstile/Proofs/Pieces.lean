import Mathlib.Data.List.Basic
import Mathlib.Data.List.DropRight
import Mathlib.Data.List.TakeWhile
import Turnstile.Text.Blank

/-!
# Texts in pieces

Cutting a text at every separator and joining parts with the separator between them undo
each other.  Joining needs parts that are free of the separator: one that holds it comes
back in several pieces, so that the number of pieces tells whether any part held it.

**Results.**
* `pieces_intercalate`: parts without the separator come back as they were.
* `length_pieces_intercalate_iff`: there are as many pieces as parts only then.
* `cut_append_cons`: the first separator divides a text.
* `takeWhile_append_of_startsNo`: a run of characters ends where no more of them follow.
* `trimmed_append`, `isTrimmed_trimmed`: what is left of a text without the blanks around it.
-/

namespace Turnstile
namespace Text

section Pieces

variable {separator : Char} {cs : List Char} {parts : List (List Char)}

theorem pieces_eq_splitOn
    (separator : Char)
    (cs : List Char) :
    pieces separator cs = cs.splitOn separator := by
  induction cs with
  | nil =>
      rfl
  | cons c rest ih =>
      rw [pieces, ih, List.splitOn_cons_eq_if_modifyHead]
      cases hpieces : rest.splitOn separator with
      | nil => exact absurd hpieces (List.splitOn_ne_nil separator rest)
      | cons first others => simp only [beq_iff_eq, List.modifyHead_cons]

/-- There is one piece more than separators. -/
theorem length_pieces
    (separator : Char)
    (cs : List Char) :
    (pieces separator cs).length = cs.count separator + 1 := by
  induction cs with
  | nil =>
      rfl
  | cons c rest ih =>
      rw [pieces_eq_splitOn] at ih ⊢
      rw [List.splitOn_cons_eq_if_modifyHead, List.count_cons]
      by_cases hc : c = separator
      · simp [hc, ih]
      · simp [hc, ih]

theorem pieces_of_not_mem
    (h : separator ∉ cs) :
    pieces separator cs = [cs] := by
  rw [pieces_eq_splitOn, List.splitOn_eq_singleton h]

theorem pieces_append_cons
    (h : separator ∉ cs)
    (rest : List Char) :
    pieces separator (cs ++ separator :: rest) = cs :: pieces separator rest := by
  rw [pieces_eq_splitOn, pieces_eq_splitOn, List.splitOn_append_cons_self_of_not_mem h]

/-- A separator ends the pieces before it and starts those after it. -/
theorem pieces_append_separator
    (separator : Char)
    (cs rest : List Char) :
    pieces separator (cs ++ separator :: rest) = pieces separator cs ++ pieces separator rest := by
  rw [pieces_eq_splitOn, pieces_eq_splitOn, pieces_eq_splitOn, List.splitOn_append_cons_self]

/-- Parts without the separator are the pieces of what they are joined to. -/
theorem pieces_intercalate
    (hparts : parts ≠ [])
    (h : ∀ part ∈ parts, separator ∉ part) :
    pieces separator ([separator].intercalate parts) = parts := by
  rw [pieces_eq_splitOn, List.splitOn_intercalate separator h hparts]

/-- The pieces of a text, joined again, are the text. -/
theorem intercalate_pieces
    (separator : Char)
    (cs : List Char) :
    [separator].intercalate (pieces separator cs) = cs := by
  rw [pieces_eq_splitOn, List.intercalate_splitOn]

theorem eq_or_mem_of_mem_intercalate
    {c : Char}
    (h : c ∈ [separator].intercalate parts) :
    c = separator ∨ ∃ part ∈ parts, c ∈ part := by
  induction parts with
  | nil =>
      simp at h
  | cons first others ih =>
      cases others with
      | nil =>
          exact .inr ⟨first, by simp, by simpa using h⟩
      | cons second more =>
          rw [List.intercalate_cons_cons, List.mem_append, List.mem_append,
            List.mem_singleton] at h
          rcases h with (hfirst | hseparator) | hmore
          · exact .inr ⟨first, by simp, hfirst⟩
          · exact .inl hseparator
          · obtain hseparator | ⟨part, hpart, hmem⟩ := ih hmore
            · exact .inl hseparator
            · exact .inr ⟨part, List.mem_cons_of_mem first hpart, hmem⟩

/-- The separators in joined parts: those in the parts, and one between each two of them. -/
theorem count_intercalate
    (separator : Char)
    (hparts : parts ≠ []) :
    ([separator].intercalate parts).count separator + 1 =
      parts.flatten.count separator + parts.length := by
  induction parts with
  | nil =>
      exact absurd rfl hparts
  | cons first others ih =>
      cases others with
      | nil =>
          simp
      | cons second more =>
          have hmore := ih (by simp)
          rw [List.intercalate_cons_cons, List.count_append, List.count_append,
            List.flatten_cons, List.count_append, List.length_cons, List.count_singleton_self]
          omega

/-- There are as many pieces as parts iff no part holds the separator. -/
theorem length_pieces_intercalate_iff
    (separator : Char)
    (hparts : parts ≠ []) :
    (pieces separator ([separator].intercalate parts)).length = parts.length ↔
      ∀ part ∈ parts, separator ∉ part := by
  have hnone : parts.flatten.count separator = 0 ↔ ∀ part ∈ parts, separator ∉ part := by
    rw [List.count_eq_zero, List.mem_flatten]
    simp only [not_exists, not_and]
  rw [length_pieces, count_intercalate separator hparts, ← hnone]
  omega

/-- The pieces do not hold the separator. -/
theorem not_mem_of_mem_pieces
    {piece : List Char}
    (h : piece ∈ pieces separator cs) :
    separator ∉ piece := by
  have hne : pieces separator cs ≠ [] := by
    rw [pieces_eq_splitOn]
    exact List.splitOn_ne_nil separator cs
  refine (length_pieces_intercalate_iff separator hne).mp ?_ piece h
  rw [intercalate_pieces]

/-- Before the first separator stands the longest start without one. -/
theorem fst_cut
    (separator : Char)
    (cs : List Char) :
    (cut separator cs).1 = cs.takeWhile (· != separator) := by
  induction cs with
  | nil =>
      rfl
  | cons c rest ih =>
      rw [cut]
      by_cases hc : c = separator
      · simp [hc]
      · simp [hc, ih]

theorem cut_of_not_mem
    (h : separator ∉ cs) :
    cut separator cs = (cs, none) := by
  induction cs with
  | nil =>
      rfl
  | cons c rest ih =>
      rw [List.mem_cons, not_or] at h
      rw [cut, if_neg (Ne.symm h.1), ih h.2]

/-- The first separator divides a text. -/
theorem cut_append_cons
    (h : separator ∉ cs)
    (rest : List Char) :
    cut separator (cs ++ separator :: rest) = (cs, some rest) := by
  induction cs with
  | nil =>
      rw [List.nil_append, cut, if_pos rfl]
  | cons c more ih =>
      rw [List.mem_cons, not_or] at h
      rw [List.cons_append, cut, if_neg (Ne.symm h.1), ih h.2]

/-- A text is divided at its first separator in one way. -/
theorem append_cons_inj
    {cs' rest' : List Char}
    (h : separator ∉ cs)
    (h' : separator ∉ cs') :
    cs ++ separator :: rest = cs' ++ separator :: rest' ↔ cs = cs' ∧ rest = rest' := by
  constructor
  · intro heq
    have hcut := congrArg (cut separator) heq
    rw [cut_append_cons h, cut_append_cons h', Prod.mk.injEq, Option.some.injEq] at hcut
    exact hcut
  · rintro ⟨rfl, rfl⟩
    rfl

end Pieces

section Joined

variable {separator : Char} {between : String} {parts : List String}

theorem toList_joined
    (hbetween : between.toList = [separator])
    (parts : List String) :
    (joined between parts).toList = [separator].intercalate (parts.map String.toList) := by
  rw [joined, String.toList_intercalate, hbetween]

theorem pieces_joined
    (hbetween : between.toList = [separator])
    (hparts : parts ≠ [])
    (h : ∀ part ∈ parts, separator ∉ part.toList) :
    pieces separator (joined between parts).toList = parts.map String.toList := by
  rw [toList_joined hbetween]
  apply pieces_intercalate
  · simpa using hparts
  · rwa [List.forall_mem_map]

/-- The pieces of a text, joined again as texts, are the text. -/
theorem joined_pieces
    (hbetween : between.toList = [separator])
    (text : String) :
    joined between ((pieces separator text.toList).map String.ofList) = text := by
  apply String.toList_injective
  rw [toList_joined hbetween, List.map_map]
  simp [Function.comp_def, intercalate_pieces]

end Joined

section Runs

variable {p : Char → Bool} {cs rest : List Char}

/-- A text does not start with a character of a class. -/
def StartsNo
    (p : Char → Bool)
    (cs : List Char) : Prop :=
  ∀ c ∈ cs.head?, p c = false

theorem takeWhile_append_of_startsNo
    (hcs : ∀ c ∈ cs, p c = true)
    (hrest : StartsNo p rest) :
    (cs ++ rest).takeWhile p = cs := by
  rw [List.takeWhile_append_of_pos hcs]
  cases rest with
  | nil => simp
  | cons c rest => simp [hrest c rfl]

/-- A text after which no character of a class starts has as many of them as alone. -/
theorem takeWhile_append_eq
    (hrest : StartsNo p rest)
    (cs : List Char) :
    (cs ++ rest).takeWhile p = cs.takeWhile p := by
  rw [List.takeWhile_append]
  split
  · next hall =>
      have hnone : rest.takeWhile p = [] :=
        takeWhile_append_of_startsNo (List.forall_mem_nil _) hrest
      have hsame : cs.takeWhile p = cs := (List.takeWhile_prefix p).eq_of_length hall
      rw [hnone, hsame, List.append_nil]
  · rfl

theorem dropWhile_append_of_startsNo
    (hcs : ∀ c ∈ cs, p c = true)
    (hrest : StartsNo p rest) :
    (cs ++ rest).dropWhile p = rest := by
  rw [List.dropWhile_append_of_pos hcs]
  cases rest with
  | nil => rfl
  | cons c rest => simp [hrest c rfl]

theorem startsNo_dropWhile
    (p : Char → Bool)
    (cs : List Char) :
    StartsNo p (cs.dropWhile p) := by
  intro c hc
  have hfirst := List.head?_dropWhile_not p cs
  rw [Option.mem_def.mp hc] at hfirst
  exact hfirst

end Runs

section Trimming

variable {before core after : List Char}

/-- A text neither starts nor ends with a blank. -/
structure IsTrimmed
    (cs : List Char) : Prop where
  start : StartsNo isBlank cs
  finish : StartsNo isBlank cs.reverse

theorem startsNo_iff
    {p : Char → Bool}
    {cs : List Char} :
    (cs.head?.all fun c => !p c) = true ↔ StartsNo p cs := by
  cases cs with
  | nil => simp [StartsNo]
  | cons c cs => simp [StartsNo]

instance (cs : List Char) : Decidable (IsTrimmed cs) :=
  decidable_of_iff
    ((cs.head?.all fun c => !isBlank c) = true ∧ (cs.reverse.head?.all fun c => !isBlank c) = true)
    ⟨fun h => ⟨startsNo_iff.mp h.1, startsNo_iff.mp h.2⟩,
      fun h => ⟨startsNo_iff.mpr h.start, startsNo_iff.mpr h.finish⟩⟩

theorem isTrimmed_of_forall
    (h : ∀ c ∈ core, isBlank c = false) :
    IsTrimmed core where
  start := fun c hc => h c (List.mem_of_mem_head? hc)
  finish := fun c hc => h c (List.mem_reverse.mp (List.mem_of_mem_head? hc))

/-- What is trimmed is kept between blanks. -/
theorem trimmed_append
    (hbefore : ∀ c ∈ before, isBlank c = true)
    (hafter : ∀ c ∈ after, isBlank c = true)
    (hcore : IsTrimmed core)
    (hne : core ≠ []) :
    trimmed (before ++ core ++ after) = core := by
  have hstart : StartsNo isBlank (core ++ after) := by
    intro c hc
    rw [List.head?_append_of_ne_nil _ hne] at hc
    exact hcore.start c hc
  rw [trimmed, dropEndWhile, List.append_assoc, dropWhile_append_of_startsNo hbefore hstart,
    List.reverse_append, dropWhile_append_of_startsNo (by simpa using hafter) hcore.finish,
    List.reverse_reverse]

theorem trimmed_of_forall
    (h : ∀ c ∈ core, isBlank c = true) :
    trimmed core = [] := by
  rw [trimmed, List.dropWhile_eq_nil_iff.mpr h]
  rfl

/-- Only blanks are dropped. -/
theorem exists_trimmed_eq
    (cs : List Char) :
    ∃ before after,
      (∀ c ∈ before, isBlank c = true) ∧
      (∀ c ∈ after, isBlank c = true) ∧
      cs = before ++ trimmed cs ++ after := by
  refine ⟨cs.takeWhile isBlank, ((cs.dropWhile isBlank).reverse.takeWhile isBlank).reverse,
    fun c hc => List.mem_takeWhile_imp hc,
    fun c hc => List.mem_takeWhile_imp (List.mem_reverse.mp hc), ?_⟩
  rw [trimmed, dropEndWhile, List.append_assoc, ← List.reverse_append,
    List.takeWhile_append_dropWhile, List.reverse_reverse, List.takeWhile_append_dropWhile]

/-- What is no blank is kept. -/
theorem mem_trimmed
    {cs : List Char}
    {c : Char}
    (hc : c ∈ cs)
    (hblank : isBlank c = false) :
    c ∈ trimmed cs := by
  obtain ⟨before, after, hbefore, hafter, hcs⟩ := exists_trimmed_eq cs
  rw [hcs, List.mem_append, List.mem_append] at hc
  rcases hc with (hmem | hmem) | hmem
  · simp [hbefore c hmem] at hblank
  · exact hmem
  · simp [hafter c hmem] at hblank

/-- No blanks are left at the ends. -/
theorem isTrimmed_trimmed
    (cs : List Char) :
    IsTrimmed (trimmed cs) where
  start := by
    obtain ⟨rest, hrest⟩ := List.rdropWhile_prefix isBlank (cs.dropWhile isBlank)
    intro c hc
    apply startsNo_dropWhile isBlank cs c
    rw [← hrest]
    exact List.mem_head?_append_of_mem_head? hc
  finish := by
    rw [trimmed, dropEndWhile, List.reverse_reverse]
    exact startsNo_dropWhile isBlank _

/-- Blanks around a text are dropped with its own. -/
theorem trimmed_append_blanks
    (hbefore : ∀ c ∈ before, isBlank c = true)
    (hafter : ∀ c ∈ after, isBlank c = true)
    (cs : List Char) :
    trimmed (before ++ cs ++ after) = trimmed cs := by
  obtain ⟨front, back, hfront, hback, hcs⟩ := exists_trimmed_eq cs
  have hall : before ++ cs ++ after = (before ++ front) ++ trimmed cs ++ (back ++ after) := by
    conv_lhs => rw [hcs]
    simp only [List.append_assoc]
  have hbefore' := List.forall_mem_append.mpr ⟨hbefore, hfront⟩
  have hafter' := List.forall_mem_append.mpr ⟨hback, hafter⟩
  rw [hall]
  by_cases hne : trimmed cs = []
  · rw [hne, List.append_nil, trimmed_of_forall (List.forall_mem_append.mpr ⟨hbefore', hafter'⟩)]
  · exact trimmed_append hbefore' hafter' (isTrimmed_trimmed cs) hne

/-- A text of blanks only. -/
def IsBlankText
    (s : String) : Prop :=
  ∀ c ∈ s.toList, isBlank c = true

theorem IsBlankText.not_mem
    {s : String}
    (h : IsBlankText s)
    {c : Char}
    (hc : isBlank c = false) :
    c ∉ s.toList := by
  intro hmem
  rw [h c hmem] at hc
  cases hc

theorem trim_append_blanks
    {before after : String}
    (hbefore : IsBlankText before)
    (hafter : IsBlankText after)
    (s : String) :
    trim (before ++ s ++ after) = trim s := by
  rw [trim, String.toList_append, String.toList_append, trimmed_append_blanks hbefore hafter,
    ← trim]

/-- Characters may be exchanged before or after trimming, if blanks stay blanks. -/
theorem trimmed_map
    {f : Char → Char}
    (hf : ∀ c, isBlank (f c) = isBlank c)
    (cs : List Char) :
    trimmed (cs.map f) = (trimmed cs).map f := by
  have hsame : isBlank ∘ f = isBlank := funext hf
  rw [trimmed, trimmed, dropEndWhile, dropEndWhile, List.dropWhile_map, hsame, ← List.map_reverse,
    List.dropWhile_map, hsame, ← List.map_reverse]

theorem trimmed_eq_self
    (h : IsTrimmed core) :
    trimmed core = core := by
  by_cases hne : core = []
  · rw [hne]
    rfl
  · have hkept := trimmed_append (List.forall_mem_nil _) (List.forall_mem_nil _) h hne
    rwa [List.nil_append, List.append_nil] at hkept

/-- What is trimmed may be followed by what has no blanks. -/
theorem IsTrimmed.append
    (hcore : IsTrimmed core)
    (hne : core ≠ [])
    (hafter : after.any isBlank = false) :
    IsTrimmed (core ++ after) where
  start := by
    intro c hc
    rw [List.head?_append_of_ne_nil _ hne] at hc
    exact hcore.start c hc
  finish := by
    intro c hc
    rw [List.reverse_append] at hc
    cases hend : after.reverse with
    | nil =>
        rw [hend] at hc
        exact hcore.finish c hc
    | cons last more =>
        rw [hend] at hc
        cases hc
        have hmem : c ∈ after := List.mem_reverse.mp (by rw [hend]; exact List.mem_cons_self)
        simpa using List.any_eq_false.mp hafter c hmem

end Trimming

end Text
end Turnstile
