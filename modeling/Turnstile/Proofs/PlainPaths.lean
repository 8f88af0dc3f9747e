import Turnstile.Proofs.DelimitedPatterns

/-!
# Paths as patterns

A *plain* text is made of slashes, ASCII letters and digits, dashes and underscores, none of
which has a meaning of its own in a pattern.  So a plain text is read as its characters one
after another, under any options for case, and a search finds it in every text of which it
is a part.

A path may also have the form of a delimited pattern.  Then the part between its first and
its last slash is what is searched for, which is found in the path as well, unless that part
is empty or the path ends in letters that are no options.  Such a path is *misread*.

**Results.**
* `run_readSequence_plain`, `parse_plain`: plain texts are read character by character.
* `run_literals`, `search_literals`: characters one after another are found where they stand.
* `find_of_infix`: a plain pattern is found in a text of which it is a part.
* `plain_paths_match_unless_misread`: which plain paths match themselves.
* `path_ending_in_word_misses_itself`: a path that does not.
-/

namespace Turnstile

namespace Pattern

section Reading

variable {options : Options} {first : Bool} {chunks : List Chunk} {c : Char} {cs : List Char}
  {fuel : Nat} {s : Reading}

/-- A slash, an ASCII letter or digit, a dash or an underscore. -/
def isPlainChar
    (c : Char) : Bool :=
  c == '/' || c == '-' || c == '_' || Text.isAsciiAlphanumeric c.toNat

/-- A plain character is no blank, which a spaced pattern would skip. -/
theorem isPatternBlank_of_isPlainChar
    (h : isPlainChar c = true) :
    isPatternBlank c = false := by
  have hlow : 45 ≤ c.toNat := by
    simp only [isPlainChar, Text.isAsciiAlphanumeric, Bool.or_eq_true, Bool.and_eq_true,
      decide_eq_true_eq, beq_iff_eq] at h
    rcases h with ((rfl | rfl) | rfl) | h
    · decide
    · decide
    · decide
    · omega
  simp only [isPatternBlank, Text.isAsciiBlankCode, Bool.or_eq_false_iff, Bool.and_eq_false_iff,
    decide_eq_false_iff_not, beq_eq_false_iff_ne]
  omega

theorem run_get_self
    (s : Reading) :
    (get : Reader Reading).run s = .ok (s, s) :=
  rfl

theorem run_peek_of_rest
    {token : Option Token}
    (h : s.rest.head? = token) :
    Reader.peek.run s = .ok (token, s) := by
  subst h
  rfl

/-- A token is taken, if no lone backslash ends the text. -/
theorem run_take_of_rest
    {token : Token}
    {rest : List Token}
    (hrest : s.rest = token :: rest)
    (hdangling : s.dangling = false) :
    Reader.take.run s = .ok (some token, { s with rest := rest }) := by
  have hcontinue : (Reader.continueWith rest).run s = .ok ((), { s with rest := rest }) := by
    rw [Reader.continueWith, run_bind_of_run (run_get_self s), hdangling, Bool.and_false,
      if_neg Bool.false_ne_true]
    rfl
  rw [Reader.take, run_bind_of_run (run_get_self s), hrest]
  dsimp only
  rw [run_bind_of_run hcontinue]
  rfl

/-- The pattern of one character. -/
def literal
    (options : Options)
    (c : Char) : Node :=
  .one (.literal options.fold false c.toNat)

/-- A plain character adds itself to a sequence. -/
theorem run_readSequence_cons
    {rest : List Token}
    (hc : isPlainChar c = true)
    (hrest : s.rest = .plain c :: rest)
    (hdangling : s.dangling = false) :
    (readSequence (fuel + 1) options first chunks).run s =
      (readSequence fuel options first (chunks ++ [.single (literal options c)])).run
        { s with rest := rest } := by
  rw [readSequence, run_bind_of_run (run_peek_of_rest (congrArg List.head? hrest))]
  split
  next heq =>
    cases heq
  next heq =>
    cases heq
    exact absurd hc (by decide)
  next heq =>
    cases heq
    exact absurd hc (by decide)
  next token _ _ heq =>
    obtain rfl := Option.some.inj heq
    rw [run_bind_of_run (run_take_of_rest hrest hdangling)]
    dsimp only
    rw [isPatternBlank_of_isPlainChar hc, Bool.and_false, if_neg Bool.false_ne_true, if_neg]
    · -- None of the characters with a meaning of their own is plain.
      split
      all_goals try exact absurd hc (by decide)
      rfl
    · rintro hspaced
      rw [Bool.and_eq_true, beq_iff_eq] at hspaced
      rw [hspaced.2] at hc
      exact absurd hc (by decide)

/-- Plain characters are added to a sequence one after another, up to the end. -/
theorem run_readSequence_plain
    (hcs : ∀ c ∈ cs, isPlainChar c = true)
    (hrest : s.rest = cs.map .plain)
    (hdangling : s.dangling = false)
    (hfuel : cs.length < fuel) :
    (readSequence fuel options first chunks).run s =
      .ok (chunks.flatMap (·.nodes) ++ cs.map (literal options), { s with rest := [] }) := by
  induction cs generalizing fuel chunks s with
  | nil =>
      have hsame : { s with rest := [] } = s := by
        rw [← List.map_nil (f := Token.plain), ← hrest]
      cases fuel with
      | zero => cases hfuel
      | succ fuel =>
          rw [readSequence, run_bind_of_run (run_peek_of_rest (congrArg List.head? hrest)), hsame,
            List.map_nil (f := literal options), List.append_nil]
          rfl
  | cons c cs ih =>
      rw [List.forall_mem_cons] at hcs
      cases fuel with
      | zero => cases hfuel
      | succ fuel =>
          rw [run_readSequence_cons hcs.1 hrest hdangling,
            ih (s := { s with rest := cs.map .plain }) hcs.2 rfl hdangling
              (Nat.lt_of_succ_lt_succ hfuel)]
          simp [Chunk.single]

theorem tokenize_plain
    (hcs : ∀ c ∈ cs, isPlainChar c = true) :
    tokenize cs = (cs.map .plain, false) := by
  induction cs with
  | nil =>
      rfl
  | cons c cs ih =>
      rw [List.forall_mem_cons] at hcs
      have hne : c ≠ '\\' := by
        rintro rfl
        exact absurd hcs.1 (by decide)
      unfold tokenize
      split
      next heq => cases heq
      next heq => exact absurd (List.cons.inj heq).1 hne
      next heq => exact absurd (List.cons.inj heq).1 hne
      next heq =>
        obtain ⟨rfl, rfl⟩ := List.cons.inj heq
        rw [ih hcs.2]
        rfl

theorem run_accept_of_nil
    (hrest : s.rest = [])
    (c : Char) :
    (Reader.accept c).run s = .ok (false, s) := by
  rw [Reader.accept, run_bind_of_run (run_peek_of_rest (congrArg List.head? hrest))]
  rfl

/-- A choice at the top of a pattern that is plain has one branch. -/
theorem run_readChoice_plain
    (hcs : ∀ c ∈ cs, isPlainChar c = true)
    (hrest : s.rest = cs.map .plain)
    (hdangling : s.dangling = false)
    (hfuel : cs.length < fuel) :
    (readChoice (fuel + 1) options true []).run s =
      .ok (cs.map (literal s.options), { s with rest := [] }) := by
  have hoptions : (optionsAt true options).run s = .ok (s.options, s) := rfl
  rw [readChoice, run_bind_of_run hoptions,
    run_bind_of_run (run_readSequence_plain hcs hrest hdangling hfuel),
    run_bind_of_run (run_accept_of_nil rfl '|')]
  rfl

/-- A plain text is read as its characters one after another. -/
theorem parse_plain
    (hascii : options.ascii = false)
    (hcs : ∀ c ∈ cs, isPlainChar c = true) :
    parse options cs = .ok (Node.ofList (cs.map (literal options))) := by
  have hfuel : cs.length < 4 * (cs.map Token.plain).length + 7 := by
    rw [List.length_map]
    omega
  have hpattern : readPattern.run ⟨cs.map .plain, false, options, [], [], none, [], false, false⟩ =
      .ok (Node.ofList (cs.map (literal options)),
        ⟨[], false, options, [], [], none, [], false, false⟩) := by
    rw [readPattern, run_bind_of_run (run_get_self _), run_bind_of_run (run_get_self _)]
    dsimp only
    rw [Bool.and_false, if_neg Bool.false_ne_true, run_bind_of_run (run_get_self _),
      run_bind_of_run (run_readChoice_plain hcs rfl rfl hfuel), run_bind_of_run (run_get_self _)]
    simp only [hascii, Bool.false_and, Bool.and_false]
    rfl
  rw [parse, tokenize_plain hcs]
  dsimp only
  rw [hpattern]
  rfl

end Reading

section Searching

variable {text : Array Nat} {options : Options}

theorem same_self
    (fold : Fold)
    (code : Nat) :
    fold.same code code = true := by
  cases fold <;> simp [Fold.same, Fold.forms, Fold.normal]

/-- Patterns one after another: the first one, and the others from where it comes to. -/
theorem run_ofList_cons
    (node : Node)
    (rest : List Node)
    (place : Place)
    (next : Continuation) :
    (Node.ofList (node :: rest)).run text place next =
      node.run text place fun reached => (Node.ofList rest).run text reached next := by
  cases rest with
  | nil => rfl
  | cons second more => rfl

/-- A character is found where it stands. -/
theorem run_literal
    {c : Char}
    {place : Place}
    (h : text[place.position]? = some c.toNat)
    (next : Continuation) :
    (literal options c).run text place next =
      next { place with position := place.position + 1 } := by
  rw [literal, Node.run, h]
  exact if_pos (by rw [CharTest.admits, same_self]; rfl)

/-- Characters one after another are found where they stand. -/
theorem run_literals
    {cs : List Char}
    (place : Place)
    (h : ∀ i (hi : i < cs.length), text[place.position + i]? = some cs[i].toNat)
    (next : Continuation) :
    (Node.ofList (cs.map (literal options))).run text place next =
      next { place with position := place.position + cs.length } := by
  induction cs generalizing place with
  | nil =>
      rfl
  | cons c cs ih =>
      have hfirst : text[place.position]? = some c.toNat := h 0 (Nat.zero_lt_succ _)
      have hrest : ∀ i (hi : i < cs.length),
          text[(place.position + 1) + i]? = some cs[i].toNat := by
        intro i hi
        rw [Nat.add_assoc, Nat.add_comm 1 i]
        exact h (i + 1) (Nat.succ_lt_succ hi)
      rw [List.map_cons, run_ofList_cons, run_literal hfirst,
        ih ⟨place.position + 1, place.marks⟩ hrest, List.length_cons,
        Nat.add_assoc, Nat.add_comm 1]

/-- Characters one after another are found in a text of which they are a part. -/
theorem search_literals
    {cs : List Char}
    {text : String}
    (h : cs <:+: text.toList) :
    (Node.ofList (cs.map (literal options))).search text = true := by
  obtain ⟨before, after, htext⟩ := h
  rw [Node.search, List.any_eq_true]
  refine ⟨before.length, ?_, ?_⟩
  · rw [List.mem_range, List.size_toArray, List.length_map, ← htext]
    simp only [List.length_append]
    omega
  · rw [run_literals]
    · rfl
    · intro i hi
      have hstands : text.toList[before.length + i]? = some cs[i] := by
        rw [← htext, List.append_assoc, List.getElem?_append_right (Nat.le_add_right _ _),
          Nat.add_sub_cancel_left, List.getElem?_append_left hi, List.getElem?_eq_getElem hi]
      rw [List.getElem?_toArray, List.getElem?_map, hstands, Option.map_some]

end Searching

section Finding

variable {options : Options} {cs : List Char} {text : String}

theorem compileWith_plain
    (hascii : options.ascii = false)
    (hcs : ∀ c ∈ cs, isPlainChar c = true)
    (hne : cs ≠ []) :
    compileWith options cs = .ok (some (Node.ofList (cs.map (literal options)))) := by
  rw [compileWith, if_neg (by simpa using hne), parse_plain hascii hcs]

/-- A plain pattern is found in a text of which it is a part, under any options for case. -/
theorem find_of_infix
    {allowDelimited : Bool}
    {pattern : String}
    (hcompile : compile allowDelimited pattern = compileWith options cs)
    (hascii : options.ascii = false)
    (hcs : ∀ c ∈ cs, isPlainChar c = true)
    (hne : cs ≠ [])
    (hpart : cs <:+: text.toList) :
    find allowDelimited pattern text = .ok true := by
  rw [find, hcompile, compileWith_plain hascii hcs hne, ← search_literals hpart]
  rfl

end Finding

end Pattern

namespace Rule

open Pattern (delimited? delimitedText isAsciiLetter isOptionFlag isPlainChar)

section Paths

variable {path : String}

/-- A path of plain characters. -/
structure IsPlainPath
    (path : String) : Prop where
  startsWithSlash : path.toList.head? = some '/'
  plain : ∀ ch ∈ path.toList, isPlainChar ch = true

/-- A path has the form of a delimited pattern, but with no body, or with letters for no option. -/
def IsMisread
    (path : String) : Prop :=
  ∃ body letters,
    path = delimitedText body letters ∧
    (∀ ch ∈ letters.toList, isAsciiLetter ch = true) ∧
    (body = "" ∨ ∃ ch ∈ letters.toList, isOptionFlag ch = false)

/-- A plain path is no delimited pattern, or it has the form of one. -/
theorem IsPlainPath.delimited_cases
    (h : IsPlainPath path) :
    delimited? path.toList = none ∨
      ∃ body letters, path = delimitedText body letters ∧
        ∀ ch ∈ letters.toList, isAsciiLetter ch = true := by
  obtain ⟨rest, hpath⟩ := List.head?_eq_some_iff.mp h.startsWithSlash
  by_cases hslash : '/' ∈ rest
  · obtain ⟨letters, body, hsplit, hlast⟩ :=
      List.eq_append_cons_of_mem (List.mem_reverse.mpr hslash)
    have hrest : rest = body.reverse ++ '/' :: letters.reverse := by
      rw [← List.reverse_reverse rest, hsplit]
      simp
    have hfeed : '\n' ∉ letters.reverse := by
      intro hmem
      refine absurd (h.plain '\n' ?_) (by decide)
      rw [hpath, hrest]
      simp [List.mem_reverse.mp hmem]
    rw [hpath, hrest, Pattern.delimited?_append_cons (by simpa using hlast) hfeed]
    by_cases hall : letters.reverse.all isAsciiLetter = true
    · refine .inr ⟨String.ofList body.reverse, String.ofList letters.reverse, ?_, ?_⟩
      · rw [String.ext_iff, Pattern.toList_delimitedText, hpath, hrest, String.toList_ofList,
          String.toList_ofList]
      · rw [String.toList_ofList]
        exact List.all_eq_true.mp hall
    · exact .inl (if_neg hall)
  · rw [hpath]
    exact .inl (Pattern.delimited?_of_not_mem hslash)

theorem IsPlainPath.ne_empty
    (h : IsPlainPath path) :
    path ≠ "" := by
  rintro rfl
  cases h.startsWithSlash

/-- A plain path that is not misread is found in itself: the whole of it, or its body. -/
theorem IsPlainPath.search_self
    (h : IsPlainPath path)
    (hread : ¬ IsMisread path) :
    search true path path = .ok true := by
  obtain hnone | ⟨body, letters, hpath, hletters⟩ := h.delimited_cases
  · have hcompile : Pattern.compile true path = Pattern.compileWith {} path.toList := by
      rw [Pattern.compile, if_pos rfl, hnone]
    have hne : path.toList ≠ [] := by simpa using h.ne_empty
    rw [search, Pattern.find_of_infix hcompile rfl h.plain hne List.infix_rfl]
  · have hbody : body ≠ "" := fun hempty => hread ⟨body, letters, hpath, hletters, .inl hempty⟩
    have hflags : letters.toList.all isOptionFlag = true := by
      rw [List.all_eq_true]
      intro ch hch
      by_contra hodd
      rw [Bool.not_eq_true] at hodd
      exact hread ⟨body, letters, hpath, hletters, .inr ⟨ch, hch, hodd⟩⟩
    have hcompile : Pattern.compile true path =
        Pattern.compileWith (Pattern.namedOptions letters.toList) body.toList := by
      rw [hpath, Pattern.compile_delimitedText hletters, if_pos hflags]
    have hpart : body.toList <:+: path.toList := by
      rw [hpath, Pattern.toList_delimitedText]
      exact ⟨['/'], '/' :: letters.toList, by simp⟩
    have hplain : ∀ ch ∈ body.toList, isPlainChar ch = true :=
      fun ch hch => h.plain ch (hpart.subset hch)
    have hne : body.toList ≠ [] := by simpa using hbody
    rw [search, Pattern.find_of_infix hcompile rfl hplain hne hpart]

/--
**A plain path matches itself unless it is misread.**  As a condition on the path it holds for
every visit of that path, except that a path with the form of a delimited pattern holds for no
visit if nothing stands between its first and its last slash, or if one of the letters at its
end is no option.
-/
theorem plain_paths_match_unless_misread
    (h : IsPlainPath path) :
    (¬ IsMisread path →
      ∀ c : Context, c.server.path = path →
        writtenHolds c "path_regex" (.string path) = .ok true) ∧
    (IsMisread path →
      ∀ c : Context, writtenHolds c "path_regex" (.string path) = .ok false) := by
  constructor
  · intro hread c hvisit
    rw [writtenHolds_path h.ne_empty, hvisit]
    exact h.search_self hread
  · rintro ⟨body, letters, rfl, hletters, hrefused⟩ c
    exact writtenHolds_path_of_refused hletters hrefused c

/-- A visit of a path. -/
def visitOf
    (path : String) : Context :=
  .ofRequest ⟨"GET", path, "", "", [], [], [], [], "127.0.0.1", none⟩ "127.0.0.1"
    (Context.unknownRecord "127.0.0.1")

/-- A path that ends in letters for options, and so is taken for the part between its slashes. -/
theorem path_ending_in_options_matches_itself :
    IsPlainPath "/shop/new-2024/im" ∧
      ¬ IsMisread "/shop/new-2024/im" ∧
      writtenHolds (visitOf "/shop/new-2024/im") "path_regex" (.string "/shop/new-2024/im") =
        .ok true := by
  have hplain : IsPlainPath "/shop/new-2024/im" :=
    ⟨rfl, List.all_eq_true.mp (by decide)⟩
  have hread : ¬ IsMisread "/shop/new-2024/im" := by
    rintro ⟨body, letters, hpath, hletters, hrefused⟩
    have hknown : delimited? "/shop/new-2024/im".toList =
        some ("shop/new-2024".toList, "im".toList) := by decide
    rw [hpath, Pattern.delimited?_delimitedText hletters body, Option.some.injEq,
      Prod.mk.injEq] at hknown
    rw [hknown.2] at hrefused
    rcases hrefused with rfl | ⟨ch, hch, hodd⟩
    · cases hknown.1
    · have hflags : ∀ ch ∈ "im".toList, isOptionFlag ch = true := List.all_eq_true.mp (by decide)
      rw [hflags ch hch] at hodd
      cases hodd
  have hvisit : (visitOf "/shop/new-2024/im").server.path = "/shop/new-2024/im" := by decide
  exact ⟨hplain, hread, (plain_paths_match_unless_misread hplain).1 hread _ hvisit⟩

/-- A path whose last part is a word is not met by a visit of it, nor is one of slashes only. -/
theorem path_ending_in_word_misses_itself :
    IsPlainPath "/shop/sale" ∧
      (visitOf "/shop/sale").server.path = "/shop/sale" ∧
      writtenHolds (visitOf "/shop/sale") "path_regex" (.string "/shop/sale") = .ok false ∧
      IsPlainPath "//" ∧
      (visitOf "//").server.path = "//" ∧
      writtenHolds (visitOf "//") "path_regex" (.string "//") = .ok false := by
  refine ⟨⟨rfl, List.all_eq_true.mp (by decide)⟩, by decide, ?_,
    ⟨rfl, List.all_eq_true.mp (by decide)⟩, by decide, ?_⟩
  · decide +kernel
  · decide +kernel

end Paths

end Rule
end Turnstile
