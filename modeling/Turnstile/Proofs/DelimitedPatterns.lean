import Turnstile.Proofs.MatchFaults
import Turnstile.Proofs.OperatorLaws

/-!
# Delimited patterns

Where a delimited pattern is allowed, a text from slash to slash with letters after it is
taken apart at its last slash: letters hold no slash, so whatever the body holds, it is the
body that was written.  The letters name a set of options, and a pattern without letters is
its body, as the operator for searches and the literal for searches read it.

**Results.**
* `delimited?_append_cons`: the last slash divides body and letters.
* `letterOptions?_eq`: letters give the options that they name, or none.
* `compile_delimitedText`: what a body with letters after it is compiled to.
* `delimited_patterns_unwrap`: all of this for searches in a path.
-/

namespace Turnstile

namespace Pattern

section Letters

/-- A letter that names an option after a delimited pattern. -/
def isOptionFlag
    (c : Char) : Bool :=
  c == 'i' || c == 'm' || c == 's' || c == 'x'

/-- The options that are named among letters, and no others. -/
def namedOptions
    (letters : List Char) : Options where
  ignoreCase := letters.contains 'i'
  lineAnchors := letters.contains 'm'
  dotAll := letters.contains 's'
  spaced := letters.contains 'x'

/-- One more letter turns on the option that it names. -/
theorem turnOn_namedOptions
    {c : Char}
    (hc : isOptionFlag c = true)
    (letters : List Char) :
    (namedOptions letters).turnOn c = namedOptions (c :: letters) := by
  simp only [isOptionFlag, Bool.or_eq_true, beq_iff_eq] at hc
  rcases hc with ((rfl | rfl) | rfl) | rfl <;> simp [namedOptions, Options.turnOn]

/-- Letters give the options that they name, unless one of them names none. -/
theorem letterOptions?_eq
    (letters : List Char) :
    letterOptions? letters =
      if letters.all isOptionFlag then some (namedOptions letters) else none := by
  induction letters with
  | nil =>
      rfl
  | cons c rest ih =>
      rw [letterOptions?, ih, List.all_cons, ← isOptionFlag]
      cases hc : isOptionFlag c with
      | false => rfl
      | true =>
          cases rest.all isOptionFlag with
          | false => rfl
          | true => exact congrArg some (turnOn_namedOptions hc rest)

/-- Which options are named does not depend on order and repetition. -/
theorem namedOptions_congr
    {letters letters' : List Char}
    (h : ∀ c, c ∈ letters' ↔ c ∈ letters) :
    namedOptions letters' = namedOptions letters := by
  have hcontains : ∀ c, letters'.contains c = letters.contains c := by
    intro c
    rw [Bool.eq_iff_iff, List.contains_iff_mem, List.contains_iff_mem, h]
  simp only [namedOptions, hcontains]

theorem isAsciiLetter_of_isOptionFlag
    {c : Char}
    (h : isOptionFlag c = true) :
    isAsciiLetter c = true := by
  simp only [isOptionFlag, Bool.or_eq_true, beq_iff_eq] at h
  rcases h with ((rfl | rfl) | rfl) | rfl <;> rfl

end Letters

section Division

variable {body letters : List Char}

/-- The last slash divides a delimited text; what follows it are letters, or it is not delimited. -/
theorem delimited?_append_cons
    (hslash : '/' ∉ letters)
    (hfeed : '\n' ∉ letters)
    (body : List Char) :
    delimited? ('/' :: (body ++ '/' :: letters)) =
      if letters.all isAsciiLetter then some (body, letters) else none := by
  have hreverse : (body ++ '/' :: letters).reverse = letters.reverse ++ '/' :: body.reverse := by
    simp
  have htail : (letters.reverse ++ '/' :: body.reverse).takeWhile (· != '/') = letters.reverse := by
    apply Text.takeWhile_append_of_startsNo
    · intro c hc
      exact bne_iff_ne.mpr fun heq => hslash (heq ▸ List.mem_reverse.mp hc)
    · intro c hc
      obtain rfl := Option.mem_some_iff.mp hc
      rfl
  have hlast : (letters.getLast? == some '\n') = false := by
    rw [beq_eq_false_iff_ne]
    exact fun heq => hfeed (List.mem_of_getLast? heq)
  have hlength : (body ++ '/' :: letters).length - letters.length - 1 = body.length := by
    simp only [List.length_append, List.length_cons]
    omega
  simp only [delimited?, hreverse, htail, List.reverse_reverse, hlast, Bool.false_eq_true, if_false,
    hlength, List.take_left]
  simp

/-- A text with one slash only is not delimited. -/
theorem delimited?_of_not_mem
    {rest : List Char}
    (h : '/' ∉ rest) :
    delimited? ('/' :: rest) = none := by
  simp [delimited?, h]

end Division

section Compiling

variable {body letters : String}

/-- A body between slashes with letters after it. -/
def delimitedText
    (body letters : String) : String :=
  "/" ++ body ++ "/" ++ letters

theorem toList_delimitedText
    (body letters : String) :
    (delimitedText body letters).toList = '/' :: (body.toList ++ '/' :: letters.toList) := by
  simp [delimitedText]

/-- A delimited text is taken apart into its body and its letters, whatever the body holds. -/
theorem delimited?_delimitedText
    (hletters : ∀ c ∈ letters.toList, isAsciiLetter c = true)
    (body : String) :
    delimited? (delimitedText body letters).toList = some (body.toList, letters.toList) := by
  have hnot : ∀ c, isAsciiLetter c = false → c ∉ letters.toList := by
    intro c hc hmem
    rw [hletters c hmem] at hc
    cases hc
  rw [toList_delimitedText, delimited?_append_cons (hnot '/' rfl) (hnot '\n' rfl),
    if_pos (List.all_eq_true.mpr hletters)]

/-- A body with letters after it is compiled under the options named, if each letter names one. -/
theorem compile_delimitedText
    (hletters : ∀ c ∈ letters.toList, isAsciiLetter c = true)
    (body : String) :
    compile true (delimitedText body letters) =
      if letters.toList.all isOptionFlag then
        compileWith (namedOptions letters.toList) body.toList
      else .ok none := by
  rw [compile, if_pos rfl, delimited?_delimitedText hletters]
  dsimp only
  rw [letterOptions?_eq]
  cases letters.toList.all isOptionFlag with
  | false => rfl
  | true => rfl

end Compiling

end Pattern

namespace Rule

open Pattern (compile delimitedText isAsciiLetter isOptionFlag namedOptions)

section Searches

variable {pattern body letters : String}

/-- A search finds what the compiled pattern finds. -/
theorem search_congr
    {allowDelimited allowDelimited' : Bool}
    {pattern pattern' : String}
    (h : compile allowDelimited pattern = compile allowDelimited' pattern')
    (text : String) :
    search allowDelimited pattern text = search allowDelimited' pattern' text := by
  rw [search, search, Pattern.find, Pattern.find, h]

/-- Where there is no pattern, nothing is found. -/
theorem search_of_compile_none
    {allowDelimited : Bool}
    (h : compile allowDelimited pattern = .ok none)
    (text : String) :
    search allowDelimited pattern text = .ok false := by
  rw [search, Pattern.find, h]
  rfl

/-- A literal of the form for searches is a search for its body. -/
theorem matches_searchLiteral
    (body : String)
    (actual : Signal) :
    (decodeComparison (.string ("regex:/" ++ body ++ "/"))).matches actual =
      search false body actual.text := by
  have hbody : searchLiteral? ("regex:/" ++ body ++ "/") = some body :=
    searchLiteral?_eq_some_iff.mpr rfl
  generalize "regex:/" ++ body ++ "/" = s at hbody
  change literalMatches (.string s) actual = _
  unfold literalMatches
  split
  next heq =>
    rw [Json.string.inj heq, searchLiteral?_eq_none.1] at hbody
    cases hbody
  next heq =>
    rw [Json.string.inj heq, searchLiteral?_eq_none.2] at hbody
    cases hbody
  next heq =>
    rw [← Json.string.inj heq, hbody]
  next hother =>
    exact absurd rfl (hother s)

/-- A condition on the path is a search for its text, delimited or not. -/
theorem writtenHolds_path
    (h : pattern ≠ "")
    (c : Context) :
    writtenHolds c "path_regex" (.string pattern) = search true pattern c.server.path := by
  refine (writtenHolds_key .path (by decide) c _).trans ?_
  exact if_neg h

theorem delimitedText_ne_empty
    (body letters : String) :
    delimitedText body letters ≠ "" := by
  intro h
  have hlist := congrArg String.toList h
  rw [Pattern.toList_delimitedText] at hlist
  cases hlist

/-- Without letters, a delimited pattern in a condition on the path is a search for its body. -/
theorem writtenHolds_path_delimitedText
    (body : String)
    (c : Context) :
    writtenHolds c "path_regex" (.string (delimitedText body "")) =
      search false body c.server.path := by
  rw [writtenHolds_path (delimitedText_ne_empty body "")]
  exact search_congr (Pattern.compile_delimitedText (by simp) body) c.server.path

/-- No path meets a delimited pattern with an empty body, or with a letter that names no option. -/
theorem writtenHolds_path_of_refused
    (hletters : ∀ ch ∈ letters.toList, isAsciiLetter ch = true)
    (h : body = "" ∨ ∃ ch ∈ letters.toList, isOptionFlag ch = false)
    (c : Context) :
    writtenHolds c "path_regex" (.string (delimitedText body letters)) = .ok false := by
  rw [writtenHolds_path (delimitedText_ne_empty body letters)]
  apply search_of_compile_none
  rw [Pattern.compile_delimitedText hletters]
  rcases h with rfl | ⟨ch, hmem, hch⟩
  · exact ite_self _
  · rw [if_neg]
    intro hall
    rw [List.all_eq_true.mp hall ch hmem] at hch
    cases hch

/--
**Delimited patterns unwrap exactly.**  A body with letters after it that all name options is
compiled as the body under the options named, whatever the order of the letters and however
often they are repeated.  Without letters, a condition on the path holds as the operator for
searches and the literal for searches do of the body.  No path meets an empty body, nor letters
of which one names no option.
-/
theorem delimited_patterns_unwrap
    (body : String)
    (hletters : ∀ ch ∈ letters.toList, isOptionFlag ch = true) :
    compile true (delimitedText body letters) =
      Pattern.compileWith (namedOptions letters.toList) body.toList ∧
    (∀ letters' : String,
      (∀ ch, ch ∈ letters'.toList ↔ ch ∈ letters.toList) →
      compile true (delimitedText body letters') = compile true (delimitedText body letters)) ∧
    (∀ c : Context,
      writtenHolds c "path_regex" (.string (delimitedText body "")) =
        (comparing .regex (.string body)).matches (.value (.string c.server.path)) ∧
      writtenHolds c "path_regex" (.string (delimitedText body "")) =
        (decodeComparison (.string ("regex:/" ++ body ++ "/"))).matches
          (.value (.string c.server.path))) ∧
    (∀ odd : String,
      (∀ ch ∈ odd.toList, isAsciiLetter ch = true) →
      (body = "" ∨ ∃ ch ∈ odd.toList, isOptionFlag ch = false) →
      ∀ c : Context, writtenHolds c "path_regex" (.string (delimitedText body odd)) = .ok false) := by
  have hcompile : ∀ letters' : String,
      (∀ ch ∈ letters'.toList, isOptionFlag ch = true) →
      compile true (delimitedText body letters') =
        Pattern.compileWith (namedOptions letters'.toList) body.toList := by
    intro letters' h
    rw [Pattern.compile_delimitedText
      fun ch hch => Pattern.isAsciiLetter_of_isOptionFlag (h ch hch)]
    exact if_pos (List.all_eq_true.mpr h)
  refine ⟨hcompile letters hletters, ?_, ?_, ?_⟩
  · intro letters' hsame
    rw [hcompile letters hletters,
      hcompile letters' fun ch hch => hletters ch ((hsame ch).mp hch),
      Pattern.namedOptions_congr hsame]
  · intro c
    rw [writtenHolds_path_delimitedText, matches_comparing, matches_searchLiteral]
    exact ⟨rfl, rfl⟩
  · intro odd hodd hrefused c
    exact writtenHolds_path_of_refused hodd hrefused c

/-- A body with slashes, a line feed and letters at its end, and letters in another order. -/
theorem body_with_slashes_unwraps :
    (∀ ch ∈ "xii".toList, isOptionFlag ch = true) ∧
      compile true (delimitedText "a/b/\n/ims" "xii") =
        Pattern.compileWith { ignoreCase := true, spaced := true } "a/b/\n/ims".toList ∧
      compile true (delimitedText "a/b/\n/ims" "ix") =
        compile true (delimitedText "a/b/\n/ims" "xii") := by
  have hletters : ∀ ch ∈ "xii".toList, isOptionFlag ch = true :=
    List.all_eq_true.mp (by decide)
  obtain ⟨hcompile, hsame, -⟩ := delimited_patterns_unwrap "a/b/\n/ims" hletters
  refine ⟨hletters, hcompile, hsame "ix" fun ch => ?_⟩
  simp [or_comm]

end Searches

end Rule
end Turnstile
