import Turnstile.Proofs.Overlay
import Turnstile.Proofs.Pieces
import Turnstile.Visit.Cookies

/-!
# Cookies in a header

A cookie is written as its name, an equals sign and its value.  A header holds such pairs
between semicolons, with blanks wherever one likes around names, values and pairs, and with
parts in between that have no name.  Reading the header gives the cookies that were written.
Only the first equals sign of a pair divides it, so that values may hold more of them.

**Results.**
* `pair_cookie`, `pair_of_blank`, `pair_nameless`: what a part of a header gives.
* `Writes.namedPairs_eq`: parts that write cookies give these cookies.
* `written_cookies_are_read`: so does the header, a repeated name counting once.
-/

namespace Turnstile
namespace Cookies

open Text (IsBlankText IsTrimmed trimmed)

section Parts

variable {name value before gap gap' after : String}

/-- A cookie that a header can hold. -/
structure IsCookie
    (cookie : String × String) : Prop where
  named : cookie.1 ≠ ""
  name_trimmed : IsTrimmed cookie.1.toList
  name_free : ';' ∉ cookie.1.toList ∧ '=' ∉ cookie.1.toList
  value_trimmed : IsTrimmed cookie.2.toList
  value_free : ';' ∉ cookie.2.toList

/-- The first equals sign divides a pair. -/
theorem pair_append_cons
    {cs : List Char}
    (h : '=' ∉ cs)
    (rest : List Char) :
    pair (cs ++ '=' :: rest) = (String.ofList (trimmed cs), String.ofList (trimmed rest)) := by
  rw [pair, Text.cut_append_cons h]
  rfl

theorem ofList_trimmed_padded
    {core : String}
    (hbefore : IsBlankText before)
    (hafter : IsBlankText after)
    (hcore : IsTrimmed core.toList) :
    String.ofList (trimmed (before.toList ++ core.toList ++ after.toList)) = core := by
  rw [Text.trimmed_append_blanks hbefore hafter, Text.trimmed_eq_self hcore, String.ofList_toList]

/-- A part that writes a cookie gives it. -/
theorem pair_cookie
    (hbefore : IsBlankText before)
    (hgap : IsBlankText gap)
    (hgap' : IsBlankText gap')
    (hafter : IsBlankText after)
    (h : IsCookie (name, value)) :
    pair (before ++ name ++ gap ++ "=" ++ gap' ++ value ++ after).toList = (name, value) := by
  have hsign : '=' ∉ before.toList ++ name.toList ++ gap.toList := by
    simp [hbefore.not_mem (c := '=') rfl, hgap.not_mem (c := '=') rfl, h.name_free.2]
  have htext : (before ++ name ++ gap ++ "=" ++ gap' ++ value ++ after).toList =
      (before.toList ++ name.toList ++ gap.toList) ++
        '=' :: (gap'.toList ++ value.toList ++ after.toList) := by
    simp
  rw [htext, pair_append_cons hsign, ofList_trimmed_padded hbefore hgap h.name_trimmed,
    ofList_trimmed_padded hgap' hafter h.value_trimmed]

/-- A blank part has no name. -/
theorem pair_of_blank
    (h : IsBlankText before) :
    (pair before.toList).1 = "" := by
  rw [pair, Text.cut_of_not_mem (h.not_mem rfl)]
  exact congrArg String.ofList (Text.trimmed_of_forall h)

/-- A part with nothing but blanks before the equals sign has no name. -/
theorem pair_nameless
    (h : IsBlankText before)
    (value : String) :
    (pair (before ++ "=" ++ value).toList).1 = "" := by
  have htext : (before ++ "=" ++ value).toList = before.toList ++ '=' :: value.toList := by
    simp
  rw [htext, pair_append_cons (h.not_mem rfl)]
  exact congrArg String.ofList (Text.trimmed_of_forall h)

end Parts

section Headers

variable {cookies : Members String} {parts : List String}

/--
Cookies are written by parts: each with blanks around its name and its value, and between
them blank parts and parts without a name.
-/
inductive Writes : Members String → List String → Prop where
  | nil :
      Writes [] []
  | blank {cookies : Members String} {parts : List String} {part : String}
      (hpart : IsBlankText part)
      (h : Writes cookies parts) :
      Writes cookies (part :: parts)
  | nameless {cookies : Members String} {parts : List String} {before value : String}
      (hbefore : IsBlankText before)
      (hvalue : ';' ∉ value.toList)
      (h : Writes cookies parts) :
      Writes cookies ((before ++ "=" ++ value) :: parts)
  | cookie {cookies : Members String} {parts : List String}
      {name value before gap gap' after : String}
      (hbefore : IsBlankText before)
      (hgap : IsBlankText gap)
      (hgap' : IsBlankText gap')
      (hafter : IsBlankText after)
      (h : Writes cookies parts) :
      Writes ((name, value) :: cookies)
        ((before ++ name ++ gap ++ "=" ++ gap' ++ value ++ after) :: parts)

/-- The pairs of parts, without those that have no name. -/
def namedPairs
    (parts : List String) : Members String :=
  (parts.map fun part => pair part.toList).filter (·.1 != "")

theorem namedPairs_cons_of_nameless
    {part : String}
    (h : (pair part.toList).1 = "") :
    namedPairs (part :: parts) = namedPairs parts := by
  simp [namedPairs, h]

theorem namedPairs_cons_of_pair
    {part : String}
    {cookie : String × String}
    (hpair : pair part.toList = cookie)
    (h : cookie.1 ≠ "") :
    namedPairs (part :: parts) = cookie :: namedPairs parts := by
  simp [namedPairs, hpair, h]

/-- Parts that write cookies give these cookies. -/
theorem Writes.namedPairs_eq
    (h : Writes cookies parts)
    (hcookies : ∀ cookie ∈ cookies, IsCookie cookie) :
    namedPairs parts = cookies := by
  induction h with
  | nil =>
      rfl
  | blank hpart h ih =>
      rw [namedPairs_cons_of_nameless (pair_of_blank hpart), ih hcookies]
  | nameless hbefore hvalue h ih =>
      rw [namedPairs_cons_of_nameless (pair_nameless hbefore _), ih hcookies]
  | cookie hbefore hgap hgap' hafter h ih =>
      rw [List.forall_mem_cons] at hcookies
      have hpair := pair_cookie hbefore hgap hgap' hafter hcookies.1
      rw [namedPairs_cons_of_pair hpair hcookies.1.named, ih hcookies.2]

/-- Parts that write cookies hold no semicolon. -/
theorem Writes.semicolon_not_mem
    (h : Writes cookies parts)
    (hcookies : ∀ cookie ∈ cookies, IsCookie cookie) :
    ∀ part ∈ parts, ';' ∉ part.toList := by
  induction h with
  | nil =>
      exact List.forall_mem_nil _
  | blank hpart h ih =>
      exact List.forall_mem_cons.mpr ⟨hpart.not_mem rfl, ih hcookies⟩
  | nameless hbefore hvalue h ih =>
      refine List.forall_mem_cons.mpr ⟨?_, ih hcookies⟩
      simp [hbefore.not_mem (c := ';') rfl, hvalue]
  | cookie hbefore hgap hgap' hafter h ih =>
      rw [List.forall_mem_cons] at hcookies
      refine List.forall_mem_cons.mpr ⟨?_, ih hcookies.2⟩
      simp [hbefore.not_mem (c := ';') rfl, hgap.not_mem (c := ';') rfl,
        hgap'.not_mem (c := ';') rfl, hafter.not_mem (c := ';') rfl, hcookies.1.name_free.1,
        hcookies.1.value_free]

/-- A header of parts that write cookies gives these cookies, each name once. -/
theorem ofHeader_joined
    (h : Writes cookies parts)
    (hcookies : ∀ cookie ∈ cookies, IsCookie cookie) :
    ofHeader (Text.joined ";" parts) = Members.ofList cookies := by
  by_cases hparts : parts = []
  · subst hparts
    cases h
    rfl
  · have hsemicolon : ";".toList = [';'] := rfl
    have hpieces := Text.pieces_joined hsemicolon hparts (h.semicolon_not_mem hcookies)
    have hnamed := h.namedPairs_eq hcookies
    rw [namedPairs] at hnamed
    rw [ofHeader, hpieces, List.map_map]
    exact congrArg Members.ofList hnamed

/--
**Written cookies are read back.**  However they are spaced and whatever nameless parts stand
between them, a header of parts that write cookies gives exactly these in their order if
their names are distinct.  A repeated name keeps its first position and its last value.
-/
theorem written_cookies_are_read
    (h : Writes cookies parts)
    (hcookies : ∀ cookie ∈ cookies, IsCookie cookie) :
    ((cookies.map Prod.fst).Nodup → ofHeader (Text.joined ";" parts) = cookies) ∧
    (ofHeader (Text.joined ";" parts)).map Prod.fst = (cookies.map Prod.fst).eraseDups ∧
    ∀ name, (ofHeader (Text.joined ";" parts)).get? name = Members.last? cookies name := by
  rw [ofHeader_joined h hcookies]
  exact ⟨Members.ofList_eq_self, Members.names_ofList cookies, Members.get?_ofList cookies⟩

/-- Two cookies, of which one is set again, in a header with blank and nameless parts. -/
def spacedParts : List String :=
  [" " ++ "a" ++ " " ++ "=" ++ " " ++ "1=2" ++ "", "\t", "" ++ "=" ++ "x",
    "" ++ "b" ++ "" ++ "=" ++ "" ++ "" ++ " ", "\u00a0" ++ "a" ++ "" ++ "=" ++ "" ++ "3" ++ "\n"]

/-- The cookie that is set again keeps its place. -/
theorem spaced_cookies_are_read :
    Writes [("a", "1=2"), ("b", ""), ("a", "3")] spacedParts ∧
      (∀ cookie ∈ [("a", "1=2"), ("b", ""), ("a", "3")], IsCookie cookie) ∧
      (ofHeader (Text.joined ";" spacedParts)).map Prod.fst = ["a", "b"] ∧
      (ofHeader (Text.joined ";" spacedParts)).get? "a" = some "3" ∧
      (ofHeader (Text.joined ";" spacedParts)).get? "b" = some "" := by
  have hwrites : Writes [("a", "1=2"), ("b", ""), ("a", "3")] spacedParts := by
    refine .cookie ?_ ?_ ?_ ?_ (.blank ?_ (.nameless ?_ ?_ (.cookie ?_ ?_ ?_ ?_ (.cookie ?_ ?_ ?_ ?_
      .nil))))
    case refine_7 => decide
    all_goals exact List.all_eq_true.mp (by decide)
  have hcookies : ∀ cookie ∈ [("a", "1=2"), ("b", ""), ("a", "3")], IsCookie cookie := by
    intro cookie hcookie
    simp only [List.mem_cons, List.not_mem_nil, or_false] at hcookie
    rcases hcookie with rfl | rfl | rfl
    all_goals exact ⟨by decide, by decide, by decide, by decide, by decide⟩
  obtain ⟨-, hnames, hvalues⟩ := written_cookies_are_read hwrites hcookies
  refine ⟨hwrites, hcookies, hnames.trans (by decide), (hvalues "a").trans (by decide),
    (hvalues "b").trans (by decide)⟩

end Headers

end Cookies
end Turnstile
