import Turnstile.Proofs.ClientReport
import Turnstile.Proofs.LetterCase
import Turnstile.Proofs.Lowering
import Turnstile.Proofs.SignalLayers

/-!
# Spellings of header names

Names of headers are compared in a normal form, which does not regard the case of ASCII
letters, tells no underscore from a dash, and drops the blanks around a name.  All that looks
at headers looks them up by names in this form: the choice of the visitor's address, what the
server observes, and the conditions.  So neither the spelling nor the order of headers
matters to a decision, unless a condition compares all headers at once.

**Results.**
* `normalName_eq_of_respelled`: spellings of one name have one normal form.
* `normalName_normalName`, `normalizeTexts_normalizeTexts`: the normal form is its own.
* `normalizeTexts_perm`: respelled headers differ in their order only.
* `conditionHolds_withHeaders`: conditions look headers up by their names.
* `header_spelling_does_not_matter`: contexts and decisions are the same.
-/

namespace Turnstile
namespace Headers

open Text (isBlank trimmed lowerAfter lowerForm)

section Dashes

variable {before cs after : List Char}

/-- Dashes stand for underscores. -/
def dashed
    (c : Char) : Char :=
  if c = '_' then '-' else c

theorem dashed_of_ne
    {c : Char}
    (h : c ≠ '_') :
    dashed c = c :=
  if_neg h

theorem isBlank_dashed
    (c : Char) :
    isBlank (dashed c) = isBlank c := by
  by_cases hc : c = '_'
  · rw [hc]
    rfl
  · rw [dashed_of_ne hc]

theorem leadsWithCased_map_dashed
    (cs : List Char) :
    Text.leadsWithCased (cs.map dashed) = Text.leadsWithCased cs := by
  apply Text.leadsWithCased_map
  · intro c
    by_cases hc : c = '_'
    · rw [hc]
      decide +kernel
    · rw [dashed_of_ne hc]
  · intro c
    by_cases hc : c = '_'
    · rw [hc]
      decide +kernel
    · rw [dashed_of_ne hc]

/-- An underscore comes out of an underscore only. -/
theorem lowerForm_map_dashed
    (before : List Char)
    (c : Char)
    (after : List Char) :
    lowerForm (before.map dashed) (dashed c) (after.map dashed) =
      (lowerForm before c after).map dashed := by
  by_cases hc : c = '_'
  · subst hc
    rfl
  · have hplain : (lowerForm before c after).map dashed = lowerForm before c after := by
      refine (List.map_congr_left fun d hd => ?_).trans (List.map_id _)
      apply dashed_of_ne
      obtain ⟨-, rfl | ⟨-, hne⟩⟩ := Text.lowerForm_spec hd
      · exact hc
      · exact hne
    rw [hplain, dashed_of_ne hc]
    simp only [lowerForm, leadsWithCased_map_dashed]

theorem lowerAfter_map_dashed
    (before cs : List Char) :
    lowerAfter (before.map dashed) (cs.map dashed) = (lowerAfter before cs).map dashed := by
  induction cs generalizing before with
  | nil =>
      rfl
  | cons c rest ih =>
      rw [List.map_cons, lowerAfter, lowerAfter, lowerForm_map_dashed, ← List.map_cons, ih,
        List.map_append]

end Dashes

section Names

variable {name name' : String}

theorem toList_normalName
    (name : String) :
    (normalName name).toList = (lowerAfter [] (trimmed name.toList)).map dashed := by
  rw [normalName, Text.lower, Text.trim, String.toList_ofList, String.toList_ofList,
    String.toList_ofList]
  rfl

/-- It does not matter when dashes are put for underscores. -/
theorem toList_normalName_eq
    (name : String) :
    (normalName name).toList = lowerAfter [] (trimmed (name.toList.map dashed)) := by
  rw [toList_normalName, Text.trimmed_map isBlank_dashed, ← lowerAfter_map_dashed, List.map_nil]

/-- A normal form is the normal form of itself. -/
theorem normalName_normalName
    (name : String) :
    normalName (normalName name) = normalName name := by
  apply String.toList_injective
  have hplain : ((normalName name).toList).map dashed = (normalName name).toList := by
    rw [toList_normalName, List.map_map]
    congr 1
    funext c
    by_cases hc : c = '_'
    · rw [Function.comp_apply, hc]
      rfl
    · rw [Function.comp_apply, dashed_of_ne hc, dashed_of_ne hc]
  have htrimmed := Text.isTrimmed_lowerAfter
    (Text.isTrimmed_trimmed (name.toList.map dashed)) []
  rw [toList_normalName_eq, hplain, toList_normalName_eq, Text.trimmed_eq_self htrimmed,
    Text.lowerAfter_of_isLowered fun c hc => Text.isLowered_of_mem_lowerAfter hc]

/--
Spellings of one name: ASCII letters in another case, a dash for an underscore, blanks around
the name, any number of times and in both directions.
-/
inductive Respelled : String → String → Prop where
  | letters {name name' : String}
      (h : Text.SameLetters name name') :
      Respelled name name'
  | dash (before after : String) :
      Respelled (before ++ "_" ++ after) (before ++ "-" ++ after)
  | blanks {before after : String}
      (hbefore : Text.IsBlankText before)
      (hafter : Text.IsBlankText after)
      (name : String) :
      Respelled name (before ++ name ++ after)
  | symm {name name' : String}
      (h : Respelled name name') :
      Respelled name' name
  | trans {name name' name'' : String}
      (h : Respelled name name')
      (h' : Respelled name' name'') :
      Respelled name name''

theorem isBlank_toLower
    (c : Char) :
    isBlank c.toLower = isBlank c := by
  rcases Text.toLower_cases c with ⟨hlow, hhigh, hcode⟩ | hsame
  · have hplain : ∀ code, 65 ≤ code → code < 123 → Text.isBlankCode code = false := by
      intro code hcode hcode'
      simp [Text.isBlankCode]
      omega
    rw [isBlank, isBlank, hcode, hplain _ hlow (by omega), hplain _ (by omega) (by omega)]
  · rw [hsame]

/-- Spellings of one name have one normal form. -/
theorem normalName_eq_of_respelled
    (h : Respelled name name') :
    normalName name = normalName name' := by
  induction h with
  | @letters name name' h =>
      have hletters : Text.SameLetters (Text.trim name) (Text.trim name') := by
        rw [Text.SameLetters, Text.trim, Text.trim, String.toList_ofList, String.toList_ofList,
          ← Text.trimmed_map isBlank_toLower, ← Text.trimmed_map isBlank_toLower, h]
      rw [normalName, normalName, Text.lower_eq_of_sameLetters hletters]
  | dash before after =>
      apply String.toList_injective
      rw [toList_normalName_eq, toList_normalName_eq]
      simp [dashed]
  | blanks hbefore hafter name =>
      rw [normalName, normalName, Text.trim_append_blanks hbefore hafter]
  | symm h ih =>
      exact ih.symm
  | trans h h' ih ih' =>
      exact ih.trans ih'

end Names

section Spellings

variable {headers headers' : Members String}

/-- Headers under other spellings of their names, in any order. -/
def RespelledHeaders
    (headers headers' : Members String) : Prop :=
  ∃ reordered, headers.Perm reordered ∧
    List.Forall₂ (fun header header' => Respelled header.1 header'.1 ∧ header.2 = header'.2)
      reordered headers'

/-- No two headers are spellings of one name. -/
def HasDistinctHeaders
    (headers : Members String) : Prop :=
  (headers.map fun header => normalName header.1).Nodup

theorem normalizeTexts_of_distinct
    (hnames : HasDistinctHeaders headers) :
    normalizeTexts headers = headers.map fun (name, value) => (normalName name, value) := by
  apply Members.ofList_eq_self
  rw [List.map_map]
  exact hnames

/-- What is normalized once is normal. -/
theorem normalizeTexts_normalizeTexts
    (headers : Members String) :
    normalizeTexts (normalizeTexts headers) = normalizeTexts headers := by
  obtain ⟨hnames, hmem⟩ := Members.ofList_spec
    (headers.map fun (name, value) => (normalName name, value))
  have hnormal : ∀ header ∈ normalizeTexts headers, (normalName header.1, header.2) = header := by
    intro header hheader
    obtain ⟨⟨name, value⟩, -, rfl⟩ := List.mem_map.mp (hmem header hheader)
    simp only [normalName_normalName]
  have hsame : ((normalizeTexts headers).map fun (name, value) => (normalName name, value)) =
      normalizeTexts headers :=
    (List.map_congr_left hnormal).trans (List.map_id _)
  rw [normalizeTexts, hsame]
  exact Members.ofList_eq_self hnames

/-- Respelled headers are, under their names in normal form, the same in another order. -/
theorem perm_of_respelledHeaders
    (h : RespelledHeaders headers headers') :
    (headers.map fun (name, value) => (normalName name, value)).Perm
      (headers'.map fun (name, value) => (normalName name, value)) := by
  obtain ⟨reordered, hperm, hspelled⟩ := h
  refine (hperm.map _).trans (List.Perm.of_eq ?_)
  clear hperm
  induction hspelled with
  | nil =>
      rfl
  | @cons header header' _ _ hheader _ ih =>
      obtain ⟨hname, hvalue⟩ := hheader
      rw [List.map_cons, List.map_cons, ih]
      simp only [normalName_eq_of_respelled hname, hvalue]

theorem HasDistinctHeaders.of_respelled
    (hnames : HasDistinctHeaders headers)
    (h : RespelledHeaders headers headers') :
    HasDistinctHeaders headers' := by
  have hperm := (perm_of_respelledHeaders h).map Prod.fst
  rw [List.map_map, List.map_map] at hperm
  exact hperm.nodup_iff.mp hnames

theorem normalizeTexts_perm
    (hnames : HasDistinctHeaders headers)
    (h : RespelledHeaders headers headers') :
    (normalizeTexts headers).Perm (normalizeTexts headers') := by
  rw [normalizeTexts_of_distinct hnames, normalizeTexts_of_distinct (hnames.of_respelled h)]
  exact perm_of_respelledHeaders h

/-- Under a name in normal form stands the same text. -/
theorem get?_normalizeTexts_of_respelled
    (hnames : HasDistinctHeaders headers)
    (h : RespelledHeaders headers headers')
    (name : String) :
    (normalizeTexts headers').get? name = (normalizeTexts headers).get? name := by
  have hnormal : ((normalizeTexts headers).map Prod.fst).Nodup :=
    (Members.ofList_spec _).1
  exact (Members.get?_perm hnormal (normalizeTexts_perm hnames h) name).symm

end Spellings

end Headers

section Contexts

/-- The context with other headers in it. -/
def Context.withHeaders
    (c : Context)
    (headers : Members String) : Context :=
  { c with server := { c.server with headers := headers } }

theorem Context.address_withHeaders
    (c : Context)
    (headers : Members String) :
    (c.withHeaders headers).server.address = c.server.address :=
  rfl

variable {request : Request} {headers' : Members String}
  (hget : ∀ name, (Headers.normalizeTexts headers').get? name =
    (Headers.normalizeTexts request.headers).get? name)

include hget

theorem Context.addressOf_withHeaders :
    addressOf { request with headers := headers' } = addressOf request := by
  simp only [addressOf, Headers.clientAddress, Headers.forwardedAddress?, hget]

/-- What is observed of a visit depends on what stands under the names of headers only. -/
theorem Context.observe_withHeaders
    (page address : String)
    (record : Record) :
    observe { request with headers := headers' } page address record =
      { observe request page address record with
        headers := Headers.normalizeTexts headers' } := by
  simp only [observe, headerText, cookiesOf, hget]

theorem Context.assemble_withHeaders
    (address : String)
    (record : Record)
    (report : Members Json) :
    assemble { request with headers := headers' } address record report =
      (assemble request address record report).withHeaders (Headers.normalizeTexts headers') := by
  rw [assemble, observe_withHeaders hget]
  rfl

end Contexts

section Conditions

/-- Other headers change one signal. -/
theorem Observed.signals_withHeaders
    (o : Observed)
    (headers : Members String) :
    { o with headers := headers }.signals =
      o.signals.set "headers" (.view (valuesOf headers)) := by
  simp only [signals, Members.set, String.reduceBEq, Bool.false_eq_true, ↓reduceIte]
  rfl

variable {c : Context} {headers : Members String}
  (hget : ∀ name, headers.get? name = c.server.headers.get? name)

include hget

theorem Context.header_withHeaders
    (name : String) :
    (c.withHeaders headers).server.header name = c.server.header name := by
  rw [Observed.header, Context.withHeaders, hget]
  rfl

/-- A named condition looks headers up by their names. -/
theorem Rule.holds_withHeaders
    (named : NamedCondition)
    (e : Expectation) :
    named.holds e (c.withHeaders headers).server = named.holds e c.server := by
  cases named with
  | header =>
      simp only [NamedCondition.holds, headerMatches, Context.header_withHeaders hget]
  | _ => rfl

/-- A condition looks headers up by their names, unless its key is that of the headers. -/
theorem Rule.conditionHolds_withHeaders
    {key : String}
    (hkey : key ≠ "headers")
    (e : Expectation) :
    conditionHolds (c.withHeaders headers) key e = conditionHolds c key e := by
  have hflat : (c.withHeaders headers).flat.get? key = c.flat.get? key := by
    rw [Context.flat, Context.flat, Members.get?_overlay, Members.get?_overlay,
      Context.withHeaders, Observed.signals_withHeaders, Members.get?_set, if_neg hkey]
  unfold conditionHolds
  cases NamedCondition.ofKey? key with
  | none => simp only [freeHolds, hflat]
  | some named => exact holds_withHeaders hget named e

end Conditions

section Decisions

variable {request : Request} {headers' : Members String}

/-- No entry of the source has a condition on all headers at once. -/
def RuleSource.IgnoresHeaders
    (source : RuleSource) : Prop :=
  ∀ raws, source.raws = .ok raws → ∀ raw ∈ raws, "headers" ∉ Rule.conditionNames raw

theorem Decision.decide_withHeaders
    (s : Surroundings)
    (memory : Memory)
    (criterion : String)
    (privileged : Bool)
    (hget : ∀ name, (Headers.normalizeTexts headers').get? name =
      (Headers.normalizeTexts request.headers).get? name)
    (hrules : s.rules.IgnoresHeaders) :
    decide s memory { request with headers := headers' } criterion privileged =
      decide s memory request criterion privileged := by
  have haddress := Context.addressOf_withHeaders hget
  apply decide_congr memory haddress
  intro record
  rw [haddress, Context.ofRequest, Context.assemble_withHeaders hget]
  apply inContext_congr (Context.address_withHeaders _ _)
  intro rules hload
  obtain ⟨raws, hraws, hnormal⟩ := RuleSource.load_eq_ok_iff.mp hload
  apply Rule.scan_congr
  intro r hr condition hmem
  apply Rule.conditionHolds_withHeaders hget
  intro hkey
  obtain ⟨raw, hraw, hname⟩ := Rule.mem_conditionNames_of_normalize hnormal hr hmem
  exact hrules raws hraws raw hraw (hkey ▸ hname)

/--
**How headers are spelled and ordered does not matter.**  If the headers of two visits are the
same but for their order and the spellings of their names, and no two of them are spellings of
one name, then the contexts of the visits are the same but for the order of the headers in
normal form; the visitor has the same address; a header is found under every spelling of its
name; and rules without a condition on all headers at once decide both visits alike, with the
same lookups and the same memory.  Headers that are normalized twice come out as if they were
normalized once.
-/
theorem header_spelling_does_not_matter
    (request : Request)
    (headers' : Members String)
    (hnames : Headers.HasDistinctHeaders request.headers)
    (h : Headers.RespelledHeaders request.headers headers') :
    let request' := { request with headers := headers' }
    (∀ address record report,
      let c := Context.assemble request address record report
      let c' := Context.assemble request' address record report
      (∃ reordered, c.server.headers.Perm reordered ∧ c' = c.withHeaders reordered) ∧
      ∀ name name', Headers.Respelled name name' →
        c'.server.header name' = c.server.header name) ∧
    Context.addressOf request' = Context.addressOf request ∧
    (∀ (s : Surroundings) memory criterion privileged, s.rules.IgnoresHeaders →
      Decision.decide s memory request' criterion privileged =
        Decision.decide s memory request criterion privileged) ∧
    ∀ headers, Headers.normalizeTexts (Headers.normalizeTexts headers) =
      Headers.normalizeTexts headers := by
  have hget := Headers.get?_normalizeTexts_of_respelled hnames h
  refine ⟨?_, Context.addressOf_withHeaders hget, ?_, Headers.normalizeTexts_normalizeTexts⟩
  · intro address record report
    have hassemble := Context.assemble_withHeaders hget address record report
    refine ⟨⟨_, Headers.normalizeTexts_perm hnames h, hassemble⟩, ?_⟩
    intro name name' hname
    rw [hassemble, Context.header_withHeaders hget, Observed.header, Observed.header,
      Headers.normalName_eq_of_respelled hname]
  · exact fun s memory criterion privileged =>
      Decision.decide_withHeaders s memory criterion privileged hget

/-- Headers of a visit through a proxy. -/
def proxyHeaders : Members String :=
  [("User-Agent", "Mozilla/5.0"), ("X_Forwarded_For", "8.8.8.8")]

/-- The same headers in another order, under other spellings. -/
def respelledHeaders : Members String :=
  [(" x-forwarded-for\t", "8.8.8.8"), ("USER_AGENT", "Mozilla/5.0")]

theorem respelled_proxyHeaders :
    Headers.RespelledHeaders proxyHeaders respelledHeaders := by
  have hagent : Headers.Respelled "User-Agent" "USER_AGENT" := by
    have hdash := Headers.Respelled.dash "USER" "AGENT"
    have hletters : Text.SameLetters "User-Agent" "USER-AGENT" := by
      unfold Text.SameLetters
      decide
    exact (Headers.Respelled.letters hletters).trans hdash.symm
  have hforwarded : Headers.Respelled "X_Forwarded_For" " x-forwarded-for\t" := by
    have hfirst := Headers.Respelled.dash "X" "Forwarded_For"
    have hsecond := Headers.Respelled.dash "X-Forwarded" "For"
    have hletters : Text.SameLetters "X-Forwarded-For" "x-forwarded-for" := by
      unfold Text.SameLetters
      decide
    have hspace : Text.IsBlankText " " := List.all_eq_true.mp rfl
    have htab : Text.IsBlankText "\t" := List.all_eq_true.mp rfl
    have hblanks := Headers.Respelled.blanks hspace htab "x-forwarded-for"
    exact ((hfirst.trans hsecond).trans (.letters hletters)).trans hblanks
  exact ⟨_, List.Perm.swap _ _ _, .cons ⟨hforwarded, rfl⟩ (.cons ⟨hagent, rfl⟩ .nil)⟩

/-- A visit through a proxy is decided alike under both spellings. -/
theorem respelled_visit_is_decided_alike :
    Headers.HasDistinctHeaders proxyHeaders ∧
      Headers.RespelledHeaders proxyHeaders respelledHeaders ∧
      namedSurroundings.rules.IgnoresHeaders ∧
      Decision.decide namedSurroundings ⟨.folder .initial, none⟩
          { localVisit with headers := respelledHeaders } Rule.serverSide true =
        Decision.decide namedSurroundings ⟨.folder .initial, none⟩
          { localVisit with headers := proxyHeaders } Rule.serverSide true := by
  have hnames : Headers.HasDistinctHeaders proxyHeaders := by
    have hagent : Headers.normalName "User-Agent" = "user-agent" := by decide +kernel
    have hforwarded : Headers.normalName "X_Forwarded_For" = "x-forwarded-for" := by
      decide +kernel
    simp [Headers.HasDistinctHeaders, proxyHeaders, hagent, hforwarded]
  have hrules : namedSurroundings.rules.IgnoresHeaders := by
    intro raws h raw hraw
    obtain rfl : [namedRule] = raws := Except.ok.inj (raws_namedSurroundings.symm.trans h)
    obtain rfl : raw = namedRule := List.mem_singleton.mp hraw
    decide
  obtain ⟨-, -, hdecide, -⟩ := header_spelling_does_not_matter
    { localVisit with headers := proxyHeaders } respelledHeaders hnames respelled_proxyHeaders
  exact ⟨hnames, respelled_proxyHeaders, hrules,
    hdecide namedSurroundings ⟨.folder .initial, none⟩ Rule.serverSide true hrules⟩

end Decisions

end Turnstile
