import Turnstile.Intel.Traits
import Turnstile.Proofs.AddressClasses
import Turnstile.Proofs.RecordReading

/-!
# Traits in different forms

Traits are read from records and from raw documents, and the country also looks at the text
of the address.  Neither the form of what is known of an address nor the blanks around its
text make a difference, with one exception each.

**Raw documents.**  In a raw document each text but the empty one sets a flag, also the words
that stand for a flag that is not set.  A document *denies in words* if it has such a word for
a flag.  All else in a document that can be read as a record means the same there.

**Padded addresses.**  Blanks around an address do not count when it is read.  The two usual
loopback addresses are not read but compared as they stand, so that blanks do count there.

**Results.**
* `ofJson_eq`: the traits of a raw document and of its record.
* `forms_agree_unless_denied_in_words`: what this means for the classes of addresses.
* `isLocalText_padded`: which padded texts are local.
* `padding_counts_for_loopback_only`: when blanks around an address do not matter.
-/

namespace Turnstile

section Flags

namespace Double

theorem sameNumber_zero_iff
    {negative : Bool}
    {units : Nat}
    {exact : representable units = true} :
    sameNumber (.finite negative units exact) zero = true ↔ units = 0 := by
  have hfinite : (finite negative units exact != .nan && zero != .nan) = true := rfl
  have hlt : lt (.finite negative units exact) zero =
      decide ((if negative then -(units : Int) else units) < 0) := rfl
  have hgt : lt zero (.finite negative units exact) =
      decide (0 < (if negative then -(units : Int) else units)) := rfl
  rw [sameNumber, hfinite, hlt, hgt]
  cases negative with
  | false => simp
  | true => simp

theorem toInt?_finite
    {negative : Bool}
    {units : Nat}
    (exact : representable units = true) :
    (finite negative units exact).toInt? =
      if units % unitsPerOne = 0 then
        some (if negative then -((units / unitsPerOne : Nat) : Int)
          else (units / unitsPerOne : Nat))
      else none :=
  rfl

theorem units_eq_zero_iff
    {negative : Bool}
    {units : Nat}
    {exact : representable units = true}
    {n : Int}
    (h : (finite negative units exact).toInt? = some n) :
    units = 0 ↔ n = 0 := by
  have hpos := unitsPerOne_pos
  rw [toInt?_finite exact] at h
  generalize unitsPerOne = one at h hpos
  split at h
  next hwhole =>
    have hzero : units = 0 ↔ units / one = 0 := by
      constructor
      · rintro rfl
        exact Nat.zero_div one
      · intro hquotient
        rw [← Nat.div_add_mod units one, hquotient, hwhole]
        rfl
    rw [hzero, ← Option.some.inj h]
    generalize units / one = quotient
    cases negative with
    | false => simp
    | true => simp
  next => cases h

end Double

namespace Record

/-- A double that stands for a flag is set in a raw document iff the flag is. -/
theorem isTruthy_float
    {x : Double}
    {n : Int}
    {b : Bool}
    (hx : x.toInt? = some n)
    (hn : flagOfInt? n = some b) :
    (Json.float x).isTruthy = b := by
  cases x with
  | nan => cases hx
  | infinite negative => cases hx
  | finite negative units exact =>
      have hsame : Double.sameNumber (.finite negative units exact) .zero = true ↔ b = false := by
        rw [Double.sameNumber_zero_iff, Double.units_eq_zero_iff hx, flagOfInt?_eq_some_iff.mp hn]
        cases b with
        | false => simp
        | true => simp
      rw [Json.isTruthy]
      cases b with
      | false => rw [hsame.mpr rfl, Bool.not_true]
      | true => rw [Bool.eq_false_iff.mpr (mt hsame.mp Bool.noConfusion), Bool.not_false]

/-- The value is a word for a flag that is not set. -/
def isDenyingWord : Json → Bool
  | .string s => flagOfWord? s == some false
  | _ => false

/-- A raw flag is set if the flag it stands for is, or if it is a word for the opposite. -/
theorem StandsFor.isTruthy_eq
    {v : Json}
    {value : Option Bool}
    (h : StandsFor v value) :
    v.isTruthy = (value.getD false || isDenyingWord v) := by
  cases h with
  | null => rfl
  | bool b => cases b <;> rfl
  | @word s b hword =>
      have hne : s ≠ "" := by
        rintro rfl
        cases hword
      cases b <;> simp [Json.isTruthy, isDenyingWord, hne, hword]
  | @int n b hn =>
      rw [flagOfInt?_eq_some_iff.mp hn]
      cases b <;> rfl
  | float hx hn => simp [isTruthy_float hx hn, isDenyingWord]

/-- A raw document has a word for a flag that is not set. -/
def deniesInWords
    (ms : Members Json) : Bool :=
  isDenyingWord ((Json.object ms).member "proxy") ||
    isDenyingWord ((Json.object ms).member "hosting")

end Record

end Flags

namespace Traits

section Forms

variable {ms : Members Json} {r : Record}

/-- A text that a record has, or null, is the same text in a raw document. -/
theorem rawText_member
    {name : String}
    {value : Option Wording}
    (h : (ms.get? name).filter (!·.isNull) = value.map .ofWording) :
    rawText ((Json.object ms).member name) = shownText value := by
  rw [Json.member, Json.member?]
  cases value with
  | none =>
      cases hget : ms.get? name with
      | none =>
          rfl
      | some v =>
          rw [hget] at h
          cases v <;> simp_all [Option.filter_some, Json.isNull, rawText, shownText]
  | some text =>
      obtain ⟨hget, -⟩ := Option.filter_eq_some_iff.mp h
      rw [hget]
      cases text <;> rfl

/-- The traits of a raw document are those of its record, but for flags denied in words. -/
theorem ofJson_eq
    (h : Record.ofMembers ms = .ok r) :
    ofJson (.object ms) =
      { ofRecord r with isFlagged := (ofRecord r).isFlagged || Record.deniesInWords ms } := by
  have hreads := Record.ofMembers_eq_ok_iff.mp h
  have hproxy : ((Json.object ms).member "proxy").isTruthy =
      (r.proxy.getD false || Record.isDenyingWord ((Json.object ms).member "proxy")) :=
    hreads.proxy.isTruthy_eq
  have hhosting : ((Json.object ms).member "hosting").isTruthy =
      (r.hosting.getD false || Record.isDenyingWord ((Json.object ms).member "hosting")) :=
    hreads.hosting.isTruthy_eq
  rw [ofJson, ofRecord, rawText_member hreads.org, rawText_member hreads.isp,
    rawText_member hreads.countryCode, hproxy, hhosting, Record.deniesInWords]
  congr 1
  ac_rfl

theorem isHidden_ofJson
    (h : Record.ofMembers ms = .ok r) :
    (ofJson (.object ms)).isHidden = ((ofRecord r).isHidden || Record.deniesInWords ms) := by
  rw [ofJson_eq h, isHidden, isHidden, networkNames, networkNames]
  simp only [Bool.or_assoc, Bool.or_comm (Record.deniesInWords ms)]

/--
**Raw documents are classed as their records, but for flags denied in words.**  The country of
an address is the same in both forms.  Whether an address is hidden, the text of that and the
name of its network are the same in both unless the raw document denies a flag in words and
nothing else hides the address: then it is hidden in the raw form only.
-/
theorem forms_agree_unless_denied_in_words
    (h : Record.ofMembers ms = .ok r)
    (address : String) :
    (ofJson (.object ms)).country address = (ofRecord r).country address ∧
    (ofJson (.object ms)).isHidden = ((ofRecord r).isHidden || Record.deniesInWords ms) ∧
    ((ofJson (.object ms)).isHidden = (ofRecord r).isHidden ∧
        (ofJson (.object ms)).hiddenText = (ofRecord r).hiddenText ∧
        (ofJson (.object ms)).networkName = (ofRecord r).networkName ↔
      ¬(Record.deniesInWords ms = true ∧ (ofRecord r).isHidden = false)) := by
  have htraits := ofJson_eq h
  have hhidden := isHidden_ofJson h
  refine ⟨?_, hhidden, ?_⟩
  · rw [htraits, country, country]
  · constructor
    · rintro ⟨hsame, -, -⟩ ⟨hdenies, hopen⟩
      rw [hhidden, hdenies, hopen] at hsame
      cases hsame
    · intro hnot
      have hsame : (ofJson (.object ms)).isHidden = (ofRecord r).isHidden := by
        rw [hhidden]
        cases hopen : (ofRecord r).isHidden with
        | true => rfl
        | false => simpa [hopen] using hnot
      have hnames : (ofJson (.object ms)).org = (ofRecord r).org ∧
          (ofJson (.object ms)).isp = (ofRecord r).isp := by
        rw [htraits]
        exact ⟨rfl, rfl⟩
      refine ⟨hsame, ?_, ?_⟩
      · rw [hiddenText, hiddenText, hsame]
      · rw [networkName, networkName, hsame, hnames.1, hnames.2]

/-- A flag that is set by a word is set in both forms. -/
theorem worded_flag_set_in_both_forms :
    ∃ r, Record.ofMembers [("proxy", .string "On"), ("org", .null), ("isp", .string "Acme")] =
        .ok r ∧
      (ofJson (.object [("proxy", .string "On"), ("org", .null), ("isp", .string "Acme")])).networkName =
        "Acme" ∧
      (ofRecord r).networkName = "Acme" := by
  obtain ⟨r, hr⟩ : ∃ r, Record.ofMembers
      [("proxy", .string "On"), ("org", .null), ("isp", .string "Acme")] = .ok r := ⟨_, rfl⟩
  obtain ⟨-, -, hiff⟩ := forms_agree_unless_denied_in_words hr "198.51.100.7"
  have hname := (hiff.mpr (by simp [show Record.deniesInWords
    [("proxy", .string "On"), ("org", .null), ("isp", .string "Acme")] = false by decide])).2.2
  have hraw : (ofJson (.object
      [("proxy", .string "On"), ("org", .null), ("isp", .string "Acme")])).networkName = "Acme" := by
    decide
  exact ⟨r, hr, hraw, hname.symm.trans hraw⟩

/-- A document whose flag is denied in words is hidden in the raw form, its record is not. -/
theorem denied_flag_hides_raw_document :
    ∃ r, Record.ofMembers [("proxy", .string "no"), ("org", .string "Acme")] = .ok r ∧
      (ofJson (.object [("proxy", .string "no"), ("org", .string "Acme")])).isHidden = true ∧
      (ofRecord r).isHidden = false ∧
      (ofJson (.object [("proxy", .string "no"), ("org", .string "Acme")])).networkName = "Acme" ∧
      (ofRecord r).networkName = "" :=
  ⟨_, rfl, by decide, by decide, by decide, by decide⟩

end Forms

section Padding

variable {before after : String}

/-- The loopback addresses that are compared as they stand. -/
def loopbackTexts : List String := ["127.0.0.1", "::1"]

/-- The text writes an address of a local network, with or without blanks around it. -/
def writesLocal
    (s : String) : Bool :=
  match Address.read? (Text.trimmed s.toList) with
  | some (.v4 n) => Address.inSome Address.localNetworks n
  | _ => false

theorem isLocalText_eq
    (s : String) :
    Address.isLocalText s = (loopbackTexts.contains s || writesLocal s) := by
  have hcontains : loopbackTexts.contains s = (s == "127.0.0.1" || s == "::1") := by
    simp only [loopbackTexts, List.contains_cons, List.contains_nil, Bool.or_false]
  rw [hcontains]
  rfl

theorem writesLocal_padded
    (hbefore : Text.IsBlankText before)
    (hafter : Text.IsBlankText after)
    (s : String) :
    writesLocal (before ++ s ++ after) = writesLocal s := by
  rw [writesLocal, writesLocal, String.toList_append, String.toList_append,
    Text.trimmed_append_blanks hbefore hafter]

/-- Loopback addresses are no longer such with blanks around them. -/
theorem eq_empty_of_loopback
    (hbefore : Text.IsBlankText before)
    (hafter : Text.IsBlankText after)
    {s : String}
    (h : before ++ s ++ after ∈ loopbackTexts) :
    before = "" ∧ after = "" := by
  have hfree : ∀ c ∈ (before ++ s ++ after).toList, Text.isBlank c = false := by
    have hall : (loopbackTexts.all fun text => text.toList.all fun c => !Text.isBlank c) = true := by
      decide
    intro c hc
    rw [List.all_eq_true] at hall
    simpa using List.all_eq_true.mp (hall _ h) c hc
  simp only [String.toList_append, List.mem_append] at hfree
  constructor
  · rw [← String.toList_eq_nil_iff, List.eq_nil_iff_forall_not_mem]
    intro c hc
    exact Bool.noConfusion ((hbefore c hc).symm.trans (hfree c (.inl (.inl hc))))
  · rw [← String.toList_eq_nil_iff, List.eq_nil_iff_forall_not_mem]
    intro c hc
    exact Bool.noConfusion ((hafter c hc).symm.trans (hfree c (.inr hc)))

/-- A padded text is local iff it writes a local address, or is a loopback address unpadded. -/
theorem isLocalText_padded
    (hbefore : Text.IsBlankText before)
    (hafter : Text.IsBlankText after)
    (s : String) :
    Address.isLocalText (before ++ s ++ after) =
      (decide (before = "" ∧ after = "") && loopbackTexts.contains s || writesLocal s) := by
  rw [isLocalText_eq, writesLocal_padded hbefore hafter]
  congr 1
  by_cases hnone : before = "" ∧ after = ""
  · simp [hnone]
  · have hpadded : before ++ s ++ after ∉ loopbackTexts :=
      fun h => hnone (eq_empty_of_loopback hbefore hafter h)
    simp [hnone, hpadded]

/--
**Blanks around an address matter for loopback only.**  With blanks around it a text is local
iff it is without them, and addresses have the country of addresses that are not public for
both or for neither, unless the text is a usual loopback address and there is a blank.  Such a
text is local, but not with the blank.
-/
theorem padding_counts_for_loopback_only
    (hbefore : Text.IsBlankText before)
    (hafter : Text.IsBlankText after)
    (s : String) :
    (¬(s ∈ ["127.0.0.1", "::1"] ∧ before ++ after ≠ "") →
      Address.isLocalText (before ++ s ++ after) = Address.isLocalText s ∧
      ∀ t : Traits, t.country (before ++ s ++ after) = t.country s) ∧
    (s ∈ ["127.0.0.1", "::1"] ∧ before ++ after ≠ "" →
      Address.isLocalText s = true ∧ Address.isLocalText (before ++ s ++ after) = false) := by
  have hempty : before ++ after = "" ↔ before = "" ∧ after = "" := by
    simp [← String.toList_eq_nil_iff, String.toList_append]
  have hnot : ∀ text ∈ loopbackTexts, writesLocal text = false := by decide
  constructor
  · intro hexcept
    have hsame : Address.isLocalText (before ++ s ++ after) = Address.isLocalText s := by
      rw [isLocalText_padded hbefore hafter, isLocalText_eq]
      congr 1
      by_cases hnone : before = "" ∧ after = ""
      · simp [hnone]
      · have hother : s ∉ loopbackTexts := fun h => hexcept ⟨h, mt hempty.mp hnone⟩
        simp [hother]
    refine ⟨hsame, fun t => ?_⟩
    rw [country, country, hsame]
  · rintro ⟨hloopback, hpadding⟩
    have hcontains : loopbackTexts.contains s = true := List.contains_iff_mem.mpr hloopback
    constructor
    · rw [isLocalText_eq, hcontains, Bool.true_or]
    · rw [isLocalText_padded hbefore hafter, hnot s hloopback,
        decide_eq_false (mt hempty.mpr hpadding)]
      rfl

/-- A local address stays local between a tabulator and an ideographic space. -/
theorem padded_private_address_is_local :
    Text.IsBlankText "\t" ∧ Text.IsBlankText "\u3000" ∧
    Address.isLocalText "\t10.1.2.3\u3000" = true ∧
    ∀ t : Traits, t.country "\t10.1.2.3\u3000" = t.country "10.1.2.3" := by
  have hbefore : Text.IsBlankText "\t" := List.all_eq_true.mp rfl
  have hafter : Text.IsBlankText "\u3000" := List.all_eq_true.mp rfl
  obtain ⟨hsame, hcountry⟩ :=
    (padding_counts_for_loopback_only hbefore hafter "10.1.2.3").1 (by decide)
  exact ⟨hbefore, hafter, hsame.trans (by decide), hcountry⟩

/-- A blank before it makes a loopback address one of any country. -/
theorem blank_hides_loopback :
    Text.IsBlankText " " ∧ Address.isLocalText "127.0.0.1" = true ∧
    Address.isLocalText (" " ++ "127.0.0.1" ++ "") = false ∧
    (⟨false, "", "", "US"⟩ : Traits).country "127.0.0.1" = "localhost" ∧
    (⟨false, "", "", "US"⟩ : Traits).country (" " ++ "127.0.0.1" ++ "") = "US" := by
  exact ⟨List.all_eq_true.mp rfl, by decide, by decide, by decide, by decide⟩

end Padding

end Traits

end Turnstile
