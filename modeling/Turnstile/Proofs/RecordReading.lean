import Turnstile.Proofs.Overlay
import Turnstile.Proofs.Permanence

/-!
# What records tell of documents

A record is read from a document member by member, and its own document tells what was
read: the declared members in their order, flags in one form, defaults filled in and nulls
left out, then the further members as they stood.  Such a document is settled: reading and
writing it again changes nothing, neither as it is nor by way of a text.

**Results.**
* `ofMembers_eq_ok_iff`: the records that are read, member by member.
* `Reads.document_eq`: the document of a record, told from the document it was read from.
* `documents_settle_in_one_pass`: the document of a record is settled.
-/

namespace Turnstile

section Checks

namespace Checked

variable {α β : Type}

/-- Of two checks, one after the other, both are passed. -/
theorem result_bind_eq_ok_iff
    {x : Checked α}
    {f : α → Checked β}
    {b : β} :
    (x >>= f).result = .ok b ↔ ∃ a, x.result = .ok a ∧ (f a).result = .ok b := by
  simp only [result_eq_ok_iff]
  constructor
  · rintro ⟨hflaws, hvalue⟩
    obtain ⟨hx, hf⟩ := List.append_eq_nil_iff.mp hflaws
    exact ⟨x.value, ⟨hx, rfl⟩, hf, hvalue⟩
  · rintro ⟨a, ⟨hx, rfl⟩, hf, hvalue⟩
    exact ⟨List.append_eq_nil_iff.mpr ⟨hx, hf⟩, hvalue⟩

theorem result_pure_eq_ok_iff
    {a b : α} :
    (pure a : Checked α).result = .ok b ↔ a = b := by
  change (clean a).result = .ok b ↔ a = b
  rw [result_clean, Except.ok.injEq]

variable {ms : Members Json} {name : String}

theorem result_wording_eq_ok_iff
    {path : List PathStep}
    {v : Json}
    {text : Wording} :
    (wording path v).result = .ok text ↔ v = .ofWording text := by
  cases v <;> cases text <;> simp [wording, flawed, result, clean, Json.ofWording]

theorem result_optionalWording_eq_ok_iff
    {path : List PathStep}
    {v : Json}
    {value : Option Wording} :
    (optionalWording path v).result = .ok value ↔
      (some v).filter (!·.isNull) = value.map .ofWording := by
  rcases value with _ | text
  · cases v <;> simp [optionalWording, flawed, result, clean, Json.isNull, Option.filter_some]
  · cases v <;> cases text <;>
      simp [optionalWording, flawed, result, clean, Json.isNull, Json.ofWording,
        Option.filter_some]

theorem result_field_wording
    {absent text : Wording} :
    (field ms [name] absent wording).result = .ok text ↔
      (ms.get? name).getD (.ofWording absent) = .ofWording text := by
  rw [← @result_wording_eq_ok_iff [.name name]]
  cases hget : ms.get? name with
  | none =>
      rw [field_of_get?_none hget, Option.getD_none, wording_ofWording]
  | some v =>
      rw [field_of_get? hget]
      rfl

theorem result_field_optionalWording
    {value : Option Wording} :
    (field ms [name] none optionalWording).result = .ok value ↔
      (ms.get? name).filter (!·.isNull) = value.map .ofWording := by
  cases hget : ms.get? name with
  | none =>
      rw [field_of_get?_none hget, result_clean]
      cases value <;> simp
  | some v =>
      rw [field_of_get? hget, result_optionalWording_eq_ok_iff]

end Checked

end Checks

namespace Record

section Flags

/-- The values that stand for a flag, or for none. -/
inductive StandsFor : Json → Option Bool → Prop where
  | null : StandsFor .null none
  | bool (b : Bool) : StandsFor (.bool b) (some b)
  | word {s : String} {b : Bool} (hword : flagOfWord? s = some b) :
      StandsFor (.string s) (some b)
  | int {n : Int} {b : Bool} (hn : flagOfInt? n = some b) : StandsFor (.int n) (some b)
  | float {x : Double} {n : Int} {b : Bool} (hx : x.toInt? = some n)
      (hn : flagOfInt? n = some b) : StandsFor (.float x) (some b)

theorem flagOfInt?_eq_some_iff
    {n : Int}
    {b : Bool} :
    flagOfInt? n = some b ↔ n = if b then 1 else 0 := by
  unfold flagOfInt?
  cases b with
  | false =>
      split
      · simp_all
      · simp_all
  | true =>
      split
      · simp_all
      · simp_all

theorem result_flag_eq_ok_iff
    {path : List PathStep}
    {v : Json}
    {value : Option Bool} :
    (flag path v).result = .ok value ↔ StandsFor v value := by
  -- A number that stands for a flag is far within the bounds of the numbers looked at.
  have hbounds : ∀ {n : Int} {b : Bool}, flagOfInt? n = some b →
      -flagBound < n ∧ n < flagBound := by
    intro n b hn
    rw [flagOfInt?_eq_some_iff] at hn
    cases b <;> simp [hn, flagBound]
  constructor
  · intro h
    cases v with
    | null =>
        obtain rfl : none = value := by simpa [flag] using h
        exact .null
    | bool b =>
        obtain rfl : some b = value := by simpa [flag] using h
        exact .bool b
    | string s =>
        cases hword : flagOfWord? s with
        | none => simp [flag, hword, Checked.flawed, Checked.result] at h
        | some b =>
            obtain rfl : some b = value := by simpa [flag, hword] using h
            exact .word hword
    | int n =>
        simp only [flag] at h
        split at h
        · cases hn : flagOfInt? n with
          | none => simp [hn, Checked.flawed, Checked.result] at h
          | some b =>
              obtain rfl : some b = value := by simpa [hn] using h
              exact .int hn
        · simp [Checked.flawed, Checked.result] at h
    | float x =>
        cases hx : x.toInt? with
        | none => simp [flag, hx, Checked.flawed, Checked.result] at h
        | some n =>
            simp only [flag, hx] at h
            split at h
            · cases hn : flagOfInt? n with
              | none => simp [hn, Checked.flawed, Checked.result] at h
              | some b =>
                  obtain rfl : some b = value := by simpa [hn] using h
                  exact .float hx hn
            · simp [Checked.flawed, Checked.result] at h
    | halved | array | object | misnamed => simp [flag, Checked.flawed, Checked.result] at h
  · intro h
    cases h with
    | null => rfl
    | bool b => rfl
    | word hword => simp [flag, hword]
    | int hn =>
        simp [flag, hn, hbounds hn, (hbounds hn).1.le]
    | float hx hn =>
        simp [flag, hx, hn, hbounds hn]

end Flags

section Reading

variable {ms : Members Json} {r : Record}

/-- A record holds what a document says: defaults, and nulls as if they were missing. -/
structure Reads
    (ms : Members Json)
    (r : Record) : Prop where
  query : (ms.get? "query").getD (.string "") = .ofWording r.query
  status : (ms.get? "status").getD (.string failure) = .ofWording r.status
  message : (ms.get? "message").filter (!·.isNull) = r.message.map .ofWording
  country : (ms.get? "country").filter (!·.isNull) = r.country.map .ofWording
  countryCode : (ms.get? "countryCode").filter (!·.isNull) = r.countryCode.map .ofWording
  org : (ms.get? "org").filter (!·.isNull) = r.org.map .ofWording
  isp : (ms.get? "isp").filter (!·.isNull) = r.isp.map .ofWording
  proxy : StandsFor ((ms.get? "proxy").getD .null) r.proxy
  hosting : StandsFor ((ms.get? "hosting").getD .null) r.hosting
  reverse : (ms.get? "reverse").filter (!·.isNull) = r.reverse.map .ofWording
  extra : r.extra = ms.filter fun member => !declared.contains member.1

theorem result_field_flag
    {name : String}
    {value : Option Bool} :
    (Checked.field ms [name] none flag).result = .ok value ↔
      StandsFor ((ms.get? name).getD .null) value := by
  rw [← @result_flag_eq_ok_iff [.name name]]
  cases hget : ms.get? name with
  | none =>
      rw [Checked.field_of_get?_none hget]
      rfl
  | some v =>
      rw [Checked.field_of_get? hget]
      rfl

/-- A document is read as a record iff the record holds what the document says. -/
theorem ofMembers_eq_ok_iff :
    ofMembers ms = .ok r ↔ Reads ms r := by
  simp only [ofMembers, check, Checked.result_bind_eq_ok_iff, Checked.result_field_wording,
    Checked.result_field_optionalWording, result_field_flag, Checked.result_pure_eq_ok_iff]
  constructor
  · rintro ⟨query, hquery, status, hstatus, message, hmessage, country, hcountry, countryCode,
      hcountryCode, org, horg, isp, hisp, proxy, hproxy, hosting, hhosting, reverse, hreverse, rfl⟩
    exact ⟨hquery, hstatus, hmessage, hcountry, hcountryCode, horg, hisp, hproxy, hhosting,
      hreverse, rfl⟩
  · intro h
    refine ⟨_, h.query, _, h.status, _, h.message, _, h.country, _, h.countryCode, _, h.org, _,
      h.isp, _, h.proxy, _, h.hosting, _, h.reverse, ?_⟩
    rw [← h.extra]

end Reading

section Documents

variable {ms : Members Json} {r : Record}

/--
What a record tells of a document under a declared name: the query and the status with their
defaults, flags in one form, and other members unless they are null.
-/
def told?
    (ms : Members Json)
    (name : String) : Option Json :=
  if name = "query" then some ((ms.get? name).getD (.string ""))
  else if name = "status" then some ((ms.get? name).getD (.string failure))
  else if name = "proxy" ∨ name = "hosting" then
    (flag [.name name] ((ms.get? name).getD .null)).value.map .bool
  else (ms.get? name).filter (!·.isNull)

/-- What a record tells of a document: the declared members in order, then the further ones. -/
def settled
    (ms : Members Json) : Members Json :=
  (declared.filterMap fun name => (told? ms name).map fun value => (name, value)) ++
    ms.filter fun member => !declared.contains member.1 && !member.2.unnamed.isNull

theorem Reads.told?_eq
    (h : Reads ms r)
    {name : String}
    (hname : name ∈ declared) :
    told? ms name = (Members.get? r.declaredMembers name).filter isWritten := by
  have hflag : ∀ {path : List PathStep} {v : Json} {value : Option Bool}, StandsFor v value →
      (flag path v).value.map Json.bool = (some (flagValue value)).filter isWritten := by
    intro path v value hvalue
    rw [(Checked.result_eq_ok_iff.mp (result_flag_eq_ok_iff.mpr hvalue)).2,
      filter_isWritten_flagValue]
  simp only [declared, List.mem_cons, List.not_mem_nil, or_false] at hname
  rcases hname with rfl | rfl | rfl | rfl | rfl | rfl | rfl | rfl | rfl | rfl
  · exact (congrArg some h.query).trans (filter_isWritten_wordingValue (some r.query)).symm
  · exact (congrArg some h.status).trans (filter_isWritten_wordingValue (some r.status)).symm
  · exact h.message.trans (filter_isWritten_wordingValue r.message).symm
  · exact h.country.trans (filter_isWritten_wordingValue r.country).symm
  · exact h.countryCode.trans (filter_isWritten_wordingValue r.countryCode).symm
  · exact h.org.trans (filter_isWritten_wordingValue r.org).symm
  · exact h.isp.trans (filter_isWritten_wordingValue r.isp).symm
  · exact hflag h.proxy
  · exact hflag h.hosting
  · exact h.reverse.trans (filter_isWritten_wordingValue r.reverse).symm

/-- Members with distinct names that are kept, told name by name. -/
theorem filter_values_eq_filterMap
    {members : Members Json}
    (hnames : (members.map Prod.fst).Nodup)
    (keep : Json → Bool) :
    (members.filter fun member => keep member.2) =
      (members.map Prod.fst).filterMap fun name =>
        ((members.get? name).filter keep).map fun value => (name, value) := by
  rw [List.filterMap_map, ← List.filterMap_eq_filter]
  apply List.filterMap_congr
  intro member hmember
  have hget : members.get? member.1 = some member.2 :=
    (Members.get?_eq_some_iff_mem hnames).mpr hmember
  cases hkeep : keep member.2 with
  | true => simp [hget, hkeep, Option.filter_some]
  | false => simp [hget, hkeep, Option.filter_some]

/-- The document of a record is what it tells of the document that it was read from. -/
theorem Reads.document_eq
    (h : Reads ms r) :
    r.document = settled ms := by
  have hown : (r.declaredMembers.filter fun member => isWritten member.2) =
      declared.filterMap fun name => (told? ms name).map fun value => (name, value) := by
    rw [filter_values_eq_filterMap (by rw [names_declaredMembers]; decide) isWritten,
      names_declaredMembers]
    apply List.filterMap_congr
    intro name hname
    rw [h.told?_eq hname]
  have hfurther : (r.extra.filter fun member => isWritten member.2) =
      ms.filter fun member => !declared.contains member.1 && !member.2.unnamed.isNull := by
    rw [h.extra, List.filter_filter]
    apply List.filter_congr
    intro member _
    rw [isWritten, Bool.and_comm]
  change (r.declaredMembers ++ r.extra).filter (fun member => isWritten member.2) = settled ms
  rw [List.filter_append, hown, hfurther, settled]

/--
**One pass settles a document.**  The document of a record that was read from a document holds
no null.  It lists the declared members in their order, and after them the further members
that are not null as they stood.  It is read as a record of the same document, and the texts
in which a folder and a remote store keep it read as it.
-/
theorem documents_settle_in_one_pass
    (hms : Json.Readable (.object ms))
    (h : ofMembers ms = .ok r) :
    (∀ member ∈ r.document, member.2.unnamed.isNull = false) ∧
    r.document = settled ms ∧
    (∃ r', ofMembers r.document = .ok r' ∧ r'.document = r.document) ∧
    readObject? (CacheFolder.documentText (.object r.document)) = some r.document ∧
    readObject? (Cache.remoteText (.object r.document)) = some r.document := by
  have hreads := readsBack_of_ofMembers hms h
  refine ⟨?_, (ofMembers_eq_ok_iff.mp h).document_eq,
    ⟨r.withoutNulls, hreads.ofMembers_document, r.document_withoutNulls⟩,
    hreads.readObject?_cached⟩
  intro member hmember
  simpa using (List.mem_filter.mp hmember).2

/-- A document with its members in any order, flags in other forms, and nulls. -/
def mixedDocument : Members Json :=
  [("city", .string "Köln"), ("proxy", .string "YES"), ("note", .null),
    ("geo", .object [("tags", .array [.null, .int (-3)]), ("ä\n", .float .nan)]),
    ("hosting", .int 0), ("org", .null), ("status", .string "success")]

/-- Such a document is settled after one pass. -/
theorem mixed_document_settles :
    Json.Readable (.object mixedDocument) ∧
    ∃ r, ofMembers mixedDocument = .ok r ∧
      r.document =
        [("query", .string ""), ("status", .string "success"), ("proxy", .bool true),
          ("hosting", .bool false), ("city", .string "Köln"),
          ("geo", .object [("tags", .array [.null, .int (-3)]), ("ä\n", .float .nan)])] ∧
      (∃ r', ofMembers r.document = .ok r' ∧ r'.document = r.document) ∧
      readObject? (CacheFolder.documentText (.object r.document)) = some r.document ∧
      readObject? (Cache.remoteText (.object r.document)) = some r.document := by
  have hreadable : Json.Readable (.object mixedDocument) := by
    have hthree : Json.Readable (.int (-3)) := .int (by decide)
    have hzero : Json.Readable (.int 0) := .int (by decide)
    simp [mixedDocument, Json.Readable.null, Json.Readable.float, hthree, hzero]
  have hread : ∃ r, ofMembers mixedDocument = .ok r := ⟨_, rfl⟩
  obtain ⟨r, hr⟩ := hread
  obtain ⟨-, hdocument, hsettled⟩ := documents_settle_in_one_pass hreadable hr
  exact ⟨hreadable, r, hr, hdocument.trans rfl, hsettled⟩

end Documents

end Record

end Turnstile
