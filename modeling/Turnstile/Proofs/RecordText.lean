import Turnstile.Intel.Resolver
import Turnstile.Proofs.JsonText

/-!
# Texts of records

A record that was read from a document is written without its nulls.  The text reads
back, and the document in it passes the check of records again and gives the record,
whose further members have lost their nulls.

**Records that can be written.**  A store takes the text of a record only if no half of a
surrogate pair is in it.  The fallback can always be written.

**Results.**
* `ofMembers_document`: the document of a record gives the record without nulls.
* `readObject?_document`: its text reads as the document.
* `readsBack_of_looked?`: whatever comes of a lookup is such a record.
* `isWritable_of_looked?`: when it can be written.
-/

namespace Turnstile

section Checks

namespace Checked

variable {α β : Type}

@[simp] theorem clean_bind
    (a : α)
    (f : α → Checked β) :
    (clean a >>= f) = f a :=
  rfl

@[simp] theorem result_clean
    (a : α) :
    (clean a).result = .ok a :=
  rfl

theorem result_eq_ok_iff
    {x : Checked α}
    {a : α} :
    x.result = .ok a ↔ x.flaws = [] ∧ x.value = a := by
  unfold result
  cases hflaws : x.flaws with
  | nil => simp
  | cons flaw rest => simp

variable {ms : Members Json} {name : String}

theorem field_of_get?
    {v : Json}
    (h : ms.get? name = some v)
    (absent : α)
    (read : List PathStep → Json → Checked α) :
    field ms [name] absent read = read [.name name] v := by
  simp [field, h]

theorem field_of_get?_none
    (h : ms.get? name = none)
    (absent : α)
    (read : List PathStep → Json → Checked α) :
    field ms [name] absent read = clean absent := by
  simp [field, h]

theorem wording_ofWording
    (path : List PathStep)
    (text : Wording) :
    wording path (.ofWording text) = clean text := by
  cases text <;> rfl

/-- A member that holds a text, or is missing, is read as it was written. -/
theorem field_optionalWording
    {value : Option Wording}
    (h : ms.get? name = value.map .ofWording) :
    field ms [name] none optionalWording = clean value := by
  cases value with
  | none =>
      exact field_of_get?_none h none optionalWording
  | some text =>
      rw [field_of_get? h none optionalWording]
      cases text <;> rfl

/-- A member that holds a flag, or is missing, is read as it was written. -/
theorem field_flag
    {value : Option Bool}
    (h : ms.get? name = value.map .bool) :
    field ms [name] none Record.flag = clean value := by
  cases value with
  | none => exact field_of_get?_none h none Record.flag
  | some b => exact field_of_get? h none Record.flag

end Checked

end Checks

namespace Record

variable {r : Record}

/-- A member with this value is written. -/
def isWritten
    (v : Json) : Bool :=
  !v.unnamed.isNull

/-- The further members have names of their own and can be read. -/
structure ReadsBack
    (r : Record) : Prop where
  undeclared : ∀ member ∈ r.extra, member.1 ∉ declared
  names : (r.extra.map Prod.fst).Nodup
  named : ∀ member ∈ r.extra, Json.IsNamed member
  values : ∀ member ∈ r.extra, member.2.unnamed.Readable

/-- The record without further members that are null. -/
def withoutNulls
    (r : Record) : Record :=
  { r with extra := r.extra.filter fun member => isWritten member.2 }

theorem names_declaredMembers
    (r : Record) :
    r.declaredMembers.map Prod.fst = declared :=
  rfl

theorem ReadsBack.nodup
    (hr : r.ReadsBack) :
    ((r.declaredMembers ++ r.extra).map Prod.fst).Nodup := by
  rw [List.map_append, names_declaredMembers, List.nodup_append]
  refine ⟨by decide, hr.names, ?_⟩
  rintro name hdeclared name' hextra rfl
  obtain ⟨member, hmember, rfl⟩ := List.mem_map.mp hextra
  exact hr.undeclared member hmember hdeclared

/-- Of the declared members of a document those are there that are not null. -/
theorem ReadsBack.get?_document
    (hr : r.ReadsBack)
    {name : String}
    (hname : name ∈ declared) :
    Members.get? r.document name = (Members.get? r.declaredMembers name).filter isWritten := by
  have hextra : Members.get? r.extra name = none := by
    rw [Members.get?_eq_none_iff]
    intro hmem
    obtain ⟨member, hmember, rfl⟩ := List.mem_map.mp hmem
    exact hr.undeclared member hmember hname
  have hfound := Members.get?_filter_values hr.nodup isWritten name
  rw [Members.get?_append, hextra, Option.or_none] at hfound
  exact hfound

theorem isWritten_ofWording
    (text : Wording) :
    isWritten (.ofWording text) = true := by
  cases text <;> rfl

theorem filter_isWritten_wordingValue
    (value : Option Wording) :
    (some (wordingValue value)).filter isWritten = value.map .ofWording := by
  cases value with
  | none => rfl
  | some text => simp [wordingValue, isWritten_ofWording]

theorem filter_isWritten_flagValue
    (value : Option Bool) :
    (some (flagValue value)).filter isWritten = value.map .bool := by
  cases value with
  | none => rfl
  | some b => rfl

/-- The further members of a document are those of the record that are not null. -/
theorem ReadsBack.extra_document
    (hr : r.ReadsBack) :
    (r.document.filter fun member => !declared.contains member.1) = r.withoutNulls.extra := by
  have hdeclared : ∀ member ∈ r.declaredMembers, member.1 ∈ declared := by
    intro member hmember
    rw [← names_declaredMembers r]
    exact List.mem_map.mpr ⟨member, hmember, rfl⟩
  have hnone : ((r.declaredMembers.filter fun member => isWritten member.2).filter
      fun member => !declared.contains member.1) = [] := by
    rw [List.filter_eq_nil_iff]
    intro member hmember
    simpa using hdeclared member (List.mem_filter.mp hmember).1
  have hall : ((r.extra.filter fun member => isWritten member.2).filter
      fun member => !declared.contains member.1) =
        r.extra.filter fun member => isWritten member.2 := by
    rw [List.filter_eq_self]
    intro member hmember
    simpa using hr.undeclared member (List.mem_filter.mp hmember).1
  change ((r.declaredMembers ++ r.extra).filter fun member => isWritten member.2).filter _ = _
  rw [List.filter_append, List.filter_append, hnone, hall]
  rfl

/-- **Records survive being written**, but for further members that are null. -/
theorem ReadsBack.ofMembers_document
    (hr : r.ReadsBack) :
    ofMembers r.document = .ok r.withoutNulls := by
  have hquery : Members.get? r.document "query" = some (.ofWording r.query) := by
    rw [hr.get?_document (by decide)]
    exact Option.filter_eq_some_iff.mpr ⟨rfl, isWritten_ofWording r.query⟩
  have hstatus : Members.get? r.document "status" = some (.ofWording r.status) := by
    rw [hr.get?_document (by decide)]
    exact Option.filter_eq_some_iff.mpr ⟨rfl, isWritten_ofWording r.status⟩
  have htext : ∀ name ∈ declared, ∀ value,
      Members.get? r.declaredMembers name = some (wordingValue value) →
        Checked.field r.document [name] none Checked.optionalWording = Checked.clean value := by
    intro name hname value hvalue
    apply Checked.field_optionalWording
    rw [hr.get?_document hname, hvalue, filter_isWritten_wordingValue]
  have hflag : ∀ name ∈ declared, ∀ value,
      Members.get? r.declaredMembers name = some (flagValue value) →
        Checked.field r.document [name] none flag = Checked.clean value := by
    intro name hname value hvalue
    apply Checked.field_flag
    rw [hr.get?_document hname, hvalue, filter_isWritten_flagValue]
  have hcheck : check r.document = Checked.clean r.withoutNulls := by
    unfold check
    rw [Checked.field_of_get? hquery, Checked.field_of_get? hstatus,
      htext "message" (by decide) r.message rfl, htext "country" (by decide) r.country rfl,
      htext "countryCode" (by decide) r.countryCode rfl, htext "org" (by decide) r.org rfl,
      htext "isp" (by decide) r.isp rfl, hflag "proxy" (by decide) r.proxy rfl,
      hflag "hosting" (by decide) r.hosting rfl, htext "reverse" (by decide) r.reverse rfl]
    simp only [Checked.wording_ofWording, Checked.clean_bind, hr.extra_document]
    rfl
  rw [ofMembers, hcheck, Checked.result_clean]

/-- The document of a record can be read. -/
theorem ReadsBack.readable
    (hr : r.ReadsBack) :
    Json.Readable (.object r.document) := by
  have hdeclared : ∀ member ∈ r.declaredMembers, member.2.Readable := by
    have htext : ∀ value : Option Wording, (wordingValue value).Readable := by
      rintro (_ | text)
      · exact .null
      · exact Json.readable_ofWording text
    have hflag : ∀ value : Option Bool, (flagValue value).Readable := by
      rintro (_ | b)
      · exact .null
      · exact .bool b
    simp [declaredMembers, htext, hflag, Json.readable_ofWording]
  rw [Json.readable_object_iff]
  refine ⟨hr.nodup.sublist (List.filter_sublist.map Prod.fst), ?_, ?_⟩
  · intro member hmember
    rcases List.mem_append.mp (List.mem_filter.mp hmember).1 with hmember | hmember
    · exact Json.isNamed_of_unnamed_eq (hdeclared member hmember).unnamed_eq _
    · exact hr.named member hmember
  · intro member hmember
    rcases List.mem_append.mp (List.mem_filter.mp hmember).1 with hmember | hmember
    · rw [(hdeclared member hmember).unnamed_eq]
      exact hdeclared member hmember
    · exact hr.values member hmember

/-- The text of a record reads as its document. -/
theorem ReadsBack.readObject?_document
    (hr : r.ReadsBack)
    {layout : Json.Layout}
    (hlayout : layout.IsPlain) :
    readObject? (Json.write layout (.object r.document)) = some r.document := by
  simp [readObject?, Json.read?_write hlayout hr.readable]

/-- Caches of both kinds read back the document of a record. -/
theorem ReadsBack.readObject?_cached
    (hr : r.ReadsBack) :
    readObject? (CacheFolder.documentText (.object r.document)) = some r.document ∧
      readObject? (Cache.remoteText (.object r.document)) = some r.document := by
  constructor
  · exact hr.readObject?_document Json.isPlain_indented
  · exact hr.readObject?_document Json.isPlain_spaced

/-- The further members of a record are members of the document that it is read from. -/
theorem extra_of_ofMembers
    {ms : Members Json}
    (h : ofMembers ms = .ok r) :
    r.extra = ms.filter fun member => !declared.contains member.1 := by
  obtain ⟨-, rfl⟩ := Checked.result_eq_ok_iff.mp h
  rfl

/-- A record that is read from a readable document is readable in turn. -/
theorem readsBack_of_ofMembers
    {ms : Members Json}
    (hms : Json.Readable (.object ms))
    (h : ofMembers ms = .ok r) :
    r.ReadsBack := by
  obtain ⟨hnames, hnamed, hvalues⟩ := Json.readable_object_iff.mp hms
  have hextra := extra_of_ofMembers h
  refine ⟨?_, ?_, ?_, ?_⟩
  · intro member hmember
    rw [hextra] at hmember
    simpa using (List.mem_filter.mp hmember).2
  · rw [hextra]
    exact hnames.sublist (List.filter_sublist.map Prod.fst)
  · intro member hmember
    rw [hextra] at hmember
    exact hnamed member (List.mem_filter.mp hmember).1
  · intro member hmember
    rw [hextra] at hmember
    exact hvalues member (List.mem_filter.mp hmember).1

theorem readsBack_fallback
    (address : String)
    (message : Option String) :
    (fallback address message).ReadsBack := by
  constructor <;> simp [fallback]

/-- A lookup gives the record of the document in a successful answer. -/
theorem record?_eq_some_iff
    {outcome : LookupOutcome} :
    outcome.record? = some r ↔
      ∃ body cs ms, outcome = .response 200 body ∧ Encoding.decode? body = some cs ∧
        Json.readChars cs = some (.object ms) ∧ ofMembers ms = .ok r ∧ r.isSuccess = true := by
  constructor
  · intro h
    cases outcome with
    | response status body =>
        rw [LookupOutcome.record?] at h
        split at h
        next hstatus =>
          split at h
          next ms hread =>
            split at h
            next record hrecord =>
              obtain ⟨cs, hdecoded, hread⟩ := Option.bind_eq_some_iff.mp hread
              obtain ⟨hsuccess, rfl⟩ : record.isSuccess = true ∧ record = r := by
                simpa using h
              exact ⟨body, cs, ms, by rw [hstatus], hdecoded, hread, hrecord, hsuccess⟩
            next =>
              cases h
          next =>
            cases h
        next =>
          cases h
    | failed =>
        cases h
    | refused =>
        cases h
  · rintro ⟨body, cs, ms, rfl, hdecoded, hread, hrecord, hsuccess⟩
    simp [LookupOutcome.record?, hdecoded, hread, hrecord, hsuccess]

/-- A lookup that is not refused gives its record or the fallback. -/
theorem looked?_eq_some_iff
    {address : String}
    {outcome : LookupOutcome} :
    Resolver.looked? address outcome = some r ↔
      outcome ≠ .refused ∧ r = outcome.record?.getD (Resolver.fallback address) := by
  cases outcome <;> simp [Resolver.looked?, eq_comm]

/-- What comes of a lookup can be written and read back. -/
theorem readsBack_of_looked?
    {address : String}
    {outcome : LookupOutcome}
    (h : Resolver.looked? address outcome = some r) :
    r.ReadsBack := by
  obtain ⟨-, hr⟩ := looked?_eq_some_iff.mp h
  cases hfound : outcome.record? with
  | none =>
      rw [hr, hfound]
      exact readsBack_fallback address _
  | some record =>
      obtain rfl : r = record := by simpa [hfound] using hr
      obtain ⟨body, cs, ms, -, -, hread, hrecord, -⟩ := record?_eq_some_iff.mp hfound
      exact readsBack_of_ofMembers (Json.readable_of_readChars hread) hrecord

end Record

section Writable

/-- A store takes the document of the record. -/
def Record.isWritable
    (r : Record) : Bool :=
  Json.isWritable (.object r.document)

/-- The bytes of the answer stand for no halves of surrogate pairs. -/
def LookupOutcome.isUnicode : LookupOutcome → Bool
  | .response _ body => Encoding.isUnicode body
  | _ => true

/--
A store takes the record that the lookup brings, if it brings one.  The bytes count as well,
since two halves next to each other in them are read as one character.
-/
def LookupOutcome.IsWritable
    (outcome : LookupOutcome) : Prop :=
  ∀ r, outcome.record? = some r → outcome.isUnicode = true ∧ r.isWritable = true

/-- What comes of such a lookup can be written. -/
theorem Record.isWritable_of_looked?
    {address : String}
    {outcome : LookupOutcome}
    (houtcome : outcome.IsWritable)
    {r : Record}
    (h : Resolver.looked? address outcome = some r) :
    r.isWritable = true := by
  obtain ⟨-, hr⟩ := looked?_eq_some_iff.mp h
  cases hfound : outcome.record? with
  | none =>
      rw [hr, hfound]
      rfl
  | some record =>
      obtain rfl : r = record := by simpa [hfound] using hr
      exact (houtcome r hfound).2

end Writable

end Turnstile
