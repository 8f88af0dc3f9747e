import Turnstile.Proofs.CacheEntries
import Turnstile.Proofs.RecordText

/-!
# Records kept for good

Whatever a cache holds of an address at first, the address is looked up at most once: a
valid record is never replaced, and otherwise the first resolution writes a record that
is valid from then on, be it the one that was looked up or the fallback.  For that the record
must be one that can be written, which every fallback is.

**Settled entries.**  An entry is *settled* when it can be read and written and holds a
valid record.  Resolving its address makes no call and writes nothing, and resolving an
address with another entry leaves it alone, so it stays settled with one document.

**Results.**
* `record?_of_fails`: each of the six ways in which a lookup fails leads to the fallback.
* `Settled.resolve_self`, `Settled.resolve_other`: a settled entry stays as it is.
* `settled_resolve`: the first resolution settles the entry.
* `address_kept_for_good`: what this means for a run of resolutions.
-/

namespace Turnstile

section Failures

/-- A lookup that does not bring a record. -/
inductive LookupOutcome.Fails : LookupOutcome → Prop where
  | transport : Fails .failed
  | status {status : Int} {body : List Nat} (hstatus : status ≠ 200) :
      Fails (.response status body)
  | malformed {body : List Nat} (hbody : (Encoding.decode? body).bind Json.readChars = none) :
      Fails (.response 200 body)
  | noObject {body : List Nat} {v : Json}
      (hbody : (Encoding.decode? body).bind Json.readChars = some v) (hv : ∀ ms, v ≠ .object ms) :
      Fails (.response 200 body)
  | unsuccessful {body : List Nat} {ms : Members Json}
      (hbody : (Encoding.decode? body).bind Json.readChars = some (.object ms))
      (hstatus : ms.get? "status" ≠ some (.string Record.success)) :
      Fails (.response 200 body)
  | invalid {body : List Nat} {ms : Members Json} {flaws : List Flaw}
      (hbody : (Encoding.decode? body).bind Json.readChars = some (.object ms))
      (hflaws : Record.ofMembers ms = .error flaws) :
      Fails (.response 200 body)

/-- A record that says of success is read from a document that says so. -/
theorem Record.get?_status_of_isSuccess
    {ms : Members Json}
    {r : Record}
    (h : ofMembers ms = .ok r)
    (hsuccess : r.isSuccess = true) :
    ms.get? "status" = some (.string success) := by
  obtain ⟨hflaws, rfl⟩ := Checked.result_eq_ok_iff.mp h
  have hclean : (Checked.field ms ["status"] (.whole failure) Checked.wording).flaws = [] :=
    (List.append_eq_nil_iff.mp (List.append_eq_nil_iff.mp hflaws).2).1
  have hvalue : (Checked.field ms ["status"] (.whole failure) Checked.wording).value =
      .whole success :=
    beq_iff_eq.mp hsuccess
  cases hget : ms.get? "status" with
  | none =>
      rw [Checked.field_of_get?_none hget] at hvalue
      exact absurd hvalue (by decide)
  | some v =>
      rw [Checked.field_of_get? hget] at hclean hvalue
      cases v with
      | string s => rw [Wording.whole.inj hvalue]
      | halved t => cases hvalue
      | _ => cases hclean

theorem LookupOutcome.record?_of_fails
    {outcome : LookupOutcome}
    (h : outcome.Fails) :
    outcome.record? = none := by
  cases hrecord : outcome.record? with
  | none =>
      rfl
  | some r =>
      obtain ⟨body, cs, ms, rfl, hdecoded, hread, hrecord, hsuccess⟩ :=
        Record.record?_eq_some_iff.mp hrecord
      have hbody : (Encoding.decode? body).bind Json.readChars = some (.object ms) := by
        rw [hdecoded, Option.bind_some, hread]
      have hstatus := Record.get?_status_of_isSuccess hrecord hsuccess
      cases h with
      | status hne => exact absurd rfl hne
      | malformed hnone => simp [hbody] at hnone
      | noObject hsome hv =>
          rw [hbody] at hsome
          exact absurd (Option.some.inj hsome).symm (hv ms)
      | unsuccessful hsome hne =>
          rw [hbody] at hsome
          obtain rfl := Json.object.inj (Option.some.inj hsome)
          exact absurd hstatus hne
      | invalid hsome hflaws =>
          rw [hbody] at hsome
          obtain rfl := Json.object.inj (Option.some.inj hsome)
          rw [hrecord] at hflaws
          cases hflaws

end Failures

section Records

/-- A failed lookup leaves nothing to be written but the fallback. -/
theorem LookupOutcome.isWritable_of_fails
    {outcome : LookupOutcome}
    (h : outcome.Fails) :
    outcome.IsWritable := by
  intro r hr
  rw [record?_of_fails h] at hr
  cases hr

/-- The nulls that a record loses when it is read back are not in its document. -/
theorem Record.document_withoutNulls
    (r : Record) :
    r.withoutNulls.document = r.document := by
  have hdeclared : r.withoutNulls.declaredMembers = r.declaredMembers := rfl
  have hextra : r.withoutNulls.extra = r.extra.filter fun member => isWritten member.2 := rfl
  have hkept : ∀ members : Members Json,
      (members.filter fun member => !member.2.unnamed.isNull) =
        members.filter fun member => isWritten member.2 := fun _ => rfl
  rw [document, document, hdeclared, hextra, hkept, hkept, List.filter_append, List.filter_append,
    List.filter_filter]
  simp only [Bool.and_self]

/-- The record that is cached for an address depends on its entry only. -/
theorem Resolver.cached?_of_keeps
    {c : Cache}
    {address : String}
    (h : c.Keeps address) :
    cached? c address =
      (Entry.document? (c.stored? address)).bind fun document =>
        (Record.ofMembers document).toOption := by
  rw [cached?, h.get_eq]
  cases Entry.document? (c.stored? address) <;> rfl

/-- A record that was written is cached, but for its nulls. -/
theorem Resolver.cached?_written
    {c : Cache}
    {address : String}
    (h : c.Keeps address)
    {r : Record}
    (hr : r.ReadsBack)
    (hwritable : r.isWritable = true) :
    Entry.document? ((written c address r).stored? address) = some r.document ∧
      cached? (written c address r) address = some r.withoutNulls := by
  have hdocument : Entry.document? ((written c address r).stored? address) = some r.document := by
    rw [written, h.stored?_set_self hwritable]
    exact Cache.readObject?_textOf c hr.readable
  have hkeeps : (written c address r).Keeps address := h.set address _
  refine ⟨hdocument, ?_⟩
  rw [cached?_of_keeps hkeeps, hdocument, Option.bind_some, hr.ofMembers_document]
  rfl

end Records

section Inquiries

/-- A request to resolve an address, with what a lookup of it would bring at that time. -/
structure Inquiry where
  address : String
  outcome : LookupOutcome

def Inquiry.resolve
    (api : LookupApi)
    (c : Cache)
    (q : Inquiry) : Resolution :=
  Resolver.resolve api (fun _ => q.outcome) c q.address

def Cache.after
    (api : LookupApi)
    (c : Cache)
    (qs : List Inquiry) : Cache :=
  qs.foldl (fun c q => (q.resolve api c).cache) c

/-- The calls that some inquiries make for an address. -/
def callsFor
    (api : LookupApi)
    (address : String)
    (c : Cache) : List Inquiry → List LookupCall
  | [] => []
  | q :: rest =>
      (if q.address = address then (q.resolve api c).calls else []) ++
        callsFor api address (q.resolve api c).cache rest

variable {api : LookupApi} {c : Cache} {q : Inquiry}

theorem Inquiry.resolve_of_cached?
    (haddress : q.address ≠ "")
    {r : Record}
    (hcached : Resolver.cached? c q.address = some r) :
    q.resolve api c = ⟨some r, c, [], [.cacheHit]⟩ := by
  simp [resolve, Resolver.resolve, haddress, hcached]

theorem Inquiry.resolve_of_not_cached?
    (haddress : q.address ≠ "")
    (hcached : Resolver.cached? c q.address = none)
    (hanswered : q.outcome ≠ .refused)
    (api : LookupApi) :
    ∃ r, Resolver.looked? q.address q.outcome = some r ∧
      (q.resolve api c).record = some r ∧
      (q.resolve api c).cache = Resolver.written c q.address r ∧
      (q.resolve api c).calls = [api.call q.address] := by
  obtain ⟨r, hr⟩ : ∃ r, Resolver.looked? q.address q.outcome = some r :=
    ⟨_, Record.looked?_eq_some_iff.mpr ⟨hanswered, rfl⟩⟩
  refine ⟨r, hr, ?_⟩
  simp [resolve, Resolver.resolve, Resolver.lookUp, haddress, hcached, hr]

/-- Resolving an address writes at most the entry of that address. -/
theorem Inquiry.cache_resolve
    (api : LookupApi)
    (c : Cache)
    (q : Inquiry) :
    (q.resolve api c).cache = c ∨
      ∃ document, (q.resolve api c).cache = (c.set q.address document).1 := by
  unfold resolve Resolver.resolve
  by_cases haddress : q.address = ""
  · rw [if_pos haddress]
    exact .inl rfl
  rw [if_neg haddress]
  cases Resolver.cached? c q.address with
  | some r =>
      exact .inl rfl
  | none =>
      simp only [Resolver.lookUp]
      cases Resolver.looked? q.address q.outcome with
      | none => exact .inl rfl
      | some r => exact .inr ⟨_, rfl⟩

theorem Inquiry.stored?_resolve
    {address : String}
    (hother : c.shares q.address address = false)
    (api : LookupApi) :
    (q.resolve api c).cache.stored? address = c.stored? address := by
  rcases cache_resolve api c q with hcache | ⟨document, hcache⟩
  · rw [hcache]
  · rw [hcache, Cache.stored?_set]
    simp [hother]

theorem Inquiry.shares_resolve
    (api : LookupApi)
    (c : Cache)
    (q : Inquiry) :
    (q.resolve api c).cache.shares = c.shares := by
  rcases cache_resolve api c q with hcache | ⟨document, hcache⟩
  · rw [hcache]
  · rw [hcache, Cache.shares_set]

theorem Inquiry.keeps_resolve
    {address : String}
    (h : c.Keeps address)
    (api : LookupApi)
    (q : Inquiry) :
    (q.resolve api c).cache.Keeps address := by
  rcases cache_resolve api c q with hcache | ⟨document, hcache⟩
  · rw [hcache]
    exact h
  · rw [hcache]
    exact h.set q.address document

end Inquiries

section Settling

variable {api : LookupApi} {c : Cache} {q : Inquiry} {address : String}
  {entry : Option Entry} {document : Members Json}

/-- The entry of an address works, and holds a valid record with a document. -/
structure Settled
    (c : Cache)
    (address : String)
    (entry : Option Entry)
    (document : Members Json) : Prop where
  keeps : c.Keeps address
  entry_eq : c.stored? address = entry
  cached : ∃ r, Resolver.cached? c address = some r ∧ r.document = document

/-- Resolving an address with a settled entry gives its record and does nothing. -/
theorem Settled.resolve_self
    (h : Settled c q.address entry document)
    (haddress : q.address ≠ "")
    (api : LookupApi) :
    (q.resolve api c).cache = c ∧
      (q.resolve api c).calls = [] ∧
      ∃ r, (q.resolve api c).record = some r ∧ r.document = document := by
  obtain ⟨r, hr, hdocument⟩ := h.cached
  rw [Inquiry.resolve_of_cached? haddress hr]
  exact ⟨rfl, rfl, r, rfl, hdocument⟩

/-- A settled entry stays so when an address with another entry is resolved. -/
theorem Settled.resolve_other
    (h : Settled c address entry document)
    (hother : c.shares q.address address = false)
    (api : LookupApi) :
    Settled (q.resolve api c).cache address entry document := by
  have hkeeps := Inquiry.keeps_resolve h.keeps api q
  have hentry := Inquiry.stored?_resolve hother api
  refine ⟨hkeeps, hentry.trans h.entry_eq, ?_⟩
  rw [Resolver.cached?_of_keeps hkeeps, hentry, ← Resolver.cached?_of_keeps h.keeps]
  exact h.cached

/-- The first resolution of an address settles its entry. -/
theorem settled_resolve
    (hkeeps : c.Keeps q.address)
    (haddress : q.address ≠ "")
    (hanswered : q.outcome ≠ .refused)
    (hwritable : Resolver.cached? c q.address = none → q.outcome.IsWritable)
    (api : LookupApi) :
    ∃ document,
      Settled (q.resolve api c).cache q.address ((q.resolve api c).cache.stored? q.address)
        document ∧
      (q.resolve api c).calls =
        (if (Resolver.cached? c q.address).isSome then [] else [api.call q.address]) ∧
      (∃ r, (q.resolve api c).record = some r ∧ r.document = document) ∧
      (Resolver.cached? c q.address = none → q.outcome.Fails →
        document = (Resolver.fallback q.address).document ∧
        Entry.document? ((q.resolve api c).cache.stored? q.address) = some document) := by
  cases hcached : Resolver.cached? c q.address with
  | some r =>
      rw [Inquiry.resolve_of_cached? haddress hcached]
      exact ⟨r.document, ⟨hkeeps, rfl, r, hcached, rfl⟩, rfl, ⟨r, rfl, rfl⟩, nofun⟩
  | none =>
      obtain ⟨r, hr, hrecord, hcache, hcalls⟩ :=
        Inquiry.resolve_of_not_cached? haddress hcached hanswered api
      obtain ⟨hdocument, hwritten⟩ :=
        Resolver.cached?_written hkeeps (Record.readsBack_of_looked? hr)
          (Record.isWritable_of_looked? (hwritable hcached) hr)
      rw [hrecord, hcache, hcalls]
      refine ⟨r.document, ⟨hkeeps.set q.address _, rfl, r.withoutNulls, hwritten,
        r.document_withoutNulls⟩, rfl, ⟨r, rfl, rfl⟩, ?_⟩
      intro _ hfails
      obtain ⟨-, rfl⟩ := Record.looked?_eq_some_iff.mp hr
      rw [LookupOutcome.record?_of_fails hfails] at hdocument ⊢
      exact ⟨rfl, hdocument⟩

end Settling

section Runs

variable {api : LookupApi} {c : Cache} {address : String} {entry : Option Entry}
  {document : Members Json} {q : Inquiry} {qs : List Inquiry}

/-- Inquiries about other addresses are about addresses with other entries. -/
def KeptApart
    (c : Cache)
    (address : String)
    (qs : List Inquiry) : Prop :=
  ∀ q ∈ qs, q.address ≠ address → c.shares q.address address = false

theorem KeptApart.resolve
    (h : KeptApart c address (q :: qs))
    (api : LookupApi) :
    KeptApart (q.resolve api c).cache address qs := by
  intro o ho
  rw [Inquiry.shares_resolve]
  exact h o (List.mem_cons_of_mem q ho)

/-- What becomes of an address in a run of inquiries. -/
structure KeptForGood
    (api : LookupApi)
    (c : Cache)
    (address : String)
    (document : Members Json)
    (entry : Option Entry)
    (qs : List Inquiry) : Prop where
  /-- One call is made in all, and none if the cache held a valid record at first. -/
  total : callsFor api address c qs =
    if (Resolver.cached? c address).isSome ∨ ¬ ∃ o ∈ qs, o.address = address then []
    else [api.call address]
  /-- Only the first resolution makes it. -/
  calls : ∀ before q after, qs = before ++ q :: after → q.address = address →
    (q.resolve api (c.after api before)).calls =
      if (Resolver.cached? c address).isSome ∨ ∃ o ∈ before, o.address = address then []
      else [api.call address]
  /-- Each resolution gives a record with the document. -/
  records : ∀ before q after, qs = before ++ q :: after → q.address = address →
    ∃ r, (q.resolve api (c.after api before)).record = some r ∧ r.document = document
  /-- From the first resolution on the entry stays the same. -/
  entries : ∀ before after, qs = before ++ after → (∃ o ∈ before, o.address = address) →
    (c.after api before).stored? address = entry
  /-- If the one lookup fails, the fallback is what is given and kept. -/
  fallback : Resolver.cached? c address = none →
    ∀ before q after, qs = before ++ q :: after → q.address = address →
      (∀ o ∈ before, o.address ≠ address) → q.outcome.Fails →
        document = (Resolver.fallback address).document ∧
          Entry.document? entry = some document

theorem Settled.resolve
    (h : Settled c address entry document)
    (haddress : address ≠ "")
    (hother : q.address ≠ address → c.shares q.address address = false)
    (api : LookupApi) :
    Settled (q.resolve api c).cache address entry document := by
  by_cases hself : q.address = address
  · subst hself
    rw [(h.resolve_self haddress api).1]
    exact h
  · exact h.resolve_other (hother hself) api

/-- A settled entry stays so in a run, and its address is not looked up. -/
theorem Settled.after
    (h : Settled c address entry document)
    (haddress : address ≠ "")
    (hapart : KeptApart c address qs)
    (api : LookupApi) :
    Settled (c.after api qs) address entry document ∧ callsFor api address c qs = [] := by
  induction qs generalizing c with
  | nil =>
      exact ⟨h, rfl⟩
  | cons q rest ih =>
      have hnext := h.resolve haddress (hapart q List.mem_cons_self) api
      obtain ⟨hafter, hcalls⟩ := ih hnext (hapart.resolve api)
      refine ⟨hafter, ?_⟩
      rw [callsFor, hcalls, List.append_nil]
      by_cases hself : q.address = address
      · subst hself
        rw [if_pos rfl, (h.resolve_self haddress api).2.1]
      · rw [if_neg hself]

/-- A run that begins with a resolution of the address. -/
theorem keptForGood_cons_self
    (hkeeps : c.Keeps q.address)
    (haddress : q.address ≠ "")
    (hanswered : q.outcome ≠ .refused)
    (hwritable : Resolver.cached? c q.address = none → q.outcome.IsWritable)
    (hapart : KeptApart c q.address (q :: qs))
    (api : LookupApi) :
    ∃ document entry, KeptForGood api c q.address document entry (q :: qs) := by
  obtain ⟨document, hsettled, hcalls, hrecord, hfallback⟩ :=
    settled_resolve hkeeps haddress hanswered hwritable api
  have hapart' := hapart.resolve api
  -- Each later cache is one in which the entry that `q` left is settled.
  have hlater : ∀ before after, qs = before ++ after →
      Settled ((q.resolve api c).cache.after api before) q.address
        ((q.resolve api c).cache.stored? q.address) document := by
    rintro before after rfl
    exact (hsettled.after haddress (fun o ho => hapart' o (List.mem_append_left _ ho)) api).1
  refine ⟨document, (q.resolve api c).cache.stored? q.address, ?_, ?_, ?_, ?_, ?_⟩
  · rw [callsFor, (hsettled.after haddress hapart' api).2, if_pos rfl, hcalls]
    simp
  · rintro (_ | ⟨o, before⟩) q' after hqs hself
    · obtain ⟨rfl, rfl⟩ := List.cons.inj hqs
      simpa [Cache.after] using hcalls
    · obtain ⟨rfl, hrest⟩ := List.cons.inj hqs
      have hsettled' := hlater before _ hrest
      rw [← hself] at hsettled' haddress
      rw [if_pos (.inr ⟨q, List.mem_cons_self, rfl⟩)]
      exact (hsettled'.resolve_self haddress api).2.1
  · rintro (_ | ⟨o, before⟩) q' after hqs hself
    · obtain ⟨rfl, rfl⟩ := List.cons.inj hqs
      exact hrecord
    · obtain ⟨rfl, hrest⟩ := List.cons.inj hqs
      have hsettled' := hlater before _ hrest
      rw [← hself] at hsettled' haddress
      exact (hsettled'.resolve_self haddress api).2.2
  · rintro (_ | ⟨o, before⟩) after hqs hmem
    · simp at hmem
    · obtain ⟨rfl, hrest⟩ := List.cons.inj hqs
      exact (hlater before _ hrest).entry_eq
  · rintro hnone (_ | ⟨o, before⟩) q' after hqs hself hbefore hfails
    · obtain ⟨rfl, rfl⟩ := List.cons.inj hqs
      exact hfallback hnone hfails
    · obtain ⟨rfl, hrest⟩ := List.cons.inj hqs
      exact absurd rfl (hbefore q List.mem_cons_self)

/-- Resolving an address does not change what is cached for an address with another entry. -/
theorem Inquiry.cached?_resolve
    (hkeeps : c.Keeps address)
    (hother : c.shares q.address address = false)
    (api : LookupApi) :
    Resolver.cached? (q.resolve api c).cache address = Resolver.cached? c address := by
  rw [Resolver.cached?_of_keeps (keeps_resolve hkeeps api q), Resolver.cached?_of_keeps hkeeps,
    stored?_resolve hother api]

/-- A run that begins with a resolution of another address. -/
theorem KeptForGood.cons_other
    (h : KeptForGood api (q.resolve api c).cache address document entry qs)
    (hkeeps : c.Keeps address)
    (hself : q.address ≠ address)
    (hother : c.shares q.address address = false) :
    KeptForGood api c address document entry (q :: qs) := by
  have hcached := Inquiry.cached?_resolve hkeeps hother api
  -- So every split of the run at an inquiry about the address is one of the rest.
  obtain ⟨htotal, hcalls, hrecords, hentries, hfallback⟩ := h
  rw [hcached] at htotal hcalls hfallback
  refine ⟨?_, ?_, ?_, ?_, ?_⟩
  · rw [callsFor, if_neg hself, List.nil_append, htotal]
    simp [hself]
  · rintro (_ | ⟨o, before⟩) q' after hqs hq'
    · obtain ⟨rfl, rfl⟩ := List.cons.inj hqs
      exact absurd hq' hself
    · obtain ⟨rfl, hrest⟩ := List.cons.inj hqs
      have hcalls' := hcalls before q' after hrest hq'
      simpa [hself, Cache.after] using hcalls'
  · rintro (_ | ⟨o, before⟩) q' after hqs hq'
    · obtain ⟨rfl, rfl⟩ := List.cons.inj hqs
      exact absurd hq' hself
    · obtain ⟨rfl, hrest⟩ := List.cons.inj hqs
      exact hrecords before q' after hrest hq'
  · rintro (_ | ⟨o, before⟩) after hqs hmem
    · simp at hmem
    · obtain ⟨rfl, hrest⟩ := List.cons.inj hqs
      have hmem' : ∃ o ∈ before, o.address = address := by
        simpa [hself] using hmem
      exact hentries before after hrest hmem'
  · rintro hnone (_ | ⟨o, before⟩) q' after hqs hq' hbefore hfails
    · obtain ⟨rfl, rfl⟩ := List.cons.inj hqs
      exact absurd hq' hself
    · obtain ⟨rfl, hrest⟩ := List.cons.inj hqs
      exact hfallback hnone before q' after hrest hq'
        (fun o ho => hbefore o (List.mem_cons_of_mem q ho)) hfails

/--
**Records are kept for good.**  Whatever the cache holds of an address at first, as long
as its entry can be read and written, a run of resolutions makes at most one call for the
address, whatever lookups would bring at later times.  All resolutions of the address give
one document, and after the first of them the entry stays as it is.

Writing the entry works for whatever can be written at all.  So if no valid record is there,
the first lookup of the address must not bring half of a surrogate pair; a lookup that fails
never does.
-/
theorem address_kept_for_good
    (api : LookupApi)
    (haddress : address ≠ "")
    (hkeeps : c.Keeps address)
    (hapart : KeptApart c address qs)
    (hanswered : ∀ q ∈ qs, q.address = address → q.outcome ≠ .refused)
    (hwritable : Resolver.cached? c address = none →
      ∀ q, qs.find? (·.address == address) = some q → q.outcome.IsWritable) :
    (callsFor api address c qs).length ≤ 1 ∧
      ∃ document entry, KeptForGood api c address document entry qs := by
  have hkept : ∃ document entry, KeptForGood api c address document entry qs := by
    -- Nothing changes for the address until the first inquiry about it.
    induction qs generalizing c with
    | nil =>
        exact ⟨[], none, by simp [callsFor], by simp, by simp, by simp, by simp⟩
    | cons q rest ih =>
        by_cases hself : q.address = address
        · subst hself
          exact keptForGood_cons_self hkeeps haddress (hanswered q List.mem_cons_self rfl)
            (fun hnone => hwritable hnone q (by simp)) hapart api
        · have hother := hapart q List.mem_cons_self hself
          have hfirst : Resolver.cached? (q.resolve api c).cache address = none →
              ∀ o, rest.find? (·.address == address) = some o → o.outcome.IsWritable := by
            intro hnone o ho
            rw [Inquiry.cached?_resolve hkeeps hother api] at hnone
            exact hwritable hnone o (by simpa [hself] using ho)
          obtain ⟨document, entry, hrest⟩ := ih (Inquiry.keeps_resolve hkeeps api q)
            (hapart.resolve api) (fun o ho => hanswered o (List.mem_cons_of_mem q ho)) hfirst
          exact ⟨document, entry, hrest.cons_other hkeeps hself hother⟩
  refine ⟨?_, hkept⟩
  obtain ⟨document, entry, hkept⟩ := hkept
  rw [hkept.total]
  split
  · exact Nat.zero_le 1
  · exact le_refl 1

/-- A service that is asked for no fields in particular. -/
def plainApi : LookupApi :=
  ⟨"http://ip-api.com/json", none, .int 3⟩

/-- A folder in which the text under an address is no document. -/
def spoiledFolder : Cache :=
  .folder ⟨true, true, [("198.51.100.7.json", .file "\x7b")]⟩

/-- A failed lookup, one of another address, and a lookup that would be answered. -/
def threeInquiries : List Inquiry :=
  let answer := "\x7b\"status\": \"success\"\x7d"
  [⟨"198.51.100.7", .failed⟩, ⟨"2001:db8::1", .refused⟩,
    ⟨"198.51.100.7", .response 200 (answer.toUTF8.toList.map UInt8.toNat)⟩]

/-- A spoiled entry is replaced by the fallback once, for good. -/
theorem spoiled_entry_replaced_once :
    spoiledFolder.Keeps "198.51.100.7" ∧
      callsFor plainApi "198.51.100.7" spoiledFolder threeInquiries =
        [plainApi.call "198.51.100.7"] ∧
      ∃ entry, KeptForGood plainApi spoiledFolder "198.51.100.7"
        (Resolver.fallback "198.51.100.7").document entry threeInquiries := by
  have hkeeps : spoiledFolder.Keeps "198.51.100.7" := by
    rw [Cache.keeps_iff]
    decide
  have hapart : KeptApart spoiledFolder "198.51.100.7" threeInquiries := by
    simp only [KeptApart, threeInquiries, List.forall_mem_cons]
    decide
  have hanswered : ∀ q ∈ threeInquiries, q.address = "198.51.100.7" → q.outcome ≠ .refused := by
    simp [threeInquiries]
  have hcached : Resolver.cached? spoiledFolder "198.51.100.7" = none := by
    rw [Resolver.cached?_of_keeps hkeeps]
    decide
  have hwritable : Resolver.cached? spoiledFolder "198.51.100.7" = none →
      ∀ q, threeInquiries.find? (·.address == "198.51.100.7") = some q →
        q.outcome.IsWritable := by
    intro _ q hq
    obtain rfl := Option.some.inj hq
    exact LookupOutcome.isWritable_of_fails .transport
  obtain ⟨-, document, entry, hkept⟩ :=
    address_kept_for_good plainApi (by decide) hkeeps hapart hanswered hwritable
  have hfallback := hkept.fallback hcached [] _ _ rfl rfl nofun .transport
  obtain rfl := hfallback.1
  refine ⟨hkeeps, ?_, entry, hkept⟩
  rw [hkept.total, hcached]
  simp [threeInquiries]

end Runs

end Turnstile
