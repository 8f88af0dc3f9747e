import Turnstile.Proofs.History
import Turnstile.Proofs.Permanence

/-!
# Caches are interchangeable

A folder and a remote store name their entries and lay out their texts differently.  To a
resolver they are the same: both remember of each address the first record that came of a
lookup of it and could be written, and nothing else.

**Remembering.**  A cache *remembers* some inquiries if each entry can be read and written
and holds the text of what was learned of its address.  What resolving an address tells is
determined by what was learned before, and the cache then remembers one inquiry more.  So
any two caches that remember the same inquiries tell the same from then on.

**Results.**
* `Cache.Remembers.resolve`: one step, told by what was learned before.
* `Cache.Remembers.after`: a run of inquiries.
* `caches_are_interchangeable`: a folder and a remote store that start empty.
-/

namespace Turnstile

section Learning

/-- What resolving an address tells, apart from what is kept. -/
structure Told where
  record : Option Record
  calls : List LookupCall
  events : List ResolutionEvent

def Resolution.told
    (x : Resolution) : Told :=
  ⟨x.record, x.calls, x.events⟩

/-- The record that is learned of an address from an inquiry about it, if it can be written. -/
def Inquiry.learned?
    (address : String)
    (q : Inquiry) : Option Record :=
  if q.address = address then (Resolver.looked? address q.outcome).filter Record.isWritable
  else none

/-- The record that is learned of an address from some inquiries: the first that comes. -/
def learned?
    (address : String)
    (qs : List Inquiry) : Option Record :=
  if address = "" then none else qs.findSome? (Inquiry.learned? address)

/-- What an inquiry is told if a record of its address was learned before, or none was. -/
def Inquiry.told
    (api : LookupApi)
    (q : Inquiry) : Option Record → Told
  | some r => ⟨some r.withoutNulls, [], [.cacheHit]⟩
  | none =>
      if q.address = "" then ⟨some (Record.fallback "" none), [], []⟩
      else
        match Resolver.looked? q.address q.outcome with
        | none => ⟨none, [api.call q.address], [.cacheMiss]⟩
        | some r => ⟨some r, [api.call q.address], [.cacheMiss, Resolver.eventOf q.outcome]⟩

/-- What inquiries are told, each by what was learned before. -/
def toldAfter
    (api : LookupApi)
    (before : List Inquiry) : List Inquiry → List Told
  | [] => []
  | q :: rest => q.told api (learned? q.address before) :: toldAfter api (before ++ [q]) rest

theorem learned?_append_singleton
    (address : String)
    (before : List Inquiry)
    (q : Inquiry) :
    learned? address (before ++ [q]) =
      (learned? address before).or (if address = "" then none else q.learned? address) := by
  unfold learned?
  by_cases haddress : address = ""
  · simp [haddress]
  · simp [haddress, List.findSome?_append]

/-- Nothing is learned without an address, or twice, or from a lookup that was refused. -/
theorem learned?_append_of_nothing_new
    {before : List Inquiry}
    {q : Inquiry}
    (h : q.address = "" ∨ (learned? q.address before).isSome = true ∨
      Resolver.looked? q.address q.outcome = none)
    (address : String) :
    learned? address (before ++ [q]) = learned? address before := by
  rw [learned?_append_singleton]
  by_cases hself : q.address = address
  · subst hself
    rcases h with hempty | hknown | hrefused
    · simp [hempty]
    · obtain ⟨r, hr⟩ := Option.isSome_iff_exists.mp hknown
      rw [hr, Option.some_or]
    · simp [Inquiry.learned?, hrefused]
  · simp [Inquiry.learned?, hself]

/-- What is learned can be written and read back. -/
theorem readsBack_of_learned?
    {address : String}
    {qs : List Inquiry}
    {r : Record}
    (h : learned? address qs = some r) :
    r.ReadsBack := by
  unfold learned? at h
  split at h
  · cases h
  · obtain ⟨q, -, hq⟩ := List.exists_of_findSome?_eq_some h
    unfold Inquiry.learned? at hq
    split at hq
    · exact Record.readsBack_of_looked? (Option.filter_eq_some_iff.mp hq).1
    · cases hq

end Learning

section Remembering

/-- No two of these addresses share an entry. -/
def Cache.Separates
    (c : Cache)
    (addresses : List String) : Prop :=
  ∀ address ∈ addresses, ∀ address' ∈ addresses,
    c.shares address address' = true → address = address'

/-- The entry of each of these addresses is the text of what was learned of it. -/
structure Cache.Remembers
    (c : Cache)
    (addresses : List String)
    (before : List Inquiry) : Prop where
  separates : c.Separates addresses
  keeps : ∀ address ∈ addresses, c.Keeps address
  entries : ∀ address ∈ addresses, c.stored? address =
    (learned? address before).map fun r => .file (c.textOf (.object r.document))

namespace Cache.Remembers

variable {c : Cache} {addresses : List String} {before qs : List Inquiry} {q : Inquiry}

/-- What is cached is what was learned, but for nulls. -/
theorem cached?_eq
    (h : c.Remembers addresses before)
    {address : String}
    (hmem : address ∈ addresses) :
    Resolver.cached? c address = (learned? address before).map Record.withoutNulls := by
  rw [Resolver.cached?_of_keeps (h.keeps address hmem), h.entries address hmem]
  cases hlearned : learned? address before with
  | none =>
      rfl
  | some r =>
      have hr := readsBack_of_learned? hlearned
      rw [Option.map_some, Entry.document?, Cache.readObject?_textOf c hr.readable,
        Option.bind_some, hr.ofMembers_document]
      rfl

/-- An inquiry from which nothing is learned changes nothing. -/
theorem skip
    (h : c.Remembers addresses before)
    (hskip : q.address = "" ∨ (learned? q.address before).isSome = true ∨
      Resolver.looked? q.address q.outcome = none) :
    c.Remembers addresses (before ++ [q]) := by
  refine ⟨h.separates, h.keeps, ?_⟩
  intro address hmem
  rw [h.entries address hmem, learned?_append_of_nothing_new hskip]

/-- The record that is learned from an inquiry is remembered once it is written, if it can be. -/
theorem write
    (h : c.Remembers addresses before)
    (hmem : q.address ∈ addresses)
    (haddress : q.address ≠ "")
    (hnew : learned? q.address before = none)
    {r : Record}
    (hr : Resolver.looked? q.address q.outcome = some r) :
    (Resolver.written c q.address r).Remembers addresses (before ++ [q]) := by
  unfold Resolver.written
  refine ⟨?_, fun address hother => (h.keeps address hother).set q.address _, ?_⟩
  · intro address hother address' hother' hshares
    rw [Cache.shares_set] at hshares
    exact h.separates address hother address' hother' hshares
  · intro address hother
    rw [Cache.textOf_set]
    by_cases hsame : q.address = address
    · subst hsame
      rw [Cache.stored?_set, learned?_append_singleton, hnew, h.entries q.address hmem, hnew]
      have hwritten : (c.set q.address (.object r.document)).2 = none ↔ r.isWritable = true := by
        rw [Cache.snd_set_eq_none_iff, Cache.keeps_iff.mp (h.keeps q.address hmem)]
        exact and_iff_left rfl
      cases hwritable : r.isWritable <;>
        simp [hwritten, hwritable, haddress, Inquiry.learned?, hr]
    · have hapart : c.shares q.address address ≠ true :=
        fun hshares => hsame (h.separates q.address hmem address hother hshares)
      rw [Cache.stored?_set, if_neg (fun hboth => hapart hboth.2), h.entries address hother,
        learned?_append_singleton]
      simp [Inquiry.learned?, hsame]

/-- Resolving tells what was learned before, and is remembered. -/
theorem resolve
    (h : c.Remembers addresses before)
    (hmem : q.address ∈ addresses)
    (api : LookupApi) :
    (q.resolve api c).told = q.told api (learned? q.address before) ∧
      (q.resolve api c).cache.Remembers addresses (before ++ [q]) := by
  unfold Inquiry.resolve Resolver.resolve
  by_cases haddress : q.address = ""
  · rw [if_pos haddress, learned?, if_pos haddress, Inquiry.told, if_pos haddress]
    exact ⟨rfl, h.skip (.inl haddress)⟩
  rw [if_neg haddress, h.cached?_eq hmem]
  cases hlearned : learned? q.address before with
  | some r =>
      exact ⟨rfl, h.skip (.inr (.inl (Option.isSome_of_eq_some hlearned)))⟩
  | none =>
      simp only [Option.map_none, Resolver.lookUp, Inquiry.told, if_neg haddress]
      cases hlooked : Resolver.looked? q.address q.outcome with
      | none => exact ⟨rfl, h.skip (.inr (.inr hlooked))⟩
      | some r => exact ⟨rfl, h.write hmem haddress hlearned hlooked⟩

end Cache.Remembers

/-- What resolving some addresses one after the other brings. -/
def Cache.resolutions
    (api : LookupApi)
    (c : Cache) : List Inquiry → List Resolution
  | [] => []
  | q :: rest => q.resolve api c :: (q.resolve api c).cache.resolutions api rest

/-- A run of inquiries is told by what was learned before each, and is remembered. -/
theorem Cache.Remembers.after
    {c : Cache}
    {addresses : List String}
    {before qs : List Inquiry}
    (h : c.Remembers addresses before)
    (hmem : ∀ q ∈ qs, q.address ∈ addresses)
    (api : LookupApi) :
    (c.resolutions api qs).map Resolution.told = toldAfter api before qs ∧
      (c.after api qs).Remembers addresses (before ++ qs) := by
  -- The cache and what it remembers change from inquiry to inquiry.
  induction qs generalizing c before with
  | nil =>
      rw [List.append_nil]
      exact ⟨rfl, h⟩
  | cons q rest ih =>
      obtain ⟨htold, hnext⟩ := h.resolve (hmem q List.mem_cons_self) api
      obtain ⟨hrest, hafter⟩ := ih hnext fun o ho => hmem o (List.mem_cons_of_mem q ho)
      rw [List.append_assoc] at hafter
      refine ⟨?_, hafter⟩
      rw [Cache.resolutions, List.map_cons, htold, hrest, toldAfter]

end Remembering

section Kinds

variable {addresses : List String}

/-- An empty folder remembers nothing yet, of addresses with short safe forms of their own. -/
theorem CacheFolder.remembers_of_empty
    {f : CacheFolder}
    (hempty : f.entries = [])
    (hnames : SafelyNamed addresses)
    (hshort : ∀ address ∈ addresses, Entry.isTooLong (fileName address) = false) :
    (Cache.folder f).Remembers addresses [] := by
  refine ⟨?_, ?_, ?_⟩
  · intro address hmem address' hmem' hshares
    exact hnames address hmem address' hmem' (beq_iff_eq.mp hshares)
  · intro address hmem
    rw [Cache.keeps_iff, Cache.writeFault?, Option.map_eq_none_iff, writeFault?_eq_none_iff, hempty]
    exact ⟨hshort address hmem, by simp [Members.get?]⟩
  · intro address _
    rw [Cache.stored?, hempty]
    simp [learned?, Members.get?]

/-- An empty store that answers remembers nothing yet. -/
theorem Remote.remembers_of_empty
    {r : Remote}
    (hempty : r.values = [])
    (hopen : r.isOpen = true)
    (hbroken : r.isBroken = false)
    (addresses : List String) :
    (Cache.remote r).Remembers addresses [] := by
  refine ⟨?_, ?_, ?_⟩
  · intro address _ address' _ hshares
    exact beq_iff_eq.mp hshares
  · intro address _
    rw [Cache.keeps_iff, Cache.writeFault?, Option.map_eq_none_iff, fault?, hopen, hbroken]
    rfl
  · intro address _
    rw [Cache.stored?, hempty]
    simp [learned?, Members.get?]

/-- A folder stays a folder. -/
theorem Cache.exists_folder_after
    (api : LookupApi)
    (f : CacheFolder)
    (qs : List Inquiry) :
    ∃ f', (Cache.folder f).after api qs = .folder f' := by
  induction qs generalizing f with
  | nil =>
      exact ⟨f, rfl⟩
  | cons q rest ih =>
      rw [Cache.after, List.foldl_cons]
      rcases Inquiry.cache_resolve api (.folder f) q with hcache | ⟨document, hcache⟩
      · rw [hcache]
        exact ih f
      · simp only [hcache, Cache.set]
        exact ih (f.set q.address document).1

/-- A remote store stays a remote store. -/
theorem Cache.exists_remote_after
    (api : LookupApi)
    (r : Remote)
    (qs : List Inquiry) :
    ∃ r', (Cache.remote r).after api qs = .remote r' := by
  induction qs generalizing r with
  | nil =>
      exact ⟨r, rfl⟩
  | cons q rest ih =>
      rw [Cache.after, List.foldl_cons]
      rcases Inquiry.cache_resolve api (.remote r) q with hcache | ⟨document, hcache⟩
      · rw [hcache]
        exact ih r
      · rw [hcache, Cache.set]
        cases r.put (Cache.remoteKey q.address) (Cache.remoteText document) with
        | ok written =>
            cases document.isWritable with
            | true => exact ih written
            | false => exact ih r
        | error fault => exact ih r

end Kinds

section Interchange

/-- A folder and a store hold the same of an address: nothing, or texts of one document. -/
structure HoldAlike
    (f : CacheFolder)
    (r : Remote)
    (address : String)
    (learned : Option Record) : Prop where
  absent : learned = none →
    f.entries.get? (CacheFolder.fileName address) = none ∧
      r.values.get? (Cache.remoteKey address) = none
  present : ∀ record, learned = some record → ∃ text text',
    f.entries.get? (CacheFolder.fileName address) = some (.file text) ∧
      r.values.get? (Cache.remoteKey address) = some text' ∧
      Json.read? text = some (.object record.document) ∧
      Json.read? text' = some (.object record.document)

theorem holdAlike_of_remembers
    {f : CacheFolder}
    {r : Remote}
    {addresses : List String}
    {qs : List Inquiry}
    (hf : (Cache.folder f).Remembers addresses qs)
    (hr : (Cache.remote r).Remembers addresses qs)
    {address : String}
    (hmem : address ∈ addresses) :
    HoldAlike f r address (learned? address qs) := by
  have hfile := hf.entries address hmem
  have htext := hr.entries address hmem
  simp only [Cache.stored?] at hfile htext
  constructor
  · intro hnone
    rw [hnone] at hfile htext
    exact ⟨hfile, Option.map_eq_none_iff.mp htext⟩
  · intro record hrecord
    have hreadable := (readsBack_of_learned? hrecord).readable
    rw [hrecord] at hfile htext
    obtain ⟨text', htext', hsame⟩ := Option.map_eq_some_iff.mp htext
    obtain rfl := Entry.file.inj hsame
    refine ⟨CacheFolder.documentText (.object record.document),
      Cache.remoteText (.object record.document), hfile, htext', ?_, ?_⟩
    · rw [CacheFolder.documentText, Json.read?_write Json.isPlain_indented hreadable]
    · rw [Cache.remoteText, Json.read?_write Json.isPlain_spaced hreadable]

/--
**Caches are interchangeable.**  For addresses with short safe forms of their own, a
resolver over a folder that starts empty and one over an open remote store that starts
empty give the same records, make the same calls and report the same events at each step,
whatever the lookups bring.  In the end both hold the same of each address: a text of the
document of the first record that came of a lookup of it and could be written, or nothing if
none did.
-/
theorem caches_are_interchangeable
    (api : LookupApi)
    {f : CacheFolder}
    (hf : f.entries = [])
    {r : Remote}
    (hr : r.values = [])
    (hopen : r.isOpen = true)
    (hbroken : r.isBroken = false)
    {addresses : List String}
    (hnames : SafelyNamed addresses)
    (hshort : ∀ address ∈ addresses,
      Entry.isTooLong (CacheFolder.fileName address) = false)
    {qs : List Inquiry}
    (hmem : ∀ q ∈ qs, q.address ∈ addresses) :
    ((Cache.folder f).resolutions api qs).map Resolution.told =
        ((Cache.remote r).resolutions api qs).map Resolution.told ∧
      ∃ f' r', (Cache.folder f).after api qs = .folder f' ∧
        (Cache.remote r).after api qs = .remote r' ∧
        ∀ address ∈ addresses, HoldAlike f' r' address (learned? address qs) := by
  obtain ⟨hfolder, hfolder'⟩ :=
    (CacheFolder.remembers_of_empty hf hnames hshort).after hmem api
  obtain ⟨hremote, hremote'⟩ :=
    (Remote.remembers_of_empty hr hopen hbroken addresses).after hmem api
  refine ⟨hfolder.trans hremote.symm, ?_⟩
  obtain ⟨f', hf'⟩ := Cache.exists_folder_after api f qs
  obtain ⟨r', hr'⟩ := Cache.exists_remote_after api r qs
  rw [hf'] at hfolder'
  rw [hr'] at hremote'
  exact ⟨f', r', hf', hr', fun address hother => holdAlike_of_remembers hfolder' hremote' hother⟩

/-- Both caches give the fallback twice, and keep it, for an address whose first lookup fails. -/
theorem failed_lookup_kept_alike :
    SafelyNamed ["198.51.100.7", "2001:db8::1"] ∧
      (∀ address ∈ ["198.51.100.7", "2001:db8::1"],
        Entry.isTooLong (CacheFolder.fileName address) = false) ∧
      (∀ q ∈ threeInquiries, q.address ∈ ["198.51.100.7", "2001:db8::1"]) ∧
      ((Cache.folder .initial).resolutions plainApi threeInquiries).map Resolution.told =
        ((Cache.remote (Remote.initial []).start.1).resolutions plainApi threeInquiries).map
          Resolution.told ∧
      ∃ f' r', (Cache.folder .initial).after plainApi threeInquiries = .folder f' ∧
        (Cache.remote (Remote.initial []).start.1).after plainApi threeInquiries = .remote r' ∧
        HoldAlike f' r' "198.51.100.7" (some (Resolver.fallback "198.51.100.7")) ∧
        HoldAlike f' r' "2001:db8::1" none := by
  have hnames : SafelyNamed ["198.51.100.7", "2001:db8::1"] := by
    decide
  have hshort : ∀ address ∈ ["198.51.100.7", "2001:db8::1"],
      Entry.isTooLong (CacheFolder.fileName address) = false := by
    decide
  have hmem : ∀ q ∈ threeInquiries, q.address ∈ ["198.51.100.7", "2001:db8::1"] := by
    simp [threeInquiries]
  obtain ⟨htold, f', r', hf', hr', halike⟩ := caches_are_interchangeable plainApi
    (f := .initial) rfl (r := (Remote.initial []).start.1) rfl rfl rfl hnames hshort hmem
  have hfailed : learned? "198.51.100.7" threeInquiries =
      some (Resolver.fallback "198.51.100.7") :=
    rfl
  have hrefused : learned? "2001:db8::1" threeInquiries = none := by
    simp [learned?, threeInquiries, Inquiry.learned?, Resolver.looked?]
  refine ⟨hnames, hshort, hmem, htold, f', r', hf', hr', ?_, ?_⟩
  · rw [← hfailed]
    exact halike _ List.mem_cons_self
  · rw [← hrefused]
    exact halike _ (List.mem_cons_of_mem _ List.mem_cons_self)

end Interchange

end Turnstile
