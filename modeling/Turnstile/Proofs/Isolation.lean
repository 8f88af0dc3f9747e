import Turnstile.Net.Address
import Turnstile.Proofs.CacheEntries

/-!
# Addresses kept apart

A cache that starts empty and is written to address by address.  What an address reads
afterwards is the last document that was written to its entry.  In a remote store that is
its own document.  In a folder it is the document of whichever address with the same safe
form was written last, so there addresses are kept apart only if their safe forms differ.

**Results.**
* `exists_setAll?`: writes succeed if each entry could be written before and each document has
  a text.
* `stored?_setAll?`: what stands in each entry after some writes.
* `last_write_is_read_back`: what each address reads then, and that a further write to an
  address with another entry does not change it.
* `folder_confuses_scoped_addresses`: two public addresses that a folder does not keep apart.
-/

namespace Turnstile

section Writes

/-- The last document among those written to addresses of a kind. -/
def lastDocument?
    (writes : List (String × Members Json))
    (ofKind : String → Bool) : Option (Members Json) :=
  (writes.filter fun write => ofKind write.1).getLast?.map Prod.snd

theorem lastDocument?_nil
    (ofKind : String → Bool) :
    lastDocument? [] ofKind = none :=
  rfl

theorem lastDocument?_cons
    (address : String)
    (document : Members Json)
    (rest : List (String × Members Json))
    (ofKind : String → Bool) :
    lastDocument? ((address, document) :: rest) ofKind =
      (lastDocument? rest ofKind).or (if ofKind address then some document else none) := by
  unfold lastDocument?
  cases h : ofKind address with
  | false =>
      simp [h]
  | true =>
      rw [List.filter_cons, if_pos h, List.getLast?_cons]
      cases (rest.filter fun write => ofKind write.1).getLast? <;> rfl

theorem lastDocument?_congr
    {writes : List (String × Members Json)}
    {ofKind ofKind' : String → Bool}
    (h : ∀ write ∈ writes, ofKind write.1 = ofKind' write.1) :
    lastDocument? writes ofKind = lastDocument? writes ofKind' := by
  rw [lastDocument?, lastDocument?, List.filter_congr h]

theorem mem_of_lastDocument?
    {writes : List (String × Members Json)}
    {ofKind : String → Bool}
    {document : Members Json}
    (h : lastDocument? writes ofKind = some document) :
    ∃ write ∈ writes, write.2 = document := by
  obtain ⟨write, hlast, rfl⟩ := Option.map_eq_some_iff.mp h
  exact ⟨write, (List.mem_filter.mp (List.mem_of_getLast? hlast)).1, rfl⟩

namespace Cache

/-- The cache after some writes, if none of them fails. -/
def setAll?
    (c : Cache) : List (String × Members Json) → Option Cache
  | [] => some c
  | (address, document) :: rest =>
      match c.set address (.object document) with
      | (written, none) => written.setAll? rest
      | (_, some _) => none

/-- The cache answers and holds nothing. -/
def IsEmpty : Cache → Prop
  | .folder f => f.entries = []
  | .remote r => r.values = [] ∧ r.fault? = none
  | .unavailable => False

theorem setAll?_cons_eq_some_iff
    {c c' : Cache}
    {address : String}
    {document : Members Json}
    {rest : List (String × Members Json)} :
    c.setAll? ((address, document) :: rest) = some c' ↔
      (c.set address (.object document)).2 = none ∧
        (c.set address (.object document)).1.setAll? rest = some c' := by
  rw [setAll?]
  rcases c.set address (.object document) with ⟨written, _ | fault⟩
  · simp
  · simp

/-- Writes succeed if each entry could be written before and each document has a text. -/
theorem exists_setAll?
    {c : Cache}
    {writes : List (String × Members Json)}
    (h : ∀ write ∈ writes, c.Keeps write.1)
    (hwritable : ∀ write ∈ writes, Json.isWritable (.object write.2) = true) :
    ∃ c', c.setAll? writes = some c' := by
  induction writes generalizing c with
  | nil =>
      exact ⟨c, rfl⟩
  | cons write rest ih =>
      obtain ⟨address, document⟩ := write
      have hrest : ∀ later ∈ rest, (c.set address (.object document)).1.Keeps later.1 :=
        fun later hlater => (h later (List.mem_cons_of_mem _ hlater)).set address _
      obtain ⟨c', hc'⟩ := ih hrest fun later hlater =>
        hwritable later (List.mem_cons_of_mem _ hlater)
      have hwritten : (c.set address (.object document)).2 = none :=
        (h _ List.mem_cons_self).writes _ (hwritable _ List.mem_cons_self)
      exact ⟨c', setAll?_cons_eq_some_iff.mpr ⟨hwritten, hc'⟩⟩

theorem Keeps.setAll?
    {c c' : Cache}
    {address : String}
    (hkeeps : c.Keeps address)
    {writes : List (String × Members Json)}
    (h : c.setAll? writes = some c') :
    c'.Keeps address := by
  induction writes generalizing c with
  | nil =>
      obtain rfl := Option.some.inj h
      exact hkeeps
  | cons write rest ih =>
      exact ih (hkeeps.set write.1 _) (setAll?_cons_eq_some_iff.mp h).2

/-- After some writes the last document that was written to an entry stands in it. -/
theorem stored?_setAll?
    {c c' : Cache}
    {writes : List (String × Members Json)}
    (h : c.setAll? writes = some c')
    (address : String) :
    c'.stored? address =
      ((lastDocument? writes fun written => c.shares written address).map fun document =>
        Entry.file (c.textOf (.object document))).or (c.stored? address) := by
  -- Names and texts stay the same from write to write.
  induction writes generalizing c with
  | nil =>
      obtain rfl := Option.some.inj h
      rw [lastDocument?_nil]
      rfl
  | cons write rest ih =>
      obtain ⟨written, document⟩ := write
      obtain ⟨hfault, hrest⟩ := setAll?_cons_eq_some_iff.mp h
      rw [ih hrest, shares_set, textOf_set, stored?_set, lastDocument?_cons]
      cases hlast : lastDocument? rest fun written => c.shares written address with
      | some last =>
          rfl
      | none =>
          cases hshares : c.shares written address with
          | true => simp [hfault]
          | false => simp

theorem stored?_of_isEmpty
    {c : Cache}
    (h : c.IsEmpty)
    (address : String) :
    c.stored? address = none := by
  cases c with
  | folder f =>
      have hentries : f.entries = [] := h
      simp [stored?, hentries, Members.get?]
  | remote r =>
      simp [stored?, h.1, Members.get?]
  | unavailable =>
      cases h

theorem readFault?_setAll?_remote
    {r : Remote}
    (hfault : r.fault? = none)
    {c : Cache}
    {writes : List (String × Members Json)}
    (h : (Cache.remote r).setAll? writes = some c)
    (address : String) :
    c.readFault? address = none := by
  induction writes generalizing r with
  | nil =>
      obtain rfl := Option.some.inj h
      exact congrArg (Option.map CacheFault.remote) hfault
  | cons write rest ih =>
      obtain ⟨written, document⟩ := write
      obtain ⟨hwritten, hrest⟩ := setAll?_cons_eq_some_iff.mp h
      have hdocument := (snd_set_eq_none_iff.mp hwritten).1
      simp only [set, Remote.put_eq, hfault, hdocument, if_true] at hrest
      have hfault' : (Remote.mk (r.values.set (remoteKey written)
          (remoteText (.object document))) r.life r.isBroken r.isOpen).fault? = none := hfault
      exact ih hfault' hrest

end Cache

end Writes

section Isolation

variable {start c : Cache} {writes : List (String × Members Json)}

/-- An address reads the last document that was written to its entry. -/
theorem Cache.get_setAll?
    (hempty : start.IsEmpty)
    (hreadable : ∀ write ∈ writes, Json.Readable (.object write.2))
    (hwrites : start.setAll? writes = some c)
    {address : String}
    (hread : c.readFault? address = none) :
    c.get address = .ok (lastDocument? writes fun written => start.shares written address) := by
  rw [get_eq_ok_iff, stored?_setAll? hwrites, stored?_of_isEmpty hempty]
  refine ⟨hread, ?_⟩
  cases hlast : lastDocument? writes fun written => start.shares written address with
  | none =>
      rfl
  | some document =>
      obtain ⟨write, hmem, rfl⟩ := mem_of_lastDocument? hlast
      exact (readObject?_textOf start (hreadable write hmem)).symm

/-- What can be read after a write could be read before it. -/
theorem Cache.readFault?_of_set
    {address address' : String}
    {document : Json}
    (h : (c.set address document).1.readFault? address' = none) :
    c.readFault? address' = none := by
  cases c with
  | folder f =>
      simp only [set, CacheFolder.set_eq, readFault?, CacheFolder.readFault?] at h ⊢
      cases hlong : Entry.isTooLong (CacheFolder.fileName address') with
      | true => simp [hlong] at h
      | false => simp
  | remote r =>
      simp only [set, Remote.put_eq] at h
      cases hfault : r.fault? with
      | none =>
          rw [hfault] at h
          cases hdocument : document.isWritable with
          | true =>
              rw [hdocument] at h
              exact h
          | false =>
              rw [hdocument] at h
              exact h
      | some fault =>
          rw [hfault] at h
          exact h
  | unavailable =>
      cases h

/-- A write does not change what addresses with other entries read. -/
theorem Cache.get_set_of_not_shares
    {address address' : String}
    {document : Json}
    (hshares : c.shares address address' = false)
    (hread : (c.set address document).1.readFault? address' = none) :
    (c.set address document).1.get address' = c.get address' := by
  have hentry : (c.set address document).1.stored? address' = c.stored? address' := by
    simp [stored?_set, hshares]
  rw [get_eq, get_eq, hread, readFault?_of_set hread, hentry]

/--
**What is written is read back.**  After writes that all succeed, to a cache that was
empty, an address that can be read reads the last document that was written to its entry.
If no other address with that entry was written to, it reads the last document that was
written to itself, or none.  In a remote store each address does so.  Whatever is written
to an address does not change what an address with another entry reads.
-/
theorem last_write_is_read_back
    (hempty : start.IsEmpty)
    (hreadable : ∀ write ∈ writes, Json.Readable (.object write.2))
    (hwrites : start.setAll? writes = some c) :
    (∀ address, c.readFault? address = none →
      c.get address =
        .ok (lastDocument? writes fun written => start.shares written address)) ∧
    (∀ address, c.readFault? address = none →
      (∀ write ∈ writes, start.shares write.1 address = true → write.1 = address) →
      c.get address = .ok (lastDocument? writes (· == address))) ∧
    (∀ r, start = .remote r → ∀ address,
      c.get address = .ok (lastDocument? writes (· == address))) ∧
    ∀ address document address',
      c.shares address address' = false →
      (c.set address document).1.readFault? address' = none →
      (c.set address document).1.get address' = c.get address' := by
  have hget : ∀ address, c.readFault? address = none →
      c.get address =
        .ok (lastDocument? writes fun written => start.shares written address) :=
    fun address => Cache.get_setAll? hempty hreadable hwrites
  refine ⟨hget, ?_, ?_, fun address document address' => Cache.get_set_of_not_shares⟩
  · intro address hread hown
    rw [hget address hread]
    congr 1
    apply lastDocument?_congr
    intro write hmem
    rw [Bool.eq_iff_iff, beq_iff_eq]
    constructor
    · exact hown write hmem
    · rintro rfl
      exact Cache.shares_self start write.1
  · rintro r rfl address
    exact hget address (Cache.readFault?_setAll?_remote hempty.2 hwrites address)

/-- A document that names a country. -/
def countryDocument
    (code : String) : Members Json :=
  [("status", .string "success"), ("countryCode", .string code)]

theorem readable_countryDocument
    (code : String) :
    Json.Readable (.object (countryDocument code)) := by
  apply Json.Readable.object_of_values
  · simp [countryDocument]
  · simp only [countryDocument, List.forall_mem_cons]
    exact ⟨.string _, .string _, nofun⟩

/-- Three writes to two addresses. -/
def threeWrites : List (String × Members Json) :=
  [("198.51.100.7", countryDocument "DE"), ("2001:db8::1", countryDocument "US"),
    ("198.51.100.7", countryDocument "FR")]

/-- An address that is written to twice in a folder reads the later document. -/
theorem rewritten_address_reads_later_document :
    ∃ c, (Cache.folder .initial).IsEmpty ∧
      (∀ write ∈ threeWrites, Json.Readable (.object write.2)) ∧
      (Cache.folder .initial).setAll? threeWrites = some c ∧
      c.readFault? "198.51.100.7" = none ∧
      (∀ write ∈ threeWrites, (Cache.folder .initial).shares write.1 "198.51.100.7" = true →
        write.1 = "198.51.100.7") ∧
      c.get "198.51.100.7" = .ok (some (countryDocument "FR")) := by
  have hempty : (Cache.folder .initial).IsEmpty := rfl
  have hreadable : ∀ write ∈ threeWrites, Json.Readable (.object write.2) := by
    simp only [threeWrites, List.forall_mem_cons]
    exact ⟨readable_countryDocument _, readable_countryDocument _, readable_countryDocument _,
      nofun⟩
  have hkeeps : ∀ write ∈ threeWrites, (Cache.folder .initial).Keeps write.1 := by
    simp only [threeWrites, List.forall_mem_cons, Cache.keeps_iff]
    decide
  have hown : ∀ write ∈ threeWrites,
      (Cache.folder .initial).shares write.1 "198.51.100.7" = true →
        write.1 = "198.51.100.7" := by
    simp only [threeWrites, List.forall_mem_cons]
    decide
  obtain ⟨c, hwrites⟩ := Cache.exists_setAll? hkeeps (by decide)
  have hread : c.readFault? "198.51.100.7" = none := by
    have hkept := (hkeeps _ List.mem_cons_self).setAll? hwrites
    exact Cache.readFault?_of_writeFault? (Cache.keeps_iff.mp hkept)
  refine ⟨c, hempty, hreadable, hwrites, hread, hown, ?_⟩
  exact (last_write_is_read_back hempty hreadable hwrites).2.1 _ hread hown

/-- Two public addresses that differ in their scopes have one file in a folder. -/
theorem folder_confuses_scoped_addresses :
    Address.isPublicText "2606:4700::1111%a:b" = true ∧
      Address.isPublicText "2606:4700::1111%a_b" = true ∧
      ∃ c, (Cache.folder .initial).setAll?
          [("2606:4700::1111%a:b", countryDocument "US")] = some c ∧
        lastDocument? [("2606:4700::1111%a:b", countryDocument "US")]
          (· == "2606:4700::1111%a_b") = none ∧
        c.get "2606:4700::1111%a_b" = .ok (some (countryDocument "US")) := by
  have hkeeps : ∀ write ∈ [("2606:4700::1111%a:b", countryDocument "US")],
      (Cache.folder .initial).Keeps write.1 := by
    simp only [List.forall_mem_cons, Cache.keeps_iff]
    decide
  have hother : (Cache.folder .initial).Keeps "2606:4700::1111%a_b" := by
    rw [Cache.keeps_iff]
    decide
  obtain ⟨c, hwrites⟩ := Cache.exists_setAll? hkeeps (by decide)
  refine ⟨by decide, by decide, c, hwrites, by decide, ?_⟩
  have hread : c.readFault? "2606:4700::1111%a_b" = none :=
    Cache.readFault?_of_writeFault? (Cache.keeps_iff.mp (hother.setAll? hwrites))
  have hreadable : ∀ write ∈ [("2606:4700::1111%a:b", countryDocument "US")],
      Json.Readable (.object write.2) := by
    simpa only [List.forall_mem_singleton] using readable_countryDocument "US"
  have hempty : (Cache.folder .initial).IsEmpty := rfl
  rw [Cache.get_setAll? hempty hreadable hwrites hread]
  rfl

end Isolation

end Turnstile
