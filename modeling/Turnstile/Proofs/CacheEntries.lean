import Turnstile.Proofs.FolderWrites
import Turnstile.Proofs.JsonText

/-!
# Entries of a cache

What a cache knows of an address is the entry under the name that it gives the address: a
safe form of it in a folder, a key in a remote store.  What is read of the address is the
document in that entry, and a write replaces the entry or, if it fails, nothing.  It fails
if the entry cannot be written or the document cannot.

**Addresses with one entry.**  A remote store keeps addresses apart.  A folder does not:
it keeps one file for all addresses with the same safe form.

**Results.**
* `get_eq` and `snd_set_eq_none_iff`: when an address is read and written, and what is read.
* `stored?_set`: what stands in each entry after a write.
* `Keeps.set`: a write leaves what could be read and written so.
-/

namespace Turnstile

section Faults

/-- Why a remote store does not answer. -/
def Remote.fault?
    (r : Remote) : Option RemoteFault :=
  if !r.isOpen then some .notOpen else if r.isBroken then some .broken else none

namespace Cache

/-- Why an address is not read. -/
def readFault?
    (c : Cache)
    (address : String) : Option CacheFault :=
  match c with
  | .folder f => (f.readFault? address).map .folder
  | .remote r => r.fault?.map .remote
  | .unavailable => some .unavailable

/-- Why no document of an address is written. -/
def writeFault?
    (c : Cache)
    (address : String) : Option CacheFault :=
  match c with
  | .folder f => (f.writeFault? address).map .folder
  | .remote r => r.fault?.map .remote
  | .unavailable => some .unavailable

/-- The entry of an address can be read, and any document that can be written at all to it. -/
structure Keeps
    (c : Cache)
    (address : String) : Prop where
  reads : ∃ found, c.get address = .ok found
  writes : ∀ document : Json, document.isWritable = true → (c.set address document).2 = none

end Cache

end Faults

section Entries

/-- The document in an entry, if there is one and it can be read. -/
def Entry.document? : Option Entry → Option (Members Json)
  | some (.file text) => readObject? text
  | _ => none

namespace Cache

/-- What a cache holds under the name of an address. -/
def stored?
    (c : Cache)
    (address : String) : Option Entry :=
  match c with
  | .folder f => f.entries.get? (CacheFolder.fileName address)
  | .remote r => (r.values.get? (remoteKey address)).map .file
  | .unavailable => none

/-- Two addresses have one entry. -/
def shares
    (c : Cache)
    (address address' : String) : Bool :=
  match c with
  | .folder _ => safeName address == safeName address'
  | _ => address == address'

/-- The text in which a document is kept. -/
def textOf
    (c : Cache)
    (document : Json) : String :=
  match c with
  | .folder _ => CacheFolder.documentText document
  | _ => remoteText document

end Cache

theorem CacheFolder.fileName_inj
    {address address' : String} :
    fileName address = fileName address' ↔ safeName address = safeName address' := by
  constructor
  · intro h
    have hchars := congrArg String.toList h
    simp only [fileName, String.toList_append, List.append_cancel_right_eq] at hchars
    exact String.toList_injective hchars
  · intro h
    rw [fileName, h, fileName]

theorem Cache.remoteKey_inj
    {address address' : String} :
    remoteKey address = remoteKey address' ↔ address = address' := by
  constructor
  · intro h
    have hchars := congrArg String.toList h
    simp only [remoteKey, String.toList_append, List.append_cancel_left_eq] at hchars
    exact String.toList_injective hchars
  · rintro rfl
    rfl

@[simp] theorem Cache.shares_self
    (c : Cache)
    (address : String) :
    c.shares address address = true := by
  cases c <;> simp [shares]

end Entries

section Steps

theorem Remote.text?_eq
    (r : Remote)
    (key : String) :
    r.text? key =
      match r.fault? with
      | some fault => .error fault
      | none => .ok ((r.values.get? key).filter (· != "")) := by
  unfold text? get? fault?
  cases r.isOpen with
  | false => rfl
  | true => cases r.isBroken <;> rfl

theorem Remote.put_eq
    (r : Remote)
    (key value : String) :
    r.put key value =
      match r.fault? with
      | some fault => .error fault
      | none => .ok { r with values := r.values.set key value } := by
  unfold put fault?
  cases r.isOpen with
  | false => rfl
  | true => cases r.isBroken <;> rfl

theorem CacheFolder.get_eq
    (f : CacheFolder)
    (address : String) :
    f.get address =
      match f.readFault? address with
      | some fault => .error fault
      | none => .ok (Entry.document? (f.entries.get? (fileName address))) := by
  unfold get readFault?
  cases f.isThere && Entry.isTooLong (fileName address) with
  | true =>
      rfl
  | false =>
      cases f.entries.get? (fileName address) with
      | none => rfl
      | some entry => cases entry <;> rfl

/-- A write makes the folder, whether it fails or not. -/
theorem CacheFolder.set_eq
    (f : CacheFolder)
    (address : String)
    (document : Json) :
    f.set address document =
      (⟨true, true, f.entriesAfter f.freshName address document⟩, f.setFault? address document) :=
  setThrough_eq (isFresh_freshName f) address document

theorem CacheFolder.setFault?_eq_none_iff
    {f : CacheFolder}
    {address : String}
    {document : Json} :
    f.setFault? address document = none ↔
      document.isWritable = true ∧ f.writeFault? address = none := by
  unfold setFault?
  cases document.isWritable <;> simp

namespace Cache

/-- What is read of an address is the document in its entry. -/
theorem get_eq
    (c : Cache)
    (address : String) :
    c.get address =
      match c.readFault? address with
      | some fault => .error fault
      | none => .ok (Entry.document? (c.stored? address)) := by
  cases c with
  | folder f =>
      rw [get, CacheFolder.get_eq, readFault?]
      cases f.readFault? address <;> rfl
  | remote r =>
      -- The empty text, which a store gives no document for, is no document anyway.
      have hread : ((r.values.get? (remoteKey address)).filter (· != "")).bind readObject? =
          Entry.document? ((r.values.get? (remoteKey address)).map .file) := by
        cases r.values.get? (remoteKey address) with
        | none =>
            rfl
        | some text =>
            by_cases hempty : text = ""
            · subst hempty
              rfl
            · simp [hempty, Option.filter_some, Entry.document?]
      rw [get, Remote.text?_eq, readFault?]
      cases r.fault? with
      | some fault => rfl
      | none => exact congrArg Except.ok hread
  | unavailable =>
      rfl

theorem get_eq_ok_iff
    {c : Cache}
    {address : String}
    {found : Option (Members Json)} :
    c.get address = .ok found ↔
      c.readFault? address = none ∧ found = Entry.document? (c.stored? address) := by
  rw [get_eq]
  cases c.readFault? address with
  | some fault => simp
  | none => simp [eq_comm]

/-- Documents that can be read are read back from their texts. -/
theorem readObject?_textOf
    (c : Cache)
    {document : Members Json}
    (h : Json.Readable (.object document)) :
    readObject? (c.textOf (.object document)) = some document := by
  have hlayout : ∃ layout : Json.Layout, layout.IsPlain ∧
      c.textOf (.object document) = Json.write layout (.object document) := by
    cases c with
    | folder f => exact ⟨_, Json.isPlain_indented, rfl⟩
    | remote r => exact ⟨_, Json.isPlain_spaced, rfl⟩
    | unavailable => exact ⟨_, Json.isPlain_spaced, rfl⟩
  obtain ⟨layout, hplain, htext⟩ := hlayout
  rw [htext, readObject?, Json.read?_write hplain h]

/-- A write succeeds if both the entry and the document can be written. -/
theorem snd_set_eq_none_iff
    {c : Cache}
    {address : String}
    {document : Json} :
    (c.set address document).2 = none ↔
      document.isWritable = true ∧ c.writeFault? address = none := by
  cases c with
  | folder f =>
      simp only [set, CacheFolder.set_eq, writeFault?, Option.map_eq_none_iff,
        CacheFolder.setFault?_eq_none_iff]
  | remote r =>
      simp only [set, Remote.put_eq, writeFault?, Option.map_eq_none_iff]
      cases r.fault? with
      | some fault => simp
      | none => cases document.isWritable <;> simp
  | unavailable =>
      simp [set, writeFault?]

/-- A write replaces the entry of the address, or no entry of an address if it fails. -/
theorem stored?_set
    (c : Cache)
    (address : String)
    (document : Json)
    (address' : String) :
    (c.set address document).1.stored? address' =
      if (c.set address document).2 = none ∧ c.shares address address' = true then
        some (.file (c.textOf document))
      else c.stored? address' := by
  cases c with
  | folder f =>
      simp only [set, CacheFolder.set_eq, stored?, Option.map_eq_none_iff, shares, beq_iff_eq,
        textOf, CacheFolder.get?_entriesAfter (CacheFolder.isFresh_freshName f),
        CacheFolder.fileName_inj, eq_comm (a := safeName address)]
  | remote r =>
      simp only [set, Remote.put_eq, shares, beq_iff_eq, textOf]
      cases r.fault? with
      | some fault =>
          simp
      | none =>
          cases document.isWritable with
          | false =>
              simp
          | true =>
              simp only [stored?, if_true, Members.get?_set, remoteKey_inj, true_and,
                eq_comm (a := address')]
              split <;> rfl
  | unavailable =>
      simp [set]

/-- A write does not change how addresses are named. -/
theorem shares_set
    (c : Cache)
    (address : String)
    (document : Json) :
    (c.set address document).1.shares = c.shares := by
  cases c with
  | folder f =>
      simp only [set, CacheFolder.set_eq]
      rfl
  | remote r =>
      simp only [set, Remote.put_eq]
      cases r.fault? <;> cases document.isWritable <;> rfl
  | unavailable =>
      rfl

/-- A write does not change how documents are written. -/
theorem textOf_set
    (c : Cache)
    (address : String)
    (document : Json) :
    (c.set address document).1.textOf = c.textOf := by
  cases c with
  | folder f =>
      simp only [set, CacheFolder.set_eq]
      rfl
  | remote r =>
      simp only [set, Remote.put_eq]
      cases r.fault? <;> cases document.isWritable <;> rfl
  | unavailable =>
      rfl

end Cache

end Steps

section Keeping

theorem CacheFolder.writeFault?_eq_none_iff
    {f : CacheFolder}
    {address : String} :
    f.writeFault? address = none ↔
      Entry.isTooLong (fileName address) = false ∧
        f.entries.get? (fileName address) ≠ some .folder := by
  unfold writeFault?
  by_cases hlong : Entry.isTooLong (fileName address) = true
  · simp [hlong]
  · by_cases hfolder : f.entries.get? (fileName address) = some .folder
    · simp [hlong, hfolder]
    · simp [hlong, hfolder]

namespace Cache

/-- What can be written can be read. -/
theorem readFault?_of_writeFault?
    {c : Cache}
    {address : String}
    (h : c.writeFault? address = none) :
    c.readFault? address = none := by
  cases c with
  | folder f =>
      simp only [writeFault?, Option.map_eq_none_iff, CacheFolder.writeFault?_eq_none_iff] at h
      simp [readFault?, CacheFolder.readFault?, h.1]
  | remote r =>
      exact h
  | unavailable =>
      cases h

theorem keeps_iff
    {c : Cache}
    {address : String} :
    c.Keeps address ↔ c.writeFault? address = none := by
  constructor
  · intro h
    exact (snd_set_eq_none_iff.mp (h.writes .null rfl)).2
  · intro h
    exact
      { reads := ⟨_, get_eq_ok_iff.mpr ⟨readFault?_of_writeFault? h, rfl⟩⟩
        writes := fun _ hdocument => snd_set_eq_none_iff.mpr ⟨hdocument, h⟩ }

/-- What is read of an entry that can be read and written. -/
theorem Keeps.get_eq
    {c : Cache}
    {address : String}
    (h : c.Keeps address) :
    c.get address = .ok (Entry.document? (c.stored? address)) :=
  get_eq_ok_iff.mpr ⟨readFault?_of_writeFault? (keeps_iff.mp h), rfl⟩

/-- What is read of an entry after a document was written to it. -/
theorem Keeps.stored?_set_self
    {c : Cache}
    {address : String}
    (h : c.Keeps address)
    {document : Json}
    (hdocument : document.isWritable = true) :
    (c.set address document).1.stored? address = some (.file (c.textOf document)) := by
  rw [stored?_set, if_pos ⟨h.writes document hdocument, shares_self c address⟩]

/-- A write leaves what could be read and written so. -/
theorem Keeps.set
    {c : Cache}
    {address : String}
    (h : c.Keeps address)
    (address' : String)
    (document : Json) :
    (c.set address' document).1.Keeps address := by
  rw [keeps_iff] at h ⊢
  cases c with
  | folder f =>
      simp only [writeFault?, Option.map_eq_none_iff, CacheFolder.writeFault?_eq_none_iff] at h
      simp only [Cache.set, CacheFolder.set_eq, writeFault?, Option.map_eq_none_iff,
        CacheFolder.writeFault?_eq_none_iff]
      refine ⟨h.1, ?_⟩
      rw [CacheFolder.get?_entriesAfter (CacheFolder.isFresh_freshName f)]
      split
      · simp
      · exact h.2
  | remote r =>
      simp only [Cache.set, Remote.put_eq]
      cases r.fault? <;> cases document.isWritable <;> exact h
  | unavailable =>
      cases h

end Cache

end Keeping

end Turnstile
