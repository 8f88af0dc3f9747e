import Turnstile.Proofs.CacheEntries
import Turnstile.Proofs.DiskPaths
import Turnstile.Proofs.Overlay

/-!
# Atomic writes

A write to a folder replaces the entry of an address as a whole or changes no entry, and at no
time does an entry other than the temporary file hold anything else than before or after the
write.  Wherever a write breaks off before its last step, removing the temporary file brings
back what the folder held.

**Documents that cannot be written.**  After a fault of the file system the temporary file is
removed.  A document that UTF-8 has no form for breaks a write off by another fault, which
leaves the temporary file with what was written until then.

**Confinement.**  The names of the files that are read and written are plain whatever text the
address is, so that on no disk do they lead out of the folder.

**Results.**
* `isPlain_fileName`, `IsFresh.isPlain`: the names lead directly into the folder.
* `folder_writes_are_atomic_and_confined`: what a write does, and where.
* `unwritable_document_leaves_temporary_file`: what remains of half of a surrogate pair.
-/

namespace Turnstile
namespace CacheFolder

section Names

variable {f : CacheFolder} {temporary : String}

/-- Safe characters of which the last is no point make a plain name. -/
theorem isPlain_of_safe
    {name : String}
    (last : Char)
    (hsafe : ∀ c ∈ name.toList, isSafeChar c = true)
    (hlast : name.toList.getLast? = some last)
    (hpoint : last ≠ '.') :
    Disk.IsPlain name where
  ne_empty := by
    rintro rfl
    cases hlast
  ne_point := by
    rintro rfl
    exact hpoint (Option.some.inj hlast).symm
  ne_points := by
    rintro rfl
    exact hpoint (Option.some.inj hlast).symm
  slash_not_mem := fun hslash => absurd (hsafe '/' hslash) (by decide)

/-- The marks of the names are safe. -/
theorem isSafeChar_of_mem_marks
    {c : Char}
    (h : c ∈ ".json".toList ∨ c ∈ ".ip-".toList ∨ c ∈ ".tmp".toList) :
    isSafeChar c = true := by
  have hmarks : (".json".toList ++ ".ip-".toList ++ ".tmp".toList).all isSafeChar = true := by
    decide
  refine List.all_eq_true.mp hmarks c ?_
  simpa only [List.mem_append, or_assoc] using h

theorem isSafeChar_of_mem_safeName
    {address : String}
    {c : Char}
    (h : c ∈ (safeName address).toList) :
    isSafeChar c = true := by
  rw [safeName, String.toList_ofList] at h
  obtain ⟨d, -, rfl⟩ := List.mem_map.mp h
  split
  · assumption
  · rfl

/-- The name of the file of an address leads directly into the folder. -/
theorem isPlain_fileName
    (address : String) :
    Disk.IsPlain (fileName address) := by
  have hchars : (fileName address).toList = (safeName address).toList ++ ".json".toList :=
    String.toList_append ..
  apply isPlain_of_safe 'n'
  · intro c hc
    rw [hchars, List.mem_append] at hc
    rcases hc with hc | hc
    · exact isSafeChar_of_mem_safeName hc
    · exact isSafeChar_of_mem_marks (.inl hc)
  · rw [hchars]
    simp
  · decide

/-- So does the name of a temporary file. -/
theorem IsFresh.isPlain
    (h : f.IsFresh temporary) :
    Disk.IsPlain temporary := by
  obtain ⟨middle, rfl, hmiddle⟩ := h.marked
  apply isPlain_of_safe 'p'
  · intro c hc
    simp only [String.toList_append, List.mem_append] at hc
    rcases hc with (hc | hc) | hc
    · exact isSafeChar_of_mem_marks (.inr (.inl hc))
    · exact hmiddle c hc
    · exact isSafeChar_of_mem_marks (.inr (.inr hc))
  · simp [List.getLast?_cons]
  · decide

/-- The steps of a write, and the removal of the temporary file, touch plain names only. -/
theorem isPlain_of_mem_names
    (htemporary : f.IsFresh temporary)
    {address : String}
    {document : Json}
    {step : FolderStep}
    (hstep : step ∈ writeSteps temporary address document ++ [.remove temporary])
    {name : String}
    (hname : name ∈ step.names) :
    Disk.IsPlain name := by
  have hcases : name = temporary ∨ name = fileName address := by
    unfold writeSteps at hstep
    cases hpart : Json.partAt .indented 0 document with
    | none =>
        simp only [hpart, List.cons_append, List.nil_append, List.mem_cons, List.not_mem_nil,
          or_false] at hstep
        rcases hstep with rfl | rfl | rfl | rfl | rfl
        · cases hname
        · exact .inl (List.mem_singleton.mp hname)
        · exact .inl (List.mem_singleton.mp hname)
        · simpa [FolderStep.names] using hname
        · exact .inl (List.mem_singleton.mp hname)
    | some part =>
        simp only [hpart, List.cons_append, List.nil_append, List.mem_cons, List.not_mem_nil,
          or_false] at hstep
        rcases hstep with rfl | rfl | rfl | rfl | rfl
        · cases hname
        · exact .inl (List.mem_singleton.mp hname)
        · exact .inl (List.mem_singleton.mp hname)
        · cases hname
        · exact .inl (List.mem_singleton.mp hname)
  rcases hcases with rfl | rfl
  · exact htemporary.isPlain
  · exact isPlain_fileName address

end Names

section Writes

variable {f : CacheFolder} {temporary address : String} {document : Json}

/-- Which temporary file is taken makes no difference to a document that can be written. -/
theorem setThrough_of_isWritable
    (htemporary : f.IsFresh temporary)
    (hdocument : document.isWritable = true) :
    f.setThrough temporary address document = f.set address document := by
  have hpart := (Json.partAt_eq_none_iff .indented document 0).mpr hdocument
  rw [set_eq, setThrough_eq htemporary]
  simp only [entriesAfter, hpart]

/-- A document that cannot be written leaves the temporary file with a part of its text. -/
theorem exists_part_of_not_isWritable
    (htemporary : f.IsFresh temporary)
    (hdocument : document.isWritable = false) :
    ∃ part, Json.partAt .indented 0 document = some part ∧
      f.setThrough temporary address document =
        (⟨true, true, f.entries.set temporary (.file part)⟩, some .unwritable) := by
  cases hpart : Json.partAt .indented 0 document with
  | none =>
      rw [(Json.partAt_eq_none_iff .indented document 0).mp hpart] at hdocument
      cases hdocument
  | some part =>
      refine ⟨part, rfl, ?_⟩
      rw [setThrough_eq htemporary, entriesAfter, hpart, setFault?, hdocument]
      rfl

/-- The entries with other names than the temporary file after the last step of a write. -/
theorem get?_run_writeSteps
    {name : String}
    (hname : name ≠ temporary) :
    (f.run (writeSteps temporary address document)).1.entries.get? name =
      (f.setThrough temporary address document).1.entries.get? name := by
  unfold setThrough
  rcases f.run (writeSteps temporary address document) with ⟨left, _ | fault⟩
  · rfl
  · simp only
    split
    · -- The temporary file, which is removed, has another name.
      exact ((Members.get?_erase left.entries temporary name).trans (if_neg hname)).symm
    · rfl

/-- At any time of a write each entry but the temporary file is that from before or after it. -/
theorem get?_run_take
    (htemporary : f.IsFresh temporary)
    (count : Nat)
    {name : String}
    (hname : name ≠ temporary) :
    (f.run ((writeSteps temporary address document).take count)).1.entries.get? name =
        f.entries.get? name ∨
      (f.run ((writeSteps temporary address document).take count)).1.entries.get? name =
        (f.set address document).1.entries.get? name := by
  rcases Nat.lt_or_ge count 4 with hcount | hcount
  · obtain ⟨left, hrun, hleft⟩ := run_take_writeSteps f temporary address document hcount
    rw [hrun]
    left
    rcases hleft with hleft | ⟨text, hleft⟩
    · rw [hleft]
    · rw [hleft, Members.get?_set, if_neg hname]
  · have hlength : (writeSteps temporary address document).length ≤ count := by
      unfold writeSteps
      cases Json.partAt .indented 0 document <;> exact hcount
    rw [List.take_of_length_le hlength, get?_run_writeSteps hname]
    cases hdocument : document.isWritable with
    | true =>
        right
        rw [setThrough_of_isWritable htemporary hdocument]
    | false =>
        left
        obtain ⟨part, hset⟩ : ∃ part, f.setThrough temporary address document =
            (⟨true, true, f.entries.set temporary (.file part)⟩, some .unwritable) :=
          (exists_part_of_not_isWritable htemporary hdocument).imp fun _ => And.right
        rw [hset]
        exact (Members.get?_set _ _ _ _).trans (if_neg hname)

/-- Wherever a write breaks off before its last step, removing the temporary file restores all. -/
theorem entries_erase_run_take
    (htemporary : f.IsFresh temporary)
    {count : Nat}
    (hcount : count < 4) :
    (f.run ((writeSteps temporary address document).take count)).1.entries.erase temporary =
      f.entries := by
  obtain ⟨left, hrun, hleft⟩ := run_take_writeSteps f temporary address document hcount
  rw [hrun]
  rcases hleft with hleft | ⟨text, hleft⟩
  · rw [hleft, Members.erase_of_not_mem (Members.get?_eq_none_iff.mp htemporary.free)]
  · rw [hleft, erase_set_of_isFresh htemporary]

/-- A read depends on the entry of the address only. -/
theorem get_congr
    {f' : CacheFolder}
    (hthere : f'.isThere = f.isThere)
    (hentry : f'.entries.get? (fileName address) = f.entries.get? (fileName address)) :
    f'.get address = f.get address := by
  unfold get
  rw [hthere, hentry]

/-- A write fails if the document has no text, or the entry a name too long or of a folder. -/
theorem snd_set_eq_none_iff :
    (f.set address document).2 = none ↔
      document.isWritable = true ∧ Entry.isTooLong (fileName address) = false ∧
        f.entries.get? (fileName address) ≠ some .folder := by
  rw [set_eq, setFault?_eq_none_iff, writeFault?_eq_none_iff]

end Writes

section Results

variable {f : CacheFolder} {address : String} {document : Json}

/-- What a write to a folder comes to: it replaces one entry as a whole, or it fails. -/
structure WritesWhole
    (f : CacheFolder)
    (address : String)
    (document : Json) : Prop where
  succeeds_iff : (f.set address document).2 = none ↔
    document.isWritable = true ∧ Entry.isTooLong (fileName address) = false ∧
      f.entries.get? (fileName address) ≠ some .folder
  /-- After a success the text of the document is in the entry, and no other entry changes. -/
  replaced : (f.set address document).2 = none →
    (f.set address document).1.entries.get? (fileName address) =
        some (.file (documentText document)) ∧
      ∀ name, name ≠ fileName address →
        (f.set address document).1.entries.get? name = f.entries.get? name
  /-- An object is then read back. -/
  read_back : (f.set address document).2 = none → document.Readable →
    ∀ members, document = .object members →
      (f.set address document).1.get address = .ok (some members)
  /-- After a fault of the file system all is as before. -/
  unchanged : ∀ fault, (f.set address document).2 = some fault → fault.isOfSystem = true →
    (f.set address document).1.entries = f.entries

/-- How a write to a folder comes about: through a temporary file. -/
structure WritesThrough
    (f : CacheFolder)
    (temporary address : String)
    (document : Json) : Prop where
  /-- The file does not remain of a document that can be written, whichever it is. -/
  removed : document.isWritable = true →
    f.setThrough temporary address document = f.set address document ∧
      (f.set address document).1.entries.get? temporary = none
  /-- Of another it remains, with the text up to where there is none, and nothing else changes. -/
  remains : document.isWritable = false →
    ∃ part, Json.partAt .indented 0 document = some part ∧
      f.setThrough temporary address document =
        (⟨true, true, f.entries.set temporary (.file part)⟩, some .unwritable)
  /-- At no time is there anything but what was there before or is there after. -/
  whole : ∀ count name, name ≠ temporary →
    (f.run ((writeSteps temporary address document).take count)).1.entries.get? name =
        f.entries.get? name ∨
      (f.run ((writeSteps temporary address document).take count)).1.entries.get? name =
        (f.set address document).1.entries.get? name
  /-- A write that breaks off before its last step is undone. -/
  undone : ∀ count < 4,
    (f.run ((writeSteps temporary address document).take count)).1.entries.erase temporary =
      f.entries
  /-- No step leads out of the folder. -/
  confined : ∀ step ∈ writeSteps temporary address document ++ [.remove temporary],
    ∀ name ∈ step.names, Disk.LeadsInto name

/-- The entries after a success. -/
theorem entries_set_of_snd_set_eq_none
    (hsuccess : (f.set address document).2 = none) :
    (f.set address document).1.entries =
      f.entries.set (fileName address) (.file (documentText document)) := by
  rw [set_eq] at hsuccess ⊢
  obtain ⟨hdocument, hentry⟩ := setFault?_eq_none_iff.mp hsuccess
  have hpart := (Json.partAt_eq_none_iff .indented document 0).mpr hdocument
  simp only [entriesAfter, hpart, hentry, if_true]

/-- The entries after a fault of the file system. -/
theorem entries_set_of_isOfSystem
    {fault : FolderFault}
    (hfailure : (f.set address document).2 = some fault)
    (hsystem : fault.isOfSystem = true) :
    (f.set address document).1.entries = f.entries := by
  rw [set_eq] at hfailure ⊢
  simp only [setFault?] at hfailure
  cases hdocument : document.isWritable with
  | false =>
      rw [hdocument] at hfailure
      obtain rfl := Option.some.inj hfailure
      cases hsystem
  | true =>
      rw [hdocument, if_pos rfl] at hfailure
      have hpart := (Json.partAt_eq_none_iff .indented document 0).mpr hdocument
      simp [entriesAfter, hpart, hfailure]

/-- What is written is read back. -/
theorem get_written
    {members : Members Json}
    (hlong : Entry.isTooLong (fileName address) = false)
    (hentry : f.entries.get? (fileName address) = some (.file (documentText (.object members))))
    (hreadable : Json.Readable (.object members)) :
    f.get address = .ok (some members) := by
  have hread : f.readFault? address = none := by
    simp [readFault?, hlong]
  rw [get_eq, hread, hentry]
  exact congrArg Except.ok (Cache.readObject?_textOf (.folder f) hreadable)

theorem writesWhole
    (f : CacheFolder)
    (address : String)
    (document : Json) :
    f.WritesWhole address document where
  succeeds_iff := snd_set_eq_none_iff
  replaced := by
    intro hsuccess
    rw [entries_set_of_snd_set_eq_none hsuccess]
    refine ⟨by rw [Members.get?_set, if_pos rfl], fun name hname => ?_⟩
    rw [Members.get?_set, if_neg hname]
  read_back := by
    rintro hsuccess hreadable members rfl
    refine get_written (snd_set_eq_none_iff.mp hsuccess).2.1 ?_ hreadable
    rw [entries_set_of_snd_set_eq_none hsuccess, Members.get?_set, if_pos rfl]
  unchanged := fun _ => entries_set_of_isOfSystem

theorem IsFresh.writesThrough
    {temporary : String}
    (htemporary : f.IsFresh temporary)
    (address : String)
    (document : Json) :
    f.WritesThrough temporary address document where
  removed := by
    intro hdocument
    refine ⟨setThrough_of_isWritable htemporary hdocument, ?_⟩
    have hpart := (Json.partAt_eq_none_iff .indented document 0).mpr hdocument
    rw [set_eq]
    simp only [entriesAfter, hpart]
    split
    · rw [Members.get?_set, if_neg (htemporary.ne_fileName address)]
      exact htemporary.free
    · exact htemporary.free
  remains := exists_part_of_not_isWritable htemporary
  whole := fun count _ => get?_run_take htemporary count
  undone := fun _ => entries_erase_run_take htemporary
  confined := fun _ hstep _ hname => (isPlain_of_mem_names htemporary hstep hname).leadsInto

/--
**Writes to a folder are atomic and confined.**  A write succeeds unless the document has no
text, or the name of the entry is too long or that of a folder.  If it succeeds the entry of
the address has the text of the document, from which an object is read back, and no other entry
changes; if the file system is at fault all is as before.  A write is through a temporary file
with a name that no entry has, and there always is one.  No entry is ever seen half written, and
a write that breaks off before its last step is undone.  Whatever text the address is, the names
of the files lead directly into the folder on every disk, and a read sees the entry of the
address only.

The temporary file remains of a document that has no text, and of such a document only.
-/
theorem folder_writes_are_atomic_and_confined
    (f : CacheFolder)
    (address : String)
    (document : Json) :
    f.WritesWhole address document ∧
      (∃ temporary, f.IsFresh temporary) ∧
      (∀ temporary, f.IsFresh temporary → f.WritesThrough temporary address document) ∧
      Disk.LeadsInto (fileName address) ∧
      ∀ f' : CacheFolder, f'.isThere = f.isThere →
        f'.entries.get? (fileName address) = f.entries.get? (fileName address) →
        f'.get address = f.get address :=
  ⟨writesWhole f address document, ⟨f.freshName, isFresh_freshName f⟩,
    fun _ htemporary => htemporary.writesThrough address document,
    (isPlain_fileName address).leadsInto, fun _ => get_congr⟩

/-- A folder in which one address has a file and another a folder. -/
def mixedFolder : CacheFolder where
  hasParent := true
  isThere := true
  entries := [("1.1.1.1.json", .file "\x7b\x7d"), ("8.8.8.8.json", .folder)]

/-- The file is replaced, the folder is not, and points lead nowhere else. -/
theorem mixed_folder_is_written_atomically :
    Json.Readable (.object [("status", .string "success")]) ∧
      (mixedFolder.set "1.1.1.1" (.object [("status", .string "success")])).1.get "1.1.1.1" =
        .ok (some [("status", .string "success")]) ∧
      (mixedFolder.set "8.8.8.8" (.object [("status", .string "success")])).1.entries =
        mixedFolder.entries ∧
      Disk.LeadsInto (fileName "../..") := by
  have hreadable : Json.Readable (.object [("status", .string "success")]) := by
    simp
  have hwritten : mixedFolder.setFault? "1.1.1.1" (.object [("status", .string "success")]) =
      none := by
    decide
  have hrefused : mixedFolder.setFault? "8.8.8.8" (.object [("status", .string "success")]) =
      some .isFolder := by
    decide
  have hfile := folder_writes_are_atomic_and_confined mixedFolder "1.1.1.1"
    (.object [("status", .string "success")])
  have hfolder := folder_writes_are_atomic_and_confined mixedFolder "8.8.8.8"
    (.object [("status", .string "success")])
  have hpoints := folder_writes_are_atomic_and_confined mixedFolder "../.." .null
  refine ⟨hreadable, hfile.1.read_back ?_ hreadable _ rfl, hfolder.1.unchanged .isFolder ?_ rfl,
    hpoints.2.2.2.1⟩
  · rwa [set_eq]
  · rwa [set_eq]

/--
Half of a surrogate pair is not written and leaves the temporary file.  Besides, a list is
written but not read back, and the first write makes the folder above.
-/
theorem unwritable_document_leaves_temporary_file :
    ((initial.set "8.8.8.8" (.object [("x", .halved .loneHalf)])).2 = some .unwritable ∧
      (initial.set "8.8.8.8" (.object [("x", .halved .loneHalf)])).1.entries =
        [(".ip-0.tmp", .file "\x7b\n  \"x\": ")]) ∧
      ((initial.set "8.8.8.8" (.array [.int 1])).2 = none ∧
        (initial.set "8.8.8.8" (.array [.int 1])).1.get "8.8.8.8" = .ok none) ∧
      initial.hasParent = false ∧
      (initial.set "8.8.8.8" (.object [])).1.hasParent = true := by
  have hlist : Json.Readable (.array [.int 1]) := by
    rw [Json.readable_array_iff, List.forall_mem_singleton]
    exact .int (by decide)
  have hwritten : (initial.set "8.8.8.8" (.array [.int 1])).2 = none := by
    rw [set_eq]
    decide
  refine ⟨⟨by rw [set_eq]; decide, by rw [set_eq]; decide⟩, ⟨hwritten, ?_⟩, rfl, by rw [set_eq]⟩
  have hread : (initial.set "8.8.8.8" (.array [.int 1])).1.readFault? "8.8.8.8" = none := by
    rw [set_eq]
    decide
  rw [get_eq, hread, entries_set_of_snd_set_eq_none hwritten, Members.get?_set, if_pos rfl]
  simp only [Entry.document?, readObject?, documentText,
    Json.read?_write Json.isPlain_indented hlist]

end Results

end CacheFolder
end Turnstile
