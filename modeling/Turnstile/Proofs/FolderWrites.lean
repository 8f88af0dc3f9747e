import Mathlib.Data.List.Nodup
import Mathlib.Data.List.Perm.Subperm
import Turnstile.Intel.Cache
import Turnstile.Proofs.Members

/-!
# Writing through a temporary file

A document is written to a temporary file, which then takes the place of the entry.  Until it
does, the folder differs from what it was in the temporary file only, so that it is as before
once that is removed.  It is removed after every fault of the file system, but not when the
document itself cannot be written.

**Names.**  A temporary file has a name of its own kind that no entry has, and such a name can
always be found.

**Results.**
* `isFresh_freshName`: there is a name for a temporary file.
* `run_take_writeSteps`: the folder after some of the steps of a write.
* `setThrough_eq`: what a write comes to.
-/

namespace Turnstile
namespace CacheFolder

section Names

/-- A name of a temporary file that no entry has. -/
structure IsFresh
    (f : CacheFolder)
    (name : String) : Prop where
  marked : ∃ middle, name = ".ip-" ++ middle ++ ".tmp" ∧ ∀ c ∈ middle.toList, isSafeChar c = true
  free : f.entries.get? name = none

theorem IsFresh.ne_fileName
    {f : CacheFolder}
    {name : String}
    (h : f.IsFresh name)
    (address : String) :
    name ≠ fileName address := by
  obtain ⟨middle, rfl, -⟩ := h.marked
  intro heq
  have hlast := congrArg (fun text => text.toList.reverse.head?) heq
  simp [fileName] at hlast

theorem temporaryName_inj
    {number number' : Nat}
    (h : temporaryName number = temporaryName number') :
    number = number' := by
  have hchars := congrArg String.toList h
  simp only [temporaryName, String.toList_append, List.append_cancel_left_eq,
    List.append_cancel_right_eq] at hchars
  have hdigits : Nat.toDigits 10 number = Nat.toDigits 10 number' := by
    simpa [← Nat.toList_repr] using hchars
  have hvalues := congrArg (Nat.ofDigitChars 10 · 0) hdigits
  simpa only [Nat.ofDigitChars_ten_toDigits] using hvalues

theorem isSafeChar_of_mem_toString
    {number : Nat}
    {c : Char}
    (h : c ∈ (toString number).toList) :
    isSafeChar c = true := by
  rw [show (toString number).toList = Nat.toDigits 10 number from Nat.toList_repr] at h
  have hdigit := Nat.isDigit_of_mem_toDigits (by omega) (by omega) h
  simp only [Char.isDigit, Bool.and_eq_true, decide_eq_true_eq] at hdigit
  have hrange : ('0' ≤ c && c ≤ '9') = true := by
    simpa [Char.le_def] using hdigit
  simp [isSafeChar, hrange]

/-- There are more names of temporary files than entries. -/
theorem isFresh_freshName
    (f : CacheFolder) :
    f.IsFresh f.freshName := by
  unfold freshName
  simp only
  cases hfind : ((List.range (f.entries.length + 1)).map temporaryName).find?
      fun name => (f.entries.get? name).isNone with
  | some name =>
      obtain ⟨number, -, rfl⟩ := List.mem_map.mp (List.mem_of_find?_eq_some hfind)
      exact ⟨⟨toString number, rfl, fun _ => isSafeChar_of_mem_toString⟩,
        by simpa using List.find?_some hfind⟩
  | none =>
      have hnodup : ((List.range (f.entries.length + 1)).map temporaryName).Nodup :=
        List.Nodup.map (fun _ _ => temporaryName_inj) List.nodup_range
      have htaken : (List.range (f.entries.length + 1)).map temporaryName ⊆
          f.entries.map Prod.fst := by
        intro name hname
        by_contra hfree
        have hsome := List.find?_eq_none.mp hfind name hname
        rw [Members.get?_eq_none_iff.mpr hfree] at hsome
        exact hsome rfl
      have hlength := (List.subperm_of_subset hnodup htaken).length_le
      rw [List.length_map, List.length_map, List.length_range] at hlength
      exact absurd hlength (Nat.not_succ_le_self _)

end Names

section Faults

/-- Why an address is not read from a folder. -/
def readFault?
    (f : CacheFolder)
    (address : String) : Option FolderFault :=
  if f.isThere && Entry.isTooLong (fileName address) then some .nameTooLong else none

/-- Why no document of an address is written to a folder. -/
def writeFault?
    (f : CacheFolder)
    (address : String) : Option FolderFault :=
  if Entry.isTooLong (fileName address) then some .nameTooLong
  else if f.entries.get? (fileName address) = some .folder then some .isFolder
  else none

/-- Why a document of an address is not written to a folder. -/
def setFault?
    (f : CacheFolder)
    (address : String)
    (document : Json) : Option FolderFault :=
  if document.isWritable then f.writeFault? address else some .unwritable

end Faults

section Writes

variable {f : CacheFolder} {temporary : String}

/-- Before the last step of a write the temporary file is all that may have been changed. -/
theorem run_take_writeSteps
    (f : CacheFolder)
    (temporary address : String)
    (document : Json)
    {count : Nat}
    (hcount : count < 4) :
    ∃ left, f.run ((writeSteps temporary address document).take count) = (left, none) ∧
      (left.entries = f.entries ∨
        ∃ text, left.entries = f.entries.set temporary (.file text)) := by
  have hsteps : ∃ text last, writeSteps temporary address document =
      [.make, .create temporary, .fill temporary text, last] := by
    unfold writeSteps
    cases Json.partAt .indented 0 document with
    | none => exact ⟨_, _, rfl⟩
    | some part => exact ⟨_, _, rfl⟩
  obtain ⟨text, last, hsteps⟩ := hsteps
  rw [hsteps]
  match count, hcount with
  | 0, _ => exact ⟨_, rfl, .inl rfl⟩
  | 1, _ => exact ⟨_, rfl, .inl rfl⟩
  | 2, _ => exact ⟨_, rfl, .inr ⟨_, rfl⟩⟩
  | 3, _ => exact ⟨_, rfl, .inr ⟨text, Members.set_set f.entries _ _ _⟩⟩

/-- Without the temporary file the folder is as it was. -/
theorem erase_set_of_isFresh
    (htemporary : f.IsFresh temporary)
    (entry : Entry) :
    (f.entries.set temporary entry).erase temporary = f.entries := by
  rw [Members.erase_set, Members.erase_of_not_mem (Members.get?_eq_none_iff.mp htemporary.free)]

/-- The temporary file takes the place of the entry. -/
theorem renamed_set
    (htemporary : f.IsFresh temporary)
    (entry : Entry)
    (name : String) :
    renamed (f.entries.set temporary entry) temporary name = f.entries.set name entry := by
  rw [renamed, Members.get?_set, if_pos rfl]
  simp only
  rw [erase_set_of_isFresh htemporary]

/-- A document that is written in part only cannot be written. -/
theorem isWritable_eq_false_of_partAt
    {document : Json}
    {part : String}
    (hpart : Json.partAt .indented 0 document = some part) :
    document.isWritable = false := by
  rw [← Bool.not_eq_true, ← Json.partAt_eq_none_iff .indented document 0, hpart]
  exact nofun

/-- The entries after a write through a temporary file. -/
def entriesAfter
    (f : CacheFolder)
    (temporary address : String)
    (document : Json) : Members Entry :=
  match Json.partAt .indented 0 document with
  | some part => f.entries.set temporary (.file part)
  | none =>
      if f.writeFault? address = none then
        f.entries.set (fileName address) (.file (documentText document))
      else f.entries

/--
A write makes the folder, and replaces the entry of the address or nothing; a document that
cannot be written leaves a temporary file.
-/
theorem setThrough_eq
    (htemporary : f.IsFresh temporary)
    (address : String)
    (document : Json) :
    f.setThrough temporary address document =
      (⟨true, true, f.entriesAfter temporary address document⟩, f.setFault? address document) := by
  have hentry : ∀ entry, (f.entries.set temporary entry).get? (fileName address) =
      f.entries.get? (fileName address) := by
    intro entry
    rw [Members.get?_set, if_neg (htemporary.ne_fileName address).symm]
  unfold setThrough writeSteps entriesAfter setFault?
  cases hpart : Json.partAt .indented 0 document with
  | some part =>
      have hfalse := isWritable_eq_false_of_partAt hpart
      simp [hfalse, run, does, Members.set_set, FolderFault.isOfSystem]
  | none =>
      rw [if_pos ((Json.partAt_eq_none_iff .indented document 0).mp hpart), writeFault?]
      simp only [run, does, Members.set_set, hentry]
      by_cases hlong : Entry.isTooLong (fileName address) = true
      · simp [hlong, erase_set_of_isFresh htemporary, FolderFault.isOfSystem]
      · by_cases hfolder : f.entries.get? (fileName address) = some .folder
        · simp [hlong, hfolder, erase_set_of_isFresh htemporary, FolderFault.isOfSystem]
        · simp [hlong, hfolder, renamed_set htemporary]

/-- Entries under the names of addresses are replaced by a write that succeeds only. -/
theorem get?_entriesAfter
    (htemporary : f.IsFresh temporary)
    (address : String)
    (document : Json)
    (address' : String) :
    (f.entriesAfter temporary address document).get? (fileName address') =
      if f.setFault? address document = none ∧ fileName address' = fileName address then
        some (.file (documentText document))
      else f.entries.get? (fileName address') := by
  unfold entriesAfter setFault?
  cases hpart : Json.partAt .indented 0 document with
  | some part =>
      have hfalse := isWritable_eq_false_of_partAt hpart
      simp [hfalse, Members.get?_set, (htemporary.ne_fileName address').symm]
  | none =>
      rw [if_pos ((Json.partAt_eq_none_iff .indented document 0).mp hpart)]
      by_cases hfault : f.writeFault? address = none
      · simp [hfault, Members.get?_set]
      · simp [hfault]

end Writes

end CacheFolder
end Turnstile
