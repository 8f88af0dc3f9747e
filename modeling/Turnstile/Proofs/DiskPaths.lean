import Turnstile.Proofs.Pieces
import Turnstile.Store.Disk

/-!
# Paths on a disk

A path that is joined to that of a folder with a name leads to the entry of that name in the
folder, or nowhere.  A name without slashes that is no name of an entry, because it is empty
or consists of one or two points, leads to a folder.

**Above an entry.**  A path leads through folders only, so whatever stands above the place to
which it leads is a folder.

**Results.**
* `placeOf_join`: where a joined path leads.
* `IsPlain.leadsInto`: plain names lead directly into the folder.
* `isFolder_of_above`: what stands above a place to which a path leads.
* `isFile_join`: the joined paths that lead to files.
-/

namespace Turnstile
namespace Disk

section Names

/-- A name that leads to an entry of a folder, if anywhere. -/
structure IsPlain
    (name : String) : Prop where
  ne_empty : name ≠ ""
  ne_point : name ≠ "."
  ne_points : name ≠ ".."
  slash_not_mem : '/' ∉ name.toList

/-- A name that an entry can have. -/
structure IsName
    (name : String) : Prop extends IsPlain name where
  nul_not_mem : Char.ofNat 0 ∉ name.toList
  short : Entry.isTooLong name = false

instance (name : String) : Decidable (IsName name) :=
  decidable_of_iff
    ((name ≠ "" ∧ name ≠ "." ∧ name ≠ ".." ∧ '/' ∉ name.toList) ∧
      Char.ofNat 0 ∉ name.toList ∧ Entry.isTooLong name = false)
    ⟨fun ⟨⟨h₁, h₂, h₃, h₄⟩, h₅, h₆⟩ => ⟨⟨h₁, h₂, h₃, h₄⟩, h₅, h₆⟩,
      fun h => ⟨⟨h.ne_empty, h.ne_point, h.ne_points, h.slash_not_mem⟩, h.nul_not_mem, h.short⟩⟩

theorem parts_of_not_mem
    {name : String}
    (h : '/' ∉ name.toList) :
    parts name = [name] := by
  rw [parts, Text.pieces_of_not_mem h, List.map_singleton, String.ofList_toList]

/-- A slash ends the parts before it and starts those after it. -/
theorem parts_append_slash
    {path start finish : String}
    (h : path.toList = start.toList ++ '/' :: finish.toList) :
    parts path = parts start ++ parts finish := by
  rw [parts, h, Text.pieces_append_separator, List.map_append, parts, parts]

end Names

section Steps

variable {disk : Disk} {place place' : List String} {part : String}

/-- Where a part of a path leads: it stays, goes up, or goes on to an entry. -/
theorem step_cases
    (h : disk.step place part = .ok place') :
    disk place = some .folder ∧
      (place' = place ∨ place' = place.dropLast ∨ place' = place ++ [part]) := by
  unfold step at h
  split at h
  · cases h
  · next hfolder =>
      refine ⟨not_not.mp hfolder, ?_⟩
      split at h
      · exact .inl (Except.ok.inj h).symm
      split at h
      · exact .inr (.inl (Except.ok.inj h).symm)
      split at h
      · cases h
      split at h
      · cases h
      split at h
      · exact .inr (.inr (Except.ok.inj h).symm)
      · cases h

theorem step_stays
    (hfolder : disk place = some .folder)
    (hpart : part = "" ∨ part = ".") :
    disk.step place part = .ok place := by
  rw [step, if_neg (not_not.mpr hfolder), if_pos hpart]

theorem step_up
    (hfolder : disk place = some .folder) :
    disk.step place ".." = .ok place.dropLast := by
  rw [step, if_neg (not_not.mpr hfolder), if_neg (by decide), if_pos rfl]

/-- A plain name leads to an entry of the folder. -/
theorem eq_append_of_step
    (hplain : IsPlain part)
    (h : disk.step place part = .ok place') :
    place' = place ++ [part] := by
  rw [step, if_neg (not_not.mpr (step_cases h).1),
    if_neg (by simp [hplain.ne_empty, hplain.ne_point]), if_neg hplain.ne_points] at h
  split at h
  · cases h
  split at h
  · cases h
  split at h
  · exact (Except.ok.inj h).symm
  · cases h

/-- The name of an entry leads to it. -/
theorem step_name
    (hfolder : disk place = some .folder)
    (hname : IsName part) :
    disk.step place part =
      if (disk (place ++ [part])).isSome then .ok (place ++ [part]) else .error .notFound := by
  rw [step, if_neg (not_not.mpr hfolder), if_neg (by simp [hname.ne_empty, hname.ne_point]),
    if_neg hname.ne_points, if_neg (by simpa using hname.nul_not_mem),
    if_neg (by simp [hname.short])]

end Steps

section Walks

variable {disk : Disk} {place : List String} {path name : String}

/-- What stands above the place to which a path leads is a folder. -/
theorem isFolder_of_above
    (hleads : disk.placeOf path = .ok place)
    {above : List String}
    (habove : above <+: place)
    (hne : above ≠ place) :
    disk above = some .folder := by
  suffices h : ∀ (ps start : List String),
      (∀ above, above <+: start → above ≠ start → disk above = some .folder) →
      ps.foldlM disk.step start = .ok place →
      ∀ above, above <+: place → above ≠ place → disk above = some .folder by
    refine h (parts path) [] ?_ hleads above habove hne
    intro above habove hne
    exact absurd (List.prefix_nil.mp habove) hne
  intro ps
  induction ps with
  | nil =>
      intro start hstart hwalk
      obtain rfl := Except.ok.inj hwalk
      exact hstart
  | cons part ps ih =>
      intro start hstart hwalk
      rw [List.foldlM_cons] at hwalk
      cases hstep : disk.step start part with
      | error fault =>
          rw [hstep] at hwalk
          cases hwalk
      | ok next =>
          rw [hstep] at hwalk
          refine ih next ?_ hwalk
          obtain ⟨hfolder, hnext⟩ := step_cases hstep
          intro above habove hne
          rcases hnext with rfl | rfl | rfl
          · exact hstart above habove hne
          · -- Above the folder that was left there are only places above the one it stands in.
            refine hstart above (habove.trans (List.dropLast_prefix start)) ?_
            rintro rfl
            exact hne (habove.eq_of_length_le (List.dropLast_prefix above).length_le)
          · rcases List.prefix_concat_iff.mp habove with rfl | habove
            · exact absurd rfl hne
            · by_cases hself : above = start
              · rw [hself, hfolder]
              · exact hstart above habove hself

/-- A name that does not stay in the folder leads on from where the path leads. -/
theorem placeOf_join_eq
    (disk : Disk)
    (path : String)
    (hleaves : ¬ (name = "" ∨ name = "."))
    (hslash : '/' ∉ name.toList) :
    disk.placeOf (join path name) = disk.placeOf path >>= (disk.step · name) := by
  have hparts : parts name = [name] := parts_of_not_mem hslash
  have hone : ∀ (part : String) start, [part].foldlM disk.step start = disk.step start part := by
    intro part start
    rw [List.foldlM_cons]
    cases disk.step start part <;> rfl
  rw [join, if_neg hleaves]
  split
  · next hlast =>
      -- The closing slash of the path is the one before the name.
      obtain ⟨start, hstart⟩ := List.getLast?_eq_some_iff.mp hlast
      have hpath : parts path = parts (String.ofList start) ++ [""] := by
        rw [← @parts_of_not_mem "" (by decide)]
        exact parts_append_slash (by simp [hstart])
      have hjoined : parts (path ++ name) = parts (String.ofList start) ++ [name] := by
        rw [← hparts]
        exact parts_append_slash (by simp [hstart])
      rw [placeOf, placeOf, hpath, hjoined, List.foldlM_append, List.foldlM_append]
      cases (parts (String.ofList start)).foldlM disk.step [] with
      | error fault =>
          rfl
      | ok before =>
          simp only [bind, Except.bind, hone]
          by_cases hfolder : disk before = some .folder
          · rw [step_stays hfolder (.inl rfl)]
          · have hnowhere : ∀ part, disk.step before part = .error .notFound :=
              fun part => if_pos hfolder
            rw [hnowhere, hnowhere]
  · have hjoined : parts (path ++ "/" ++ name) = parts path ++ [name] := by
      rw [← hparts]
      exact parts_append_slash (by simp)
    rw [placeOf, placeOf, hjoined, List.foldlM_append]
    exact bind_congr (hone name)

/-- A path that is joined to that of a folder with a name leads on from the folder. -/
theorem placeOf_join
    (hleads : disk.placeOf path = .ok place)
    (hfolder : disk place = some .folder)
    (hslash : '/' ∉ name.toList) :
    disk.placeOf (join path name) = disk.step place name := by
  by_cases hstays : name = "" ∨ name = "."
  · rw [join, if_pos hstays, hleads, step_stays hfolder hstays]
  · rw [placeOf_join_eq disk path hstays hslash, hleads]
    rfl

/-- A path with a plain name leads directly into the folder, or nowhere. -/
theorem exists_of_placeOf_join
    {place' : List String}
    (hplain : IsPlain name)
    (h : disk.placeOf (join path name) = .ok place') :
    ∃ place, disk.placeOf path = .ok place ∧ disk place = some .folder ∧
      place' = place ++ [name] := by
  rw [placeOf_join_eq disk path (by simp [hplain.ne_empty, hplain.ne_point])
    hplain.slash_not_mem] at h
  cases hleads : disk.placeOf path with
  | error fault =>
      rw [hleads] at h
      cases h
  | ok place =>
      rw [hleads] at h
      exact ⟨place, rfl, (step_cases h).1, eq_append_of_step hplain h⟩

/-- On every disk the path with the name in a folder leads into the folder, or nowhere. -/
def LeadsInto
    (name : String) : Prop :=
  ∀ (disk : Disk) (path : String) (place' : List String),
    disk.placeOf (join path name) = .ok place' →
      ∃ place, disk.placeOf path = .ok place ∧ disk place = some .folder ∧ place' = place ++ [name]

theorem IsPlain.leadsInto
    (hplain : IsPlain name) :
    LeadsInto name :=
  fun _ _ _ => exists_of_placeOf_join hplain

/-- A path that leads to a folder leads to no file. -/
theorem isFile_of_folder
    (hleads : disk.placeOf path = .ok place)
    (hfolder : disk place = some .folder) :
    disk.isFile path = .ok false := by
  rw [isFile, hleads]
  simp only [hfolder]

/-- A joined path leads to what the folder holds under a name of an entry. -/
theorem isFile_join_of_isName
    (hleads : disk.placeOf path = .ok place)
    (hfolder : disk place = some .folder)
    (hname : IsName name) :
    disk.isFile (join path name) = .ok true ↔
      ∃ text, disk (place ++ [name]) = some (.file text) := by
  rw [isFile, placeOf_join hleads hfolder hname.slash_not_mem, step_name hfolder hname]
  cases hentry : disk (place ++ [name]) with
  | none => simp
  | some entry => cases entry <;> simp [hentry]

/-- What is no name of an entry leads to no file, or is too long. -/
theorem isFile_join_of_not_isName
    (hleads : disk.placeOf path = .ok place)
    (hfolder : disk place = some .folder)
    (hslash : '/' ∉ name.toList)
    (hname : ¬ IsName name) :
    disk.isFile (join path name) = .ok false ∨
      disk.isFile (join path name) = .error .nameTooLong ∧
        Char.ofNat 0 ∉ name.toList ∧ Entry.isTooLong name = true := by
  have hjoin := placeOf_join hleads hfolder hslash
  by_cases hstays : name = "" ∨ name = "."
  · rw [step_stays hfolder hstays] at hjoin
    exact .inl (isFile_of_folder hjoin hfolder)
  by_cases hup : name = ".."
  · subst hup
    rw [step_up hfolder] at hjoin
    refine .inl (isFile_of_folder hjoin ?_)
    by_cases htop : place.dropLast = place
    · rw [htop, hfolder]
    · exact isFolder_of_above hleads (List.dropLast_prefix place) htop
  by_cases hnul : Char.ofNat 0 ∈ name.toList
  · rw [step, if_neg (not_not.mpr hfolder), if_neg hstays, if_neg hup,
      if_pos (by simpa using hnul)] at hjoin
    rw [isFile, hjoin]
    exact .inl rfl
  · have hlong : Entry.isTooLong name = true := by
      by_contra hshort
      rw [not_or] at hstays
      exact hname ⟨⟨hstays.1, hstays.2, hup, hslash⟩, hnul, by simpa using hshort⟩
    rw [step, if_neg (not_not.mpr hfolder), if_neg hstays, if_neg hup,
      if_neg (by simpa using hnul), if_pos hlong] at hjoin
    rw [isFile, hjoin]
    exact .inr ⟨rfl, hnul, hlong⟩

/-- A joined path leads to a file iff the folder holds a file under the name. -/
theorem isFile_join
    (hleads : disk.placeOf path = .ok place)
    (hfolder : disk place = some .folder)
    (hslash : '/' ∉ name.toList) :
    disk.isFile (join path name) = .ok true ↔
      IsName name ∧ ∃ text, disk (place ++ [name]) = some (.file text) := by
  by_cases hname : IsName name
  · rw [isFile_join_of_isName hleads hfolder hname, and_iff_right hname]
  · rcases isFile_join_of_not_isName hleads hfolder hslash hname with hnone | ⟨hfault, -⟩
    · simp [hnone, hname]
    · simp [hfault, hname]

end Walks

end Disk
end Turnstile
