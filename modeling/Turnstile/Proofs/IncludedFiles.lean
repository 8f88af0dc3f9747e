import Turnstile.Action.Resolution
import Turnstile.Proofs.DiskPaths
import Turnstile.Proofs.RuleReading

/-!
# Included files

An action that includes a file gives the path of a file that is directly in the include root,
whatever the text that names the file: the last part of the text is the name of the file, and
last parts that are no names of entries lead to folders or nowhere.

**Results.**
* `isLastPart_iff`: the last part of a text.
* `exists_isFile_pathOf`: a file is looked up unless its name is too long.
* `Rule.directive_eq_includeFile_iff`: when a rule includes a file.
* `included_file_is_directly_in_root`: where an included file is.
-/

namespace Turnstile
namespace IncludeRoot

section LastPart

variable {text name : String}

/-- A name stands at the end of a text, after a slash or alone. -/
def IsLastPart
    (name text : String) : Prop :=
  '/' ∉ name.toList ∧ (text = name ∨ ∃ before, text = before ++ "/" ++ name)

theorem lastPart_of_not_mem
    (h : '/' ∉ text.toList) :
    lastPart text = text := by
  rw [lastPart, Text.pieces_of_not_mem h]
  exact String.ofList_toList

theorem lastPart_append
    (hname : '/' ∉ name.toList)
    (before : String) :
    lastPart (before ++ "/" ++ name) = name := by
  have hchars : (before ++ "/" ++ name).toList = before.toList ++ '/' :: name.toList := by simp
  rw [lastPart, hchars, Text.pieces_append_separator, Text.pieces_of_not_mem hname,
    List.getLastD_concat, String.ofList_toList]

theorem isLastPart_lastPart
    (text : String) :
    IsLastPart (lastPart text) text := by
  by_cases hslash : '/' ∈ text.toList
  · -- The last slash divides the text.
    obtain ⟨after, before, hreverse, hafter⟩ :=
      List.eq_append_cons_of_mem (List.mem_reverse.mpr hslash)
    have htext : text =
        String.ofList before.reverse ++ "/" ++ String.ofList after.reverse := by
      apply String.toList_injective
      simpa using congrArg List.reverse hreverse
    have hname : '/' ∉ (String.ofList after.reverse).toList := by simpa using hafter
    have hlast := lastPart_append hname (String.ofList before.reverse)
    rw [← htext] at hlast
    rw [hlast]
    exact ⟨hname, .inr ⟨_, htext⟩⟩
  · rw [lastPart_of_not_mem hslash]
    exact ⟨hslash, .inl rfl⟩

theorem isLastPart_iff :
    IsLastPart name text ↔ lastPart text = name := by
  constructor
  · rintro ⟨hname, rfl | ⟨before, rfl⟩⟩
    · exact lastPart_of_not_mem hname
    · exact lastPart_append hname before
  · rintro rfl
    exact isLastPart_lastPart text

end LastPart

section Lookups

variable (root : IncludeRoot) {text : String}

/-- A file is looked up unless its name is too long. -/
theorem exists_isFile_pathOf
    (hshort : isTooLong (lastPart text) = false) :
    ∃ found, root.disk.isFile (root.pathOf text) = .ok found := by
  have hslash := (isLastPart_lastPart text).1
  by_cases hname : Disk.IsName (lastPart text)
  · have hwalk := Disk.placeOf_join root.leads root.isFolder hslash
    rw [Disk.step_name root.isFolder hname] at hwalk
    rw [pathOf, Disk.isFile, hwalk]
    split
    · next place _ => cases root.disk place with
        | none => exact ⟨_, rfl⟩
        | some entry => cases entry <;> exact ⟨_, rfl⟩
    · exact ⟨_, rfl⟩
    · next h => split at h <;> cases h
  · rcases Disk.isFile_join_of_not_isName root.leads root.isFolder hslash hname with
      hnone | ⟨-, hnul, hlong⟩
    · exact ⟨false, hnone⟩
    · simp [isTooLong, hnul, hlong] at hshort

end Lookups

end IncludeRoot

section Directives

variable {r : Rule} {root : Option IncludeRoot} {address : String} {now : Moment} {path : String}

/-- A kind has the name by which it was found. -/
theorem ActionKind.name_of_ofName?
    {name : String}
    {kind : ActionKind}
    (h : ofName? name = some kind) :
    kind.name = name := by
  unfold ofName? at h
  have hname := List.find?_some h
  exact beq_iff_eq.mp hname

/-- An action that includes a file gives the file if the root holds it. -/
theorem Action.includeDirective_eq_iff
    {a : Action} :
    a.includeDirective root = .ok (some (.includeFile path)) ↔
      ∃ folder, root = some folder ∧ (a.datum "file").isTruthy = true ∧
        path = folder.pathOf (a.datum "file").display ∧ folder.disk.isFile path = .ok true := by
  cases root with
  | none =>
      simp [includeDirective]
  | some folder =>
      simp only [Option.some.injEq, exists_eq_left']
      unfold includeDirective
      cases htruthy : (a.datum "file").isTruthy with
      | false =>
          simp [htruthy]
      | true =>
          simp only [htruthy, Bool.not_true, Bool.false_eq_true, if_false, true_and]
          cases hfile : folder.disk.isFile (folder.pathOf (a.datum "file").display) with
          | error fault =>
              simp only [reduceCtorEq, false_iff, not_and]
              rintro rfl
              simp [hfile]
          | ok found =>
              cases found with
              | false =>
                  simp only [Bool.false_eq_true, if_false, Except.ok.injEq, reduceCtorEq,
                    false_iff, not_and]
                  rintro rfl
                  simp [hfile]
              | true =>
                  simp only [if_true, Except.ok.injEq, Option.some.injEq,
                    Directive.includeFile.injEq]
                  constructor
                  · rintro rfl
                    exact ⟨rfl, hfile⟩
                  · rintro ⟨rfl, -⟩
                    rfl

/-- Only an action of that kind includes a file. -/
theorem Action.directive_eq_includeFile_iff
    {a : Action} :
    a.directive root address now = .ok (some (.includeFile path)) ↔
      a.kind = ActionKind.includeFile.name ∧
        a.includeDirective root = .ok (some (.includeFile path)) := by
  by_cases hkind : a.kind = ActionKind.includeFile.name
  · have hname : ActionKind.ofName? ActionKind.includeFile.name = some .includeFile := rfl
    rw [Action.directive, hkind, hname]
    simp
  · simp only [hkind, false_and, iff_false]
    unfold Action.directive
    cases hof : ActionKind.ofName? a.kind with
    | none =>
        simp
    | some kind =>
        cases kind with
        | includeFile => exact absurd (ActionKind.name_of_ofName? hof).symm hkind
        | permanentRedirect | temporaryRedirect =>
            simp only [redirectDirective]
            cases a.target address now with
            | error fault => exact nofun
            | ok url => by_cases hurl : url = "" <;> simp [hurl]
        | echo =>
            simp only [echoDirective]
            split <;> simp
        | browserRedirect | html | script => simp

/-- When a rule includes a file. -/
theorem Rule.directive_eq_includeFile_iff :
    r.directive root address now = .ok (some (.includeFile path)) ↔
      ∃ a folder name text, r.action = some a ∧ a.kind = ActionKind.includeFile.name ∧
        root = some folder ∧ (a.datum "file").isTruthy = true ∧
        IncludeRoot.IsLastPart name (a.datum "file").display ∧ Disk.IsName name ∧
        folder.disk (folder.place ++ [name]) = some (.file text) ∧
        path = Disk.join folder.path name := by
  unfold Rule.directive
  cases haction : r.action with
  | none =>
      simp
  | some a =>
      simp only [Action.directive_eq_includeFile_iff, Action.includeDirective_eq_iff]
      constructor
      · rintro ⟨hkind, folder, hroot, htruthy, rfl, hfile⟩
        have hlast := IncludeRoot.isLastPart_lastPart (a.datum "file").display
        obtain ⟨hname, text, htext⟩ :=
          (Disk.isFile_join folder.leads folder.isFolder hlast.1).mp hfile
        exact ⟨a, folder, _, text, rfl, hkind, hroot, htruthy, hlast, hname, htext, rfl⟩
      · rintro ⟨a', folder, name, text, ha, hkind, hroot, htruthy, hlast, hname, htext, rfl⟩
        obtain rfl := Option.some.inj ha
        have hpath : Disk.join folder.path name = folder.pathOf (a.datum "file").display := by
          rw [IncludeRoot.pathOf, IncludeRoot.isLastPart_iff.mp hlast]
        refine ⟨hkind, folder, hroot, htruthy, hpath, ?_⟩
        exact (Disk.isFile_join folder.leads folder.isFolder hname.slash_not_mem).mpr
          ⟨hname, text, htext⟩

/--
**Included files are directly in the root.**  A rule that gives an include directive includes a
file directly in the include root: its path is that of the root with one name, which holds no
slash and is not empty and no point or two, and on the disk it leads to the place of the name
in the folder, where there is a file.  No path that leads elsewhere is given, and without a
root none is.  All files that are directly in the root can be included.
-/
theorem included_file_is_directly_in_root
    (r : Rule)
    (root : Option IncludeRoot)
    (address : String)
    (now : Moment) :
    (∀ path, r.directive root address now = .ok (some (.includeFile path)) →
      ∃ folder name text, root = some folder ∧ path = Disk.join folder.path name ∧
        Disk.IsPlain name ∧
        folder.disk.placeOf path = .ok (folder.place ++ [name]) ∧
        folder.disk (folder.place ++ [name]) = some (.file text)) ∧
    (∀ folder path, root = some folder →
      (∀ name, folder.disk.placeOf path ≠ .ok (folder.place ++ [name])) →
      r.directive root address now ≠ .ok (some (.includeFile path))) ∧
    (∀ a, r.action = some a → a.kind = ActionKind.includeFile.name →
      (root = none → r.directive root address now = .ok none) ∧
      ∀ folder name text, root = some folder → Disk.IsName name →
        folder.disk (folder.place ++ [name]) = some (.file text) →
        (a.datum "file").isTruthy = true →
        IncludeRoot.IsLastPart name (a.datum "file").display →
        r.directive root address now = .ok (some (.includeFile (Disk.join folder.path name)))) := by
  have hinside : ∀ path, r.directive root address now = .ok (some (.includeFile path)) →
      ∃ folder name text, root = some folder ∧ path = Disk.join folder.path name ∧
        Disk.IsPlain name ∧
        folder.disk.placeOf path = .ok (folder.place ++ [name]) ∧
        folder.disk (folder.place ++ [name]) = some (.file text) := by
    intro path hpath
    obtain ⟨a, folder, name, text, -, -, hroot, -, -, hname, htext, rfl⟩ :=
      Rule.directive_eq_includeFile_iff.mp hpath
    refine ⟨folder, name, text, hroot, rfl, hname.toIsPlain, ?_, htext⟩
    rw [Disk.placeOf_join folder.leads folder.isFolder hname.slash_not_mem,
      Disk.step_name folder.isFolder hname, htext]
    rfl
  refine ⟨hinside, ?_, ?_⟩
  · rintro folder path hroot helsewhere hpath
    obtain ⟨folder', name, text, hroot', -, -, hplace, -⟩ := hinside path hpath
    obtain rfl := Option.some.inj (hroot.symm.trans hroot')
    exact helsewhere name hplace
  · intro a haction hkind
    constructor
    · rintro rfl
      have hname : ActionKind.ofName? ActionKind.includeFile.name = some .includeFile := rfl
      rw [Rule.directive, haction]
      simp only
      rw [Action.directive, hkind, hname]
      rfl
    · intro folder name text hroot hname htext htruthy hlast
      exact Rule.directive_eq_includeFile_iff.mpr
        ⟨a, folder, name, text, haction, hkind, hroot, htruthy, hlast, hname, htext, rfl⟩

/-- A disk with a folder of pages and a file of passwords beside it. -/
def pagesDisk : Disk := fun place =>
  if place ∈ [["srv", "pages", "offer.html"], ["srv", "pages", "sub", "offer.html"],
      ["etc", "passwd"]] then some (.file "text")
  else if place ∈ [[], ["srv"], ["srv", "pages"], ["srv", "pages", "sub"], ["etc"]] then
    some .folder
  else none

/-- The folder of pages as the include root. -/
def pagesRoot : IncludeRoot :=
  ⟨"/srv/pages", pagesDisk, ["srv", "pages"], by decide, by decide⟩

/-- A rule that includes the file that a text names. -/
def fileRule
    (file : String) : Rule :=
  ⟨some "r1", true, Rule.defaultPriority, none, none, [], [.whole Rule.serverSide],
    some ⟨"server-include", [("file", .string file)]⟩, .null, []⟩

/-- A text that leads out of the root includes the file in the root that has its last part. -/
theorem leading_out_includes_file_in_root :
    (fileRule "../../etc/sub/offer.html").directive (some pagesRoot) "8.8.8.8" .first =
        .ok (some (.includeFile "/srv/pages/offer.html")) ∧
      (fileRule "../../etc/passwd").directive (some pagesRoot) "8.8.8.8" .first = .ok none ∧
      (fileRule "sub/..").directive (some pagesRoot) "8.8.8.8" .first = .ok none := by
  obtain ⟨-, -, hgiven⟩ := included_file_is_directly_in_root
    (fileRule "../../etc/sub/offer.html") (some pagesRoot) "8.8.8.8" .first
  have hlast : IncludeRoot.IsLastPart "offer.html" "../../etc/sub/offer.html" :=
    ⟨by decide, .inr ⟨"../../etc/sub", rfl⟩⟩
  exact ⟨(hgiven _ rfl rfl).2 pagesRoot "offer.html" "text" rfl (by decide) rfl rfl hlast,
    by decide, by decide⟩

end Directives

end Turnstile
