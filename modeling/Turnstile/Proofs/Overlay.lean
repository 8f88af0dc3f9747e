import Mathlib.Data.List.Nodup
import Turnstile.Proofs.Members

/-!
# Members laid over others

Members are laid over others one by one: each value takes the place of an earlier one of its
name, or goes to the end if there is none.  So the names that were there stay where they are,
the new ones follow in the order of their first appearance, and under a name stands the last
value that was laid there.  Reading a list of pairs as members is laying it over nothing.

**Results.**
* `get?_overlay`: what stands under a name.
* `names_overlay`: the names and their order.
* `get?_perm`: the order of members with distinct names does not matter to what stands under
  a name.
-/

namespace Turnstile
namespace Members

section Distinct

variable {α : Type} {members members' : Members α}

/-- Of members with distinct names each is the one that stands under its name. -/
theorem get?_eq_some_iff_mem
    (hnames : (members.map Prod.fst).Nodup)
    {name : String}
    {value : α} :
    members.get? name = some value ↔ (name, value) ∈ members := by
  induction members with
  | nil =>
      simp [get?]
  | cons member rest ih =>
      obtain ⟨hfresh, hrest⟩ := List.nodup_cons.mp hnames
      have htail := ih hrest
      unfold get? at htail ⊢
      by_cases hname : member.1 = name
      · subst hname
        have hnone : ∀ v, (member.1, v) ∉ rest :=
          fun v hmem => hfresh (List.mem_map.mpr ⟨_, hmem, rfl⟩)
        simp [hnone, Prod.ext_iff, eq_comm]
      · have hne : ¬ (name, value) = member := fun h => hname (by rw [← h])
        simpa [hname, hne] using htail

/-- Members with distinct names stand under them in any order. -/
theorem get?_perm
    (hnames : (members.map Prod.fst).Nodup)
    (h : members.Perm members')
    (name : String) :
    members.get? name = members'.get? name := by
  have hnames' : (members'.map Prod.fst).Nodup := (h.map Prod.fst).nodup_iff.mp hnames
  ext value
  rw [get?_eq_some_iff_mem hnames, get?_eq_some_iff_mem hnames', h.mem_iff]

end Distinct

section Last

variable {α : Type} {pairs : Members α} {name : String}

/-- The last value that pairs have under a name. -/
def last?
    (pairs : Members α)
    (name : String) : Option α :=
  get? pairs.reverse name

/-- The last value under a name stands in a pair after which no other has the name. -/
theorem last?_eq_some_iff
    {value : α} :
    last? pairs name = some value ↔
      ∃ before after, pairs = before ++ (name, value) :: after ∧ name ∉ after.map Prod.fst := by
  simp only [last?, get?, Option.map_eq_some_iff, List.find?_eq_some_iff_append]
  constructor
  · rintro ⟨⟨found, _⟩, ⟨hfound, before, after, hpairs, hbefore⟩, rfl⟩
    obtain rfl : found = name := by simpa using hfound
    refine ⟨after.reverse, before.reverse, ?_, ?_⟩
    · rw [← List.reverse_reverse pairs, hpairs]
      simp
    · intro hmem
      obtain ⟨member, hmember, hname⟩ := List.mem_map.mp hmem
      simpa [hname] using hbefore member (List.mem_reverse.mp hmember)
  · rintro ⟨before, after, rfl, hafter⟩
    refine ⟨(name, value), ⟨by simp, after.reverse, before.reverse, by simp, ?_⟩, rfl⟩
    intro member hmember
    have hne : member.1 ≠ name := by
      rintro rfl
      exact hafter (List.mem_map.mpr ⟨member, List.mem_reverse.mp hmember, rfl⟩)
    simpa using hne

/-- Of pairs with distinct names the only value under a name is the last one. -/
theorem last?_of_nodup
    (hnames : (pairs.map Prod.fst).Nodup)
    (name : String) :
    last? pairs name = pairs.get? name :=
  (get?_perm hnames pairs.reverse_perm.symm name).symm

end Last

section Overlay

variable {α : Type}

theorem overlay_cons
    (base : Members α)
    (member : String × α)
    (upper : Members α) :
    overlay base (member :: upper) = overlay (base.set member.1 member.2) upper :=
  rfl

/-- Under a name stands the last value that was laid there, or else the one that was there. -/
theorem get?_overlay
    (base upper : Members α)
    (name : String) :
    (overlay base upper).get? name = (last? upper name).or (base.get? name) := by
  induction upper generalizing base with
  | nil =>
      rfl
  | cons member rest ih =>
      rw [overlay_cons, ih, get?_set, last?, last?, List.reverse_cons, get?_append, Option.or_assoc]
      by_cases hname : name = member.1
      · simp [get?, hname]
      · simp [get?, hname, Ne.symm hname]

theorem names_set
    (members : Members α)
    (name : String)
    (value : α) :
    (members.set name value).map Prod.fst =
      if name ∈ members.map Prod.fst then members.map Prod.fst
      else members.map Prod.fst ++ [name] := by
  induction members with
  | nil =>
      rfl
  | cons member rest ih =>
      rw [set]
      by_cases hname : member.1 = name
      · simp [hname]
      · rw [if_neg (by simpa using hname), List.map_cons, ih]
        by_cases hmem : name ∈ rest.map Prod.fst
        · simp [hmem]
        · simp [hmem, Ne.symm hname]

/-- The names that were there stay in place, and the new ones follow as they first appear. -/
theorem names_overlay
    (base upper : Members α) :
    (overlay base upper).map Prod.fst =
      base.map Prod.fst ++
        ((upper.map Prod.fst).filter (· ∉ base.map Prod.fst)).eraseDups := by
  induction upper generalizing base with
  | nil =>
      simp [overlay]
  | cons member rest ih =>
      rw [overlay_cons, ih, names_set]
      by_cases hmem : member.1 ∈ base.map Prod.fst
      · rw [if_pos hmem, List.map_cons, List.filter_cons_of_neg (by simpa using hmem)]
      · rw [if_neg hmem, List.map_cons, List.filter_cons_of_pos (by simpa using hmem),
          List.eraseDups_cons, List.append_assoc, List.singleton_append, List.filter_filter]
        congr 3
        apply List.filter_congr
        intro name _
        rw [Bool.eq_iff_iff]
        simp only [List.mem_append, List.mem_singleton, not_or, decide_eq_true_eq, Bool.and_eq_true,
          Bool.not_eq_true', beq_eq_false_iff_ne, ne_eq, and_comm]

/-- Distinct names are no repetitions. -/
theorem eraseDups_of_nodup
    {names : List String}
    (h : names.Nodup) :
    names.eraseDups = names := by
  induction names with
  | nil =>
      rfl
  | cons name rest ih =>
      obtain ⟨hfresh, hrest⟩ := List.nodup_cons.mp h
      have hkept : (rest.filter fun other => !other == name) = rest := by
        rw [List.filter_eq_self]
        intro other hother
        simpa using ne_of_mem_of_not_mem hother hfresh
      rw [List.eraseDups_cons, hkept, ih hrest]

/-- Laying members with distinct names over others brings each new name once. -/
theorem names_overlay_of_nodup
    {base upper : Members α}
    (hnames : (upper.map Prod.fst).Nodup) :
    (overlay base upper).map Prod.fst =
      base.map Prod.fst ++ (upper.map Prod.fst).filter (· ∉ base.map Prod.fst) := by
  rw [names_overlay, eraseDups_of_nodup (hnames.filter _)]

/-- Names stay distinct when members are laid over others. -/
theorem nodup_overlay
    {base : Members α}
    (hnames : (base.map Prod.fst).Nodup)
    (upper : Members α) :
    ((overlay base upper).map Prod.fst).Nodup := by
  induction upper generalizing base with
  | nil => exact hnames
  | cons member rest ih => exact ih (nodup_set hnames member.1 member.2)

end Overlay

section Erase

variable {α : Type}

theorem get?_erase
    (members : Members α)
    (name key : String) :
    (members.erase name).get? key = if key = name then none else members.get? key := by
  induction members with
  | nil =>
      exact (ite_self none).symm
  | cons member rest ih =>
      unfold erase get? at ih ⊢
      by_cases hname : member.1 = name
      · rw [List.filter_cons_of_neg (by simpa using hname), ih]
        by_cases hkey : key = name
        · simp [hkey]
        · simp [hkey, hname, Ne.symm hkey]
      · rw [List.filter_cons_of_pos (by simpa using hname)]
        by_cases hmember : member.1 = key
        · subst hmember
          simp [hname]
        · simpa [hmember] using ih

theorem names_erase
    (members : Members α)
    (name : String) :
    (members.erase name).map Prod.fst = (members.map Prod.fst).filter (· != name) := by
  rw [erase, List.filter_map]
  rfl

end Erase

section Pairs

variable {α : Type}

/-- Under a name stands the last value that a list of pairs has for it. -/
theorem get?_ofList
    (pairs : Members α)
    (name : String) :
    (ofList pairs).get? name = last? pairs name :=
  (get?_overlay [] pairs name).trans (Option.or_none)

/-- Each name has the position at which it first appears. -/
theorem names_ofList
    (pairs : Members α) :
    (ofList pairs).map Prod.fst = (pairs.map Prod.fst).eraseDups := by
  have hnames := names_overlay [] pairs
  rwa [List.map_nil, List.nil_append, List.filter_eq_self.mpr (by simp)] at hnames

end Pairs

end Members
end Turnstile
