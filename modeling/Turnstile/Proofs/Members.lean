import Turnstile.Json.Basic

/-!
# Members under names

What stands under a name after members were changed, kept or joined.
-/

namespace Turnstile

section Lookup

variable {α β : Type}

/-- Changing values in place changes what stands under a name. -/
theorem Members.get?_map
    (f : String → α → β)
    (members : Members α)
    (name : String) :
    Members.get? (members.map fun member => (member.1, f member.1 member.2)) name =
      (members.get? name).map (f name) := by
  induction members with
  | nil =>
      rfl
  | cons member rest ih =>
      unfold Members.get? at ih ⊢
      by_cases h : member.1 = name
      · simp [h]
      · simpa [h] using ih

/-- Members that are kept stand under their names as before. -/
theorem Members.get?_filter
    (keep : List String)
    (members : Members α)
    {name : String}
    (hname : name ∈ keep) :
    Members.get? (members.filter fun member => keep.contains member.1) name =
      members.get? name := by
  induction members with
  | nil =>
      rfl
  | cons member rest ih =>
      unfold Members.get? at ih ⊢
      by_cases h : member.1 = name
      · simp [h, hname]
      · by_cases hmem : member.1 ∈ keep
        · simpa [h, hmem] using ih
        · simpa [h, hmem] using ih

theorem Members.get?_append
    (before after : Members α)
    (name : String) :
    Members.get? (before ++ after) name = (before.get? name).or (after.get? name) := by
  unfold Members.get?
  rw [List.find?_append]
  cases before.find? (·.1 == name) with
  | none => rfl
  | some member => rfl

theorem Members.get?_eq_none_iff
    {members : Members α}
    {name : String} :
    members.get? name = none ↔ name ∉ members.map Prod.fst := by
  rw [Members.get?, Option.map_eq_none_iff, List.find?_eq_none]
  constructor
  · intro h hmem
    obtain ⟨member, hmember, hname⟩ := List.mem_map.mp hmem
    exact h member hmember (by simpa using hname)
  · intro h member hmember hname
    exact h (List.mem_map.mpr ⟨member, hmember, by simpa using hname⟩)

theorem Members.get?_append_cons_of_ne
    {name name' : String}
    (hname : name' ≠ name)
    (before after : Members α)
    (value : α) :
    Members.get? (before ++ (name', value) :: after) name =
      Members.get? (before ++ after) name := by
  simp [Members.get?, List.find?_append, hname]

end Lookup

section Naming

variable {α : Type}

theorem Members.set_of_not_mem
    {members : Members α}
    {name : String}
    (hname : name ∉ members.map Prod.fst)
    (value : α) :
    members.set name value = members ++ [(name, value)] := by
  induction members with
  | nil =>
      rfl
  | cons member rest ih =>
      rw [List.map_cons, List.mem_cons, not_or] at hname
      have hne : ¬ member.1 = name := fun h => hname.1 h.symm
      rw [Members.set, if_neg (by simpa using hne), ih hname.2, List.cons_append]

theorem Members.mem_set
    {members : Members α}
    {name : String}
    {value : α}
    {member : String × α}
    (hmem : member ∈ members.set name value) :
    member ∈ members ∨ member = (name, value) := by
  induction members with
  | nil =>
      exact .inr (List.mem_singleton.mp hmem)
  | cons first rest ih =>
      rw [Members.set] at hmem
      by_cases h : first.1 = name
      · rw [if_pos (by simpa using h)] at hmem
        rcases List.mem_cons.mp hmem with rfl | hmem
        · exact .inr (by rw [h])
        · exact .inl (List.mem_cons_of_mem first hmem)
      · rw [if_neg (by simpa using h)] at hmem
        rcases List.mem_cons.mp hmem with rfl | hmem
        · exact .inl List.mem_cons_self
        · rcases ih hmem with hmem | hmem
          · exact .inl (List.mem_cons_of_mem first hmem)
          · exact .inr hmem

theorem Members.nodup_set
    {members : Members α}
    (hnames : (members.map Prod.fst).Nodup)
    (name : String)
    (value : α) :
    ((members.set name value).map Prod.fst).Nodup := by
  induction members with
  | nil =>
      simp [Members.set]
  | cons first rest ih =>
      obtain ⟨hfresh, hrest⟩ := List.nodup_cons.mp hnames
      rw [Members.set]
      by_cases h : first.1 = name
      · rw [if_pos (by simpa using h)]
        exact hnames
      · rw [if_neg (by simpa using h)]
        refine List.nodup_cons.mpr ⟨?_, ih hrest⟩
        intro hmem
        obtain ⟨member, hmember, hname⟩ := List.mem_map.mp hmem
        rcases Members.mem_set hmember with hmember | rfl
        · exact hfresh (List.mem_map.mpr ⟨member, hmember, hname⟩)
        · exact h hname.symm

/-- Of members with distinct names, those are found whose values are kept. -/
theorem Members.get?_filter_values
    {members : Members α}
    (hnames : (members.map Prod.fst).Nodup)
    (keep : α → Bool)
    (name : String) :
    Members.get? (members.filter fun member => keep member.2) name =
      (members.get? name).filter keep := by
  induction members with
  | nil =>
      rfl
  | cons member rest ih =>
      obtain ⟨hfresh, hrest⟩ := List.nodup_cons.mp hnames
      have htail := ih hrest
      unfold Members.get? at htail ⊢
      by_cases hname : member.1 = name
      · cases hkeep : keep member.2 with
        | true =>
            simp [hname, hkeep, Option.filter_some]
        | false =>
            have hnone : rest.find? (·.1 == name) = none := by
              rw [List.find?_eq_none]
              intro other hother
              have hne : other.1 ≠ name := by
                rintro rfl
                exact hfresh (List.mem_map.mpr ⟨other, hother, hname.symm⟩)
              simpa using hne
            rw [List.filter_cons_of_neg (by simp [hkeep]), htail, hnone]
            simp [hname, hkeep, Option.filter_some]
      · cases hkeep : keep member.2 with
        | true => simpa [hname, hkeep] using htail
        | false => simpa [hname, hkeep] using htail

/-- What stands under a name after a value was put under one. -/
theorem Members.get?_set
    (members : Members α)
    (name : String)
    (value : α)
    (name' : String) :
    (members.set name value).get? name' =
      if name' = name then some value else members.get? name' := by
  induction members with
  | nil =>
      by_cases h : name' = name
      · simp [Members.set, Members.get?, h]
      · simp [Members.set, Members.get?, h, Ne.symm h]
  | cons member rest ih =>
      unfold Members.get? at ih ⊢
      rw [Members.set]
      by_cases hmember : member.1 = name
      · by_cases h : name' = name
        · simp [hmember, h]
        · simp [hmember, h, Ne.symm h]
      · by_cases h : member.1 = name'
        · subst h
          simp [hmember]
        · simp [hmember, h, ih]

theorem Members.set_set
    (members : Members α)
    (name : String)
    (value value' : α) :
    (members.set name value).set name value' = members.set name value' := by
  induction members with
  | nil =>
      simp [Members.set]
  | cons member rest ih =>
      by_cases h : member.1 = name
      · simp [Members.set, h]
      · simp [Members.set, h, ih]

theorem Members.erase_set
    (members : Members α)
    (name : String)
    (value : α) :
    (members.set name value).erase name = erase members name := by
  induction members with
  | nil =>
      simp [Members.set, erase]
  | cons member rest ih =>
      unfold erase at ih ⊢
      by_cases h : member.1 = name
      · simp [Members.set, h]
      · simp [Members.set, h, ih]

theorem Members.erase_of_not_mem
    {members : Members α}
    {name : String}
    (hname : name ∉ members.map Prod.fst) :
    members.erase name = members := by
  refine List.filter_eq_self.mpr fun member hmember => ?_
  have hne : member.1 ≠ name := fun h => hname (List.mem_map.mpr ⟨member, hmember, h⟩)
  simpa using hne

/-- Names that were repeated are distinct, and what stands under them was there before. -/
theorem Members.ofList_spec
    (pairs : Members α) :
    ((Members.ofList pairs).map Prod.fst).Nodup ∧
      ∀ member ∈ Members.ofList pairs, member ∈ pairs := by
  suffices h : ∀ kept : Members α, (kept.map Prod.fst).Nodup →
      ((pairs.foldl (fun acc pair => acc.set pair.1 pair.2) kept).map Prod.fst).Nodup ∧
        ∀ member ∈ pairs.foldl (fun acc pair => acc.set pair.1 pair.2) kept,
          member ∈ kept ∨ member ∈ pairs by
    obtain ⟨hnames, hmem⟩ := h [] List.nodup_nil
    exact ⟨hnames, fun member hmember => (hmem member hmember).resolve_left List.not_mem_nil⟩
  induction pairs with
  | nil =>
      exact fun kept hkept => ⟨hkept, fun member hmember => .inl hmember⟩
  | cons pair rest ih =>
      intro kept hkept
      obtain ⟨hnames, hmem⟩ := ih (kept.set pair.1 pair.2) (Members.nodup_set hkept _ _)
      refine ⟨hnames, fun member hmember => ?_⟩
      rcases hmem member hmember with hmember | hmember
      · rcases Members.mem_set hmember with hmember | rfl
        · exact .inl hmember
        · exact .inr List.mem_cons_self
      · exact .inr (List.mem_cons_of_mem pair hmember)

/-- Members with distinct names are kept as they are. -/
theorem Members.ofList_eq_self
    {members : Members α}
    (hnames : (members.map Prod.fst).Nodup) :
    Members.ofList members = members := by
  suffices h : ∀ kept : Members α, ((kept ++ members).map Prod.fst).Nodup →
      members.foldl (fun acc pair => acc.set pair.1 pair.2) kept = kept ++ members by
    exact h [] hnames
  intro kept hkept
  induction members generalizing kept with
  | nil =>
      simp
  | cons member rest ih =>
      have hfresh : member.1 ∉ kept.map Prod.fst := by
        intro hmem
        rw [List.map_append, List.nodup_append] at hkept
        exact hkept.2.2 member.1 hmem member.1 (by simp) rfl
      have hrest : (((kept ++ [member]) ++ rest).map Prod.fst).Nodup := by
        simpa using hkept
      rw [List.foldl_cons, Members.set_of_not_mem hfresh,
        ih (List.nodup_cons.mp (by simpa using hnames)).2 _ hrest, List.append_assoc]
      rfl

end Naming

end Turnstile
