import Mathlib.Data.List.Sort
import Turnstile.Rule.Basic

/-!
# Rules in priority order

Rules are looked at in the order of their priorities, and rules of one priority in the
order in which they were authored.  A list in priority order is determined by its rules
of each priority, so whatever keeps those in place keeps the whole order.

**Results.**
* `eq_of_tied_eq`: two lists in priority order with the same ties are equal.
* `filter_mergeSort_precedes`: leaving out rules commutes with putting them in order.
* `head?_mergeSort_precedes_eq_some_iff`: the first rule in order is the one with the
  least priority, and of those the one that stands first.
-/

namespace Turnstile
namespace Rule

section PriorityOrder

/-- Priorities never decrease along the list. -/
def InPriorityOrder
    (rules : List Rule) : Prop :=
  rules.Pairwise fun a b => a.priority ≤ b.priority

instance
    (rules : List Rule) : Decidable (InPriorityOrder rules) :=
  inferInstanceAs (Decidable (rules.Pairwise fun a b => a.priority ≤ b.priority))

/-- The rules of one priority, as they stand. -/
def tied
    (p : Int)
    (rules : List Rule) : List Rule :=
  rules.filter fun r => decide (r.priority = p)

theorem precedes_iff
    (a b : Rule) :
    precedes a b = true ↔ a.priority ≤ b.priority := by
  simp [precedes]

theorem precedes_trans
    (a b c : Rule)
    (hab : precedes a b = true)
    (hbc : precedes b c = true) :
    precedes a c = true := by
  rw [precedes_iff] at *
  exact le_trans hab hbc

theorem precedes_total
    (a b : Rule) :
    (precedes a b || precedes b a) = true := by
  rw [Bool.or_eq_true, precedes_iff, precedes_iff]
  exact le_total a.priority b.priority

/-- Sorting puts rules in priority order. -/
theorem inPriorityOrder_mergeSort
    (rules : List Rule) :
    InPriorityOrder (rules.mergeSort precedes) := by
  have h :=
    List.pairwise_mergeSort precedes_trans precedes_total rules
  exact h.imp fun {a b} hab => (precedes_iff a b).mp hab

/-- Rules in order stay as they are when they are put in order. -/
theorem mergeSort_precedes_of_inPriorityOrder
    {rules : List Rule}
    (hordered : InPriorityOrder rules) :
    rules.mergeSort precedes = rules :=
  List.mergeSort_of_pairwise (hordered.imp fun {a b} hab => (precedes_iff a b).mpr hab)

/-- Sorting keeps the rules of one priority as they stand. -/
theorem tied_mergeSort
    (p : Int)
    (rules : List Rule) :
    tied p (rules.mergeSort precedes) = tied p rules := by
  have hties : (tied p rules).Pairwise fun a b => precedes a b = true := by
    rw [List.pairwise_iff_forall_sublist]
    intro a b hsub
    have ha : a.priority = p := by
      simpa using List.of_mem_filter (hsub.subset (by simp : a ∈ [a, b]))
    have hb : b.priority = p := by
      simpa using List.of_mem_filter (hsub.subset (by simp : b ∈ [a, b]))
    rw [precedes_iff, ha, hb]
  have hsub : (tied p rules).Sublist (rules.mergeSort precedes) :=
    List.sublist_mergeSort precedes_trans precedes_total hties
      List.filter_sublist
  -- A sublist of the same length is the list itself.
  have hsub' : (tied p rules).Sublist (tied p (rules.mergeSort precedes)) := by
    have h := hsub.filter fun r => decide (r.priority = p)
    simpa [tied] using h
  have hlen :=
    ((List.mergeSort_perm rules precedes).filter fun r => decide (r.priority = p)).length_eq
  exact (hsub'.eq_of_length hlen.symm).symm

/-- A rule heads the ties of its own priority. -/
theorem tied_cons_self
    (r : Rule)
    (rules : List Rule) :
    tied r.priority (r :: rules) = r :: tied r.priority rules := by
  simp [tied]

/-- A rule is among the ties of its own priority. -/
theorem mem_tied_self
    {r : Rule}
    {rules : List Rule} :
    r ∈ tied r.priority rules ↔ r ∈ rules := by
  simp [tied]

/-- Lists with the same ties have the same rules. -/
theorem mem_iff_of_tied_eq
    {left right : List Rule}
    (htied : ∀ p, tied p left = tied p right)
    (r : Rule) :
    r ∈ left ↔ r ∈ right := by
  rw [← mem_tied_self, htied, mem_tied_self]

/-- Two lists in priority order with the same ties are equal. -/
theorem eq_of_tied_eq
    {left right : List Rule}
    (hleft : InPriorityOrder left)
    (hright : InPriorityOrder right)
    (htied : ∀ p, tied p left = tied p right) :
    left = right := by
  have hmem := mem_iff_of_tied_eq htied
  induction left generalizing right with
  | nil =>
      cases right with
      | nil => rfl
      | cons r rest =>
          have hr := (hmem r).mpr (by simp)
          simp at hr
  | cons a left ih =>
      cases right with
      | nil =>
          have ha := (hmem a).mp (by simp)
          simp at ha
      | cons b right =>
          -- The heads have the least priority of either list.
          have hab : a.priority ≤ b.priority := by
            rcases List.mem_cons.mp ((hmem b).mpr (by simp)) with rfl | hb
            · exact le_rfl
            · exact List.rel_of_pairwise_cons hleft hb
          have hba : b.priority ≤ a.priority := by
            rcases List.mem_cons.mp ((hmem a).mp (by simp)) with rfl | ha
            · exact le_rfl
            · exact List.rel_of_pairwise_cons hright ha
          have hheads := htied a.priority
          rw [tied_cons_self, le_antisymm hab hba, tied_cons_self] at hheads
          obtain rfl : a = b := (List.cons.inj hheads).1
          have hrest : ∀ p, tied p left = tied p right := by
            intro p
            have hp := htied p
            by_cases h : a.priority = p <;> simpa [tied, h] using hp
          have htail : left = right :=
            ih hleft.tail hright.tail hrest (mem_iff_of_tied_eq hrest)
          rw [htail]

/-- Lists with the same ties have the same priority order. -/
theorem mergeSort_precedes_congr
    {left right : List Rule}
    (htied : ∀ p, tied p left = tied p right) :
    left.mergeSort precedes = right.mergeSort precedes := by
  apply eq_of_tied_eq
  · exact inPriorityOrder_mergeSort left
  · exact inPriorityOrder_mergeSort right
  · intro p
    rw [tied_mergeSort, tied_mergeSort, htied]

/-- Leaving out rules commutes with putting them in order. -/
theorem filter_mergeSort_precedes
    (keep : Rule → Bool)
    (rules : List Rule) :
    (rules.mergeSort precedes).filter keep = (rules.filter keep).mergeSort precedes := by
  apply eq_of_tied_eq
  · exact (inPriorityOrder_mergeSort rules).filter keep
  · exact inPriorityOrder_mergeSort (rules.filter keep)
  · intro p
    have hsorted := congrArg (List.filter keep) (tied_mergeSort p rules)
    rw [tied_mergeSort]
    simp only [tied, List.filter_filter] at hsorted ⊢
    simpa only [Bool.and_comm] using hsorted

theorem tied_append
    (p : Int)
    (left right : List Rule) :
    tied p (left ++ right) = tied p left ++ tied p right :=
  List.filter_append left right

/-- Keeping rules by their priority keeps the ties of a priority, or none of them. -/
theorem tied_filter_priority
    (p : Int)
    (keep : Int → Bool)
    (rules : List Rule) :
    tied p (rules.filter fun r => keep r.priority) = if keep p then tied p rules else [] := by
  rw [tied, List.filter_filter]
  split
  · rename_i hkeep
    apply List.filter_congr
    intro r _
    by_cases hr : r.priority = p
    · simp [hr, hkeep]
    · simp [hr]
  · rename_i hdrop
    rw [List.filter_eq_nil_iff]
    intro r _ hr
    simp only [Bool.and_eq_true, decide_eq_true_eq] at hr
    exact hdrop (hr.1 ▸ hr.2)

/-- The rules that come before one that stands between two lists. -/
def ahead
    (p : Int)
    (left right : List Rule) : List Rule :=
  (left.filter fun r => r.priority ≤ p) ++ right.filter fun r => r.priority < p

/-- The rules that come after one that stands between two lists. -/
def behind
    (p : Int)
    (left right : List Rule) : List Rule :=
  (left.filter fun r => p < r.priority) ++ right.filter fun r => p ≤ r.priority

/-- Where the rules of one priority go that stand between two lists. -/
theorem mergeSort_precedes_between
    {p : Int}
    (left ties right : List Rule)
    (hties : ∀ r ∈ ties, r.priority = p) :
    (left ++ ties ++ right).mergeSort precedes =
      (ahead p left right).mergeSort precedes ++ ties ++
        (behind p left right).mergeSort precedes := by
  have hahead : ∀ r ∈ (ahead p left right).mergeSort precedes, r.priority ≤ p := by
    intro r hr
    rw [List.mem_mergeSort, ahead, List.mem_append, List.mem_filter, List.mem_filter] at hr
    simp only [decide_eq_true_eq] at hr
    omega
  have hbehind : ∀ r ∈ (behind p left right).mergeSort precedes, p ≤ r.priority := by
    intro r hr
    rw [List.mem_mergeSort, behind, List.mem_append, List.mem_filter, List.mem_filter] at hr
    simp only [decide_eq_true_eq] at hr
    omega
  apply eq_of_tied_eq
  · exact inPriorityOrder_mergeSort _
  · have hmiddle : InPriorityOrder ties := by
      apply List.pairwise_of_forall_mem_list
      intro a ha b hb
      rw [hties a ha, hties b hb]
    refine List.pairwise_append.mpr ⟨List.pairwise_append.mpr
      ⟨inPriorityOrder_mergeSort _, hmiddle, ?_⟩, inPriorityOrder_mergeSort _, ?_⟩
    · intro a ha b hb
      rw [hties b hb]
      exact hahead a ha
    · intro a ha b hb
      have hb := hbehind b hb
      rcases List.mem_append.mp ha with ha | ha
      · exact (hahead a ha).trans hb
      · rwa [hties a ha]
  · intro q
    have hother : q ≠ p → tied q ties = [] := by
      intro hq
      rw [tied, List.filter_eq_nil_iff]
      intro r hr hrq
      exact hq ((of_decide_eq_true hrq).symm.trans (hties r hr))
    have hleast := tied_filter_priority q (fun a => decide (a ≤ p)) left
    have hless := tied_filter_priority q (fun a => decide (a < p)) right
    have hmore := tied_filter_priority q (fun a => decide (p < a)) left
    have hmost := tied_filter_priority q (fun a => decide (p ≤ a)) right
    simp only [tied_append, tied_mergeSort, ahead, behind, hleast, hless, hmore, hmost,
      decide_eq_true_eq]
    -- Below `p` both lists come ahead, above it behind; at `p` the ties stand between them.
    rcases lt_trichotomy q p with hlt | rfl | hgt
    · simp [hother hlt.ne, hlt, hlt.le, hlt.not_gt, hlt.not_ge]
    · simp
    · simp [hother hgt.ne', hgt, hgt.le, hgt.not_gt, hgt.not_ge]

/-- The rule stands first among those of least priority. -/
def StandsFirst
    (r : Rule)
    (rules : List Rule) : Prop :=
  ∃ before after,
    rules = before ++ r :: after ∧
    (∀ a ∈ before, r.priority < a.priority) ∧
    ∀ a ∈ after, r.priority ≤ a.priority

theorem StandsFirst.le
    {r a : Rule}
    {rules : List Rule}
    (hr : StandsFirst r rules)
    (ha : a ∈ rules) :
    r.priority ≤ a.priority := by
  obtain ⟨before, after, rfl, hbefore, hafter⟩ := hr
  rcases List.mem_append.mp ha with ha | ha
  · exact le_of_lt (hbefore a ha)
  · rcases List.mem_cons.mp ha with rfl | ha
    · exact le_rfl
    · exact hafter a ha

/-- A rule stands first iff no rule has a lower priority and it leads those of its own. -/
theorem standsFirst_iff
    (r : Rule)
    (rules : List Rule) :
    StandsFirst r rules ↔
      (∀ a ∈ rules, r.priority ≤ a.priority) ∧ (tied r.priority rules).head? = some r := by
  constructor
  · intro hr
    refine ⟨fun a ha => hr.le ha, ?_⟩
    obtain ⟨before, after, rfl, hbefore, -⟩ := hr
    have hnone : tied r.priority before = [] := by
      rw [tied, List.filter_eq_nil_iff]
      intro a ha
      have hlt := hbefore a ha
      simp only [decide_eq_true_eq]
      omega
    simp only [tied] at hnone
    simp [tied, hnone]
  · rintro ⟨hle, hhead⟩
    obtain ⟨ties, hties⟩ := List.head?_eq_some_iff.mp hhead
    obtain ⟨before, after, rfl, hbefore, -, -⟩ := List.filter_eq_cons_iff.mp hties
    refine ⟨before, after, rfl, ?_, ?_⟩
    · intro a ha
      have hne := hbefore a ha
      have hge := hle a (by simp [ha])
      simp only [decide_eq_true_eq] at hne
      omega
    · intro a ha
      exact hle a (by simp [ha])

/-- The first rule in priority order is the one that stands first. -/
theorem head?_mergeSort_precedes_eq_some_iff
    (r : Rule)
    (rules : List Rule) :
    (rules.mergeSort precedes).head? = some r ↔ StandsFirst r rules := by
  rw [standsFirst_iff, ← tied_mergeSort]
  have hmem : ∀ a, a ∈ rules.mergeSort precedes ↔ a ∈ rules := fun a => List.mem_mergeSort
  have hordered := inPriorityOrder_mergeSort rules
  cases hsorted : rules.mergeSort precedes with
  | nil =>
      simp [tied]
  | cons s rest =>
      rw [hsorted] at hmem hordered
      have hleast : ∀ a ∈ rules, s.priority ≤ a.priority := by
        intro a ha
        rcases List.mem_cons.mp ((hmem a).mpr ha) with rfl | ha
        · exact le_rfl
        · exact List.rel_of_pairwise_cons hordered ha
      constructor
      · intro hs
        obtain rfl : s = r := by simpa using hs
        exact ⟨hleast, by rw [tied_cons_self]; rfl⟩
      · rintro ⟨hle, hhead⟩
        have hrs : r.priority = s.priority := by
          have hr : r ∈ tied r.priority (s :: rest) := List.mem_of_head? hhead
          have hsr := hleast r ((hmem r).mp (mem_tied_self.mp hr))
          have hrs := hle s ((hmem s).mp (by simp))
          omega
        rw [hrs, tied_cons_self] at hhead
        simpa using hhead

end PriorityOrder

end Rule
end Turnstile
