import Turnstile.Proofs.EntryFaults

/-!
# Normalizing again

A rule keeps the entry it was read from.  Normalizing these entries again reads the same
rules: they are in order already, so the second pass only leaves out those that are not
active at its own time.  Normalizing at two times, one after the other, therefore gives the
rules that are active at both, in whichever order the times are taken.

**Results.**
* `normalize_rawEntries`: what normalizing the entries of ordered rules comes to.
* `filter_activeRules_comm`: the two times may be exchanged.
* `normalizing_again_filters`: a second pass over the rules of a list, and its idempotence.
-/

namespace Turnstile
namespace Rule

section Renormalizing

/-- The entries that rules were read from. -/
def rawEntries
    (rules : List Rule) : List Json :=
  rules.map fun r => .object r.raw

/-- The entry of a rule is active at a time. -/
def hasActiveEntry
    (now : Moment)
    (r : Rule) : Bool :=
  decide (isActive now (.object r.raw) = .ok true)

/-- A rule is what its entry is read as. -/
def IsRead
    (r : Rule) : Prop :=
  decode r.raw = .ok r

theorem hasActiveEntry_iff
    {now : Moment}
    {r : Rule} :
    hasActiveEntry now r = true ↔ isActive now (.object r.raw) = .ok true :=
  decide_eq_true_iff

/-- An entry gives a rule iff it is the active entry that the rule is read from. -/
theorem activeRule?_eq_some_iff
    {now : Moment}
    {raw : Json}
    {r : Rule} :
    activeRule? now raw = some r ↔
      raw = .object r.raw ∧ r.IsRead ∧ hasActiveEntry now r = true := by
  rw [activeRule?, foundBy_eq_some_iff, decodeActive_eq_some_iff, hasActiveEntry_iff]
  constructor
  · rintro ⟨members, rfl, hactive, hr⟩
    obtain ⟨-, -, -, -, -, -, -, -, -, rfl⟩ := decode_eq_ok_iff.mp hr
    exact ⟨rfl, hr, hactive⟩
  · rintro ⟨rfl, hread, hactive⟩
    exact ⟨r.raw, rfl, hactive, hread⟩

/-- The entry of a rule that was read can be read at any time. -/
theorem not_disturbs_rawEntry
    {r : Rule}
    (hr : r.IsRead)
    (now : Moment) :
    ¬ Disturbs now (.object r.raw) := by
  obtain ⟨hpriority, hstart, hstop, hconditions⟩ := (exists_decode_iff r.raw).mp ⟨r, hr⟩
  intro hdisturbs
  cases hdisturbs with
  | start _ hover => simp [hstart] at hover
  | stop _ _ _ hover => simp [hstop] at hover
  | priority _ hresists => simp [hpriority] at hresists
  | conditions _ hunreadable => simp [hconditions] at hunreadable

/-- The entry of a rule that was read gives this rule again, or none. -/
theorem activeRule?_rawEntry
    {r : Rule}
    (hr : r.IsRead)
    (now : Moment) :
    activeRule? now (.object r.raw) = if hasActiveEntry now r then some r else none := by
  by_cases hactive : hasActiveEntry now r = true
  · rw [if_pos hactive, activeRule?_eq_some_iff]
    exact ⟨rfl, hr, hactive⟩
  · rw [if_neg hactive, Option.eq_none_iff_forall_ne_some]
    intro s hs
    obtain ⟨hraw, -, hs⟩ := activeRule?_eq_some_iff.mp hs
    rw [hasActiveEntry, ← hraw] at hs
    exact hactive hs

/-- The rules of a list are what their entries are read as. -/
theorem isRead_of_mem_normalize
    {now : Moment}
    {raws : List Json}
    {rules : List Rule}
    (hnormal : normalize now raws = .ok rules) :
    ∀ r ∈ rules, r.IsRead := by
  intro r hr
  exact (entry_of_mem_normalize hnormal hr).2.2

/-- Of the entries of rules that were read, those that are active give their rules again. -/
theorem filterMap_activeRule?_rawEntries
    {rules : List Rule}
    (hread : ∀ r ∈ rules, r.IsRead)
    (now : Moment) :
    (rawEntries rules).filterMap (activeRule? now) = rules.filter (hasActiveEntry now) := by
  induction rules with
  | nil =>
      rfl
  | cons r rest ih =>
      obtain ⟨hr, hrest⟩ := List.forall_mem_cons.mp hread
      have htail := ih hrest
      have hgiven := activeRule?_rawEntry hr now
      rw [rawEntries] at htail ⊢
      by_cases hactive : hasActiveEntry now r = true
      · rw [if_pos hactive] at hgiven
        rw [List.map_cons, List.filterMap_cons_some hgiven, List.filter_cons_of_pos hactive,
          htail]
      · rw [if_neg hactive] at hgiven
        rw [List.map_cons, List.filterMap_cons_none hgiven, List.filter_cons_of_neg hactive,
          htail]

/-- The entries of ordered rules that were read come to the rules that are still active. -/
theorem normalize_rawEntries
    {rules : List Rule}
    (hread : ∀ r ∈ rules, r.IsRead)
    (hordered : InPriorityOrder rules)
    (now : Moment) :
    normalize now (rawEntries rules) = .ok (rules.filter (hasActiveEntry now)) := by
  rw [normalize_eq_ok_iff]
  constructor
  · intro raw hraw
    obtain ⟨r, hr, rfl⟩ := List.mem_map.mp hraw
    exact exists_decodeActive_iff.mpr (not_disturbs_rawEntry (hread r hr) now)
  · rw [filterMap_activeRule?_rawEntries hread,
      mergeSort_precedes_of_inPriorityOrder (hordered.filter (hasActiveEntry now))]

/-- The rules that are active at two times do not depend on which time comes first. -/
theorem filter_activeRules_comm
    (t₁ t₂ : Moment)
    (raws : List Json) :
    (raws.filterMap (activeRule? t₁)).filter (hasActiveEntry t₂) =
      (raws.filterMap (activeRule? t₂)).filter (hasActiveEntry t₁) := by
  rw [List.filter_filterMap, List.filter_filterMap]
  apply List.filterMap_congr
  intro raw _
  ext r
  simp only [Option.filter_eq_some_iff, activeRule?_eq_some_iff]
  constructor
  · rintro ⟨⟨hraw, hread, hfirst⟩, hsecond⟩
    exact ⟨⟨hraw, hread, hsecond⟩, hfirst⟩
  · rintro ⟨⟨hraw, hread, hsecond⟩, hfirst⟩
    exact ⟨⟨hraw, hread, hfirst⟩, hsecond⟩

/-- What is left of the rules of one time at another does not depend on which comes first. -/
theorem filter_normalize_comm
    {t₁ t₂ : Moment}
    {raws : List Json}
    {rules₁ rules₂ : List Rule}
    (hfirst : normalize t₁ raws = .ok rules₁)
    (hsecond : normalize t₂ raws = .ok rules₂) :
    rules₁.filter (hasActiveEntry t₂) = rules₂.filter (hasActiveEntry t₁) := by
  obtain ⟨-, rfl⟩ := normalize_eq_ok_iff.mp hfirst
  obtain ⟨-, rfl⟩ := normalize_eq_ok_iff.mp hsecond
  rw [filter_mergeSort_precedes, filter_mergeSort_precedes, filter_activeRules_comm]

/-- Every rule of a list has an active entry. -/
theorem filter_hasActiveEntry_self
    {now : Moment}
    {raws : List Json}
    {rules : List Rule}
    (hnormal : normalize now raws = .ok rules) :
    rules.filter (hasActiveEntry now) = rules := by
  rw [List.filter_eq_self]
  intro r hr
  exact hasActiveEntry_iff.mpr (entry_of_mem_normalize hnormal hr).2.1

/--
**Normalizing again filters.**  Normalizing at one time the entries of the rules of another
time reads them all, and gives those of its own rules that are active at the other time
too, in the same order.  Where the whole list cannot be read at the second time it still
gives the rules of the first that are active then.  At one and the same time the second
pass changes nothing.
-/
theorem normalizing_again_filters
    {t₁ t₂ : Moment}
    {raws : List Json}
    {rules₁ : List Rule}
    (hfirst : normalize t₁ raws = .ok rules₁) :
    (∀ rules₂, normalize t₂ raws = .ok rules₂ →
      normalize t₂ (rawEntries rules₁) = .ok (rules₂.filter (hasActiveEntry t₁))) ∧
    normalize t₂ (rawEntries rules₁) = .ok (rules₁.filter (hasActiveEntry t₂)) ∧
    normalize t₁ (rawEntries rules₁) = .ok rules₁ := by
  have hread := isRead_of_mem_normalize hfirst
  have hordered : InPriorityOrder rules₁ := by
    rw [(normalize_eq_ok_iff.mp hfirst).2]
    exact inPriorityOrder_mergeSort _
  have hagain := normalize_rawEntries hread hordered
  refine ⟨fun rules₂ hsecond => ?_, hagain t₂, ?_⟩
  · rw [hagain, filter_normalize_comm hfirst hsecond]
  · rw [hagain, filter_hasActiveEntry_self hfirst]

/-- The first microsecond of 1970 is over. -/
def afterEpoch : Moment :=
  { Moment.first with
    wall := 62135596800000001
    wall_lt := by decide }

/-- An entry that ends with the start of 1970, one that starts then, and one that always is. -/
def changingEntries : List Json :=
  [.object [("id", .string "old"), ("end_at", .float Double.zero)],
    .object [("id", .string "new"), ("start_at", .float Double.zero)],
    plainEntry "always"]

/-- Before and after the start of 1970 one of three entries is replaced by another. -/
theorem changing_entries_normalized_twice :
    ∃ rules₁ rules₂,
      normalize .first changingEntries = .ok rules₁ ∧
      normalize afterEpoch changingEntries = .ok rules₂ ∧
      rules₁.map (·.id) = [some "old", some "always"] ∧
      rules₂.map (·.id) = [some "new", some "always"] ∧
      normalize afterEpoch (rawEntries rules₁) = .ok (rules₂.filter (hasActiveEntry .first)) := by
  have hfirst : normalize .first changingEntries = .ok _ :=
    normalize_eq_ok_of_inPriorityOrder (by decide +kernel) (by decide +kernel)
  have hsecond : normalize afterEpoch changingEntries = .ok _ :=
    normalize_eq_ok_of_inPriorityOrder (by decide +kernel) (by decide +kernel)
  exact ⟨_, _, hfirst, hsecond, by decide +kernel, by decide +kernel,
    (normalizing_again_filters hfirst).1 _ hsecond⟩

end Renormalizing

end Rule
end Turnstile
