import Turnstile.Proofs.EntryFaults

/-!
# The active rules of a list

Whether an entry is active is read off its raw members, before anything else of it is
read.  The decoded rule says the same again: it is enabled, and the moment lies in its
window.  So the rules of a list can be told from those that were dropped by looking at the
rules alone, as far as the dropped entries can be decoded at all.

**Results.**
* `isActive_iff_of_decode`: the raw and the decoded reading of activity agree.
* `decodes_activeRules`: the active entries are decoded one by one.
* `active_entries_in_priority_order`: what normalizing keeps, in which order, and what it
  drops.
-/

namespace Turnstile
namespace Rule

section Activity

variable {now : Moment} {members : Members Json} {r : Rule}

/-- A rule says of itself that it is active: it is enabled, has started and has not ended. -/
structure IsActiveAt
    (now : Moment)
    (r : Rule) : Prop where
  enabled : r.enabled = true
  started : ∀ start, r.startAt = some start → start.instant ≤ now.instant
  unended : ∀ stop, r.endAt = some stop → now.instant ≤ stop.instant

/-- No bound comes too early or too late iff the bound that there is does not. -/
theorem any_isBefore_eq_false_iff
    {bound : Option Moment}
    {early late : Moment → Moment} :
    (bound.any fun m => (early m).isBefore (late m)) = false ↔
      ∀ m, bound = some m → (late m).instant ≤ (early m).instant := by
  cases bound with
  | none =>
      simp
  | some m =>
      simp [Moment.isBefore]

/-- The raw and the decoded reading of activity agree. -/
theorem isActive_iff_of_decode
    (hr : decode members = .ok r) :
    isActive now (.object members) = .ok true ↔ r.IsActiveAt now := by
  obtain ⟨-, hstart, hstop, -, -, henabled, -⟩ := decode_eq_ok_iff.mp hr
  rw [isActive_eq_ok_iff]
  constructor
  · rintro (⟨-, hfalse⟩ | ⟨hnot, start, hstart', hcases⟩)
    · cases hfalse
    rcases hcases with ⟨-, hfalse⟩ | ⟨hstarted, stop, hstop', hunended⟩
    · cases hfalse
    obtain rfl := Except.ok.inj (hstart'.symm.trans hstart)
    obtain rfl := Except.ok.inj (hstop'.symm.trans hstop)
    exact
      { enabled := by rw [henabled, hnot, Bool.not_false]
        started := any_isBefore_eq_false_iff.mp hstarted
        unended := any_isBefore_eq_false_iff.mp (by simpa using hunended.symm) }
  · intro h
    have hnot : disables ((Json.object members).member "enabled") = false := by
      simpa [henabled] using h.enabled
    have hstarted := any_isBefore_eq_false_iff.mpr h.started
    have hunended := any_isBefore_eq_false_iff.mpr h.unended
    exact .inr ⟨hnot, r.startAt, hstart, .inr ⟨hstarted, r.endAt, hstop, by rw [hunended]; rfl⟩⟩

end Activity

section Lists

variable {now : Moment} {raws : List Json} {rules : List Rule}

/-- The rule is the decoded form of the entry, which is an object. -/
def DecodesTo
    (raw : Json)
    (r : Rule) : Prop :=
  ∃ members, raw = .object members ∧ decode members = .ok r

/-- Of the entries that can be read, the active ones are decoded one by one, as they stand. -/
theorem decodes_activeRules
    (hread : ∀ raw ∈ raws, ∃ found, decodeActive now raw = .ok found) :
    List.Forall₂ DecodesTo
      (raws.filter fun raw => decide (isActive now raw = .ok true))
      (raws.filterMap (activeRule? now)) := by
  induction raws with
  | nil =>
      exact .nil
  | cons raw rest ih =>
      obtain ⟨hraw, hrest⟩ := List.forall_mem_cons.mp hread
      obtain ⟨found, hfound⟩ := hraw
      cases found with
      | none =>
          have hinactive := decodeActive_eq_none_iff.mp hfound
          have hnone : activeRule? now raw = none := by rw [activeRule?, hfound, foundBy_ok]
          rw [List.filter_cons_of_neg (by simp [hinactive]), List.filterMap_cons_none hnone]
          exact ih hrest
      | some r =>
          obtain ⟨members, rfl, hactive, hr⟩ := decodeActive_eq_some_iff.mp hfound
          have hsome : activeRule? now (.object members) = some r := by
            rw [activeRule?, hfound, foundBy_ok]
          rw [List.filter_cons_of_pos (by simp [hactive]), List.filterMap_cons_some hsome]
          exact .cons ⟨members, rfl, hr⟩ (ih hrest)

/-- A rule that is kept says of itself that it is active. -/
theorem isActiveAt_of_mem
    (hnormal : normalize now raws = .ok rules)
    {r : Rule}
    (hmem : r ∈ rules) :
    r.IsActiveAt now := by
  obtain ⟨-, hactive, hr⟩ := entry_of_mem_normalize hnormal hmem
  exact (isActive_iff_of_decode hr).mp hactive

/-- Nothing in an entry keeps it from being decoded. -/
structure IsDecodable
    (members : Members Json) : Prop where
  priority : resistsConversion ((Json.object members).member "priority") = false
  startAt : isOverlargeBound ((Json.object members).member "start_at") = false
  endAt : isOverlargeBound ((Json.object members).member "end_at") = false
  conditions : areUnreadable ((Json.object members).member "conditions") = false

theorem isDecodable_iff
    {members : Members Json} :
    IsDecodable members ↔ ∃ r, decode members = .ok r := by
  rw [exists_decode_iff]
  constructor
  · rintro ⟨hpriority, hstart, hstop, hconditions⟩
    exact ⟨hpriority, hstart, hstop, hconditions⟩
  · rintro ⟨hpriority, hstart, hstop, hconditions⟩
    exact ⟨hpriority, hstart, hstop, hconditions⟩

/--
**Normalizing keeps the active entries and puts them in order.**  The rules of a list are,
up to order, its active entries, each decoded once.  Priorities never decrease along them,
and rules of one priority stand as their entries do.  Each rule says of itself that it is
active.  An object that was dropped gives a rule that does not say so, unless a member of
it cannot be converted, and then it gives none.
-/
theorem active_entries_in_priority_order
    (hnormal : normalize now raws = .ok rules) :
    (∃ decoded,
      List.Forall₂ DecodesTo
        (raws.filter fun raw => decide (isActive now raw = .ok true)) decoded ∧
      rules.Perm decoded ∧
      ∀ p, tied p rules = tied p decoded) ∧
    InPriorityOrder rules ∧
    (∀ r ∈ rules, r.IsActiveAt now) ∧
    ∀ members, Json.object members ∈ raws → isActive now (.object members) ≠ .ok true →
      (IsDecodable members → ∃ r, decode members = .ok r ∧ ¬ r.IsActiveAt now) ∧
      (¬ IsDecodable members → ∃ fault, decode members = .error fault) := by
  obtain ⟨hread, hrules⟩ := normalize_eq_ok_iff.mp hnormal
  refine ⟨⟨raws.filterMap (activeRule? now), decodes_activeRules hread, ?_, ?_⟩, ?_, ?_, ?_⟩
  · rw [hrules]
    exact List.mergeSort_perm _ _
  · intro p
    rw [hrules]
    exact tied_mergeSort p _
  · rw [hrules]
    exact inPriorityOrder_mergeSort _
  · intro r hmem
    exact isActiveAt_of_mem hnormal hmem
  · intro members _ hdropped
    rw [isDecodable_iff]
    refine ⟨fun ⟨r, hr⟩ => ⟨r, hr, fun hactive => hdropped ?_⟩, fun hnone => ?_⟩
    · exact (isActive_iff_of_decode hr).mpr hactive
    · cases hr : decode members with
      | error fault => exact ⟨fault, rfl⟩
      | ok r => exact absurd ⟨r, hr⟩ hnone

/-- The members of an entry that is disabled, with a priority of four hundred digits. -/
def sleepingMembers : Members Json :=
  [("enabled", .bool false), ("priority", .int (10 ^ 400))]

theorem not_isDecodable_sleepingMembers :
    ¬ IsDecodable sleepingMembers := by
  intro h
  have hover : Double.overflows (10 ^ 400) = true := by decide +kernel
  exact absurd (hover.symm.trans h.priority) (by decide)

theorem isActive_sleepingMembers
    (now : Moment) :
    isActive now (.object sleepingMembers) = .ok false :=
  rfl

/-- Two plain entries around a disabled one, which gives no rule even when it is decoded. -/
theorem sleeping_entry_dropped_between_rules :
    ∃ rules,
      normalize .first [plainEntry "a", .object sleepingMembers, plainEntry "b"] = .ok rules ∧
      rules.map (·.id) = [some "a", some "b"] ∧
      (∀ r ∈ rules, r.IsActiveAt .first) ∧
      ∃ fault, decode sleepingMembers = .error fault := by
  have hnormal :
      normalize .first [plainEntry "a", .object sleepingMembers, plainEntry "b"] = .ok _ :=
    normalize_eq_ok_of_inPriorityOrder (by decide +kernel) (by decide +kernel)
  obtain ⟨-, -, hactive, hdropped⟩ := active_entries_in_priority_order hnormal
  refine ⟨_, hnormal, ?_, hactive, ?_⟩
  · decide +kernel
  · refine (hdropped sleepingMembers (by simp) ?_).2 not_isDecodable_sleepingMembers
    rw [isActive_sleepingMembers]
    simp

/-- An entry that is dropped may be one that cannot be decoded. -/
theorem dropped_entry_is_not_decoded :
    normalize .first [.object sleepingMembers] = .ok [] ∧
      ¬ ∃ r, decode sleepingMembers = .ok r := by
  refine ⟨?_, fun hdecoded => not_isDecodable_sleepingMembers (isDecodable_iff.mpr hdecoded)⟩
  have hinactive : decodeActive .first (.object sleepingMembers) = .ok none :=
    decodeActive_eq_none_iff.mpr (isActive_sleepingMembers _)
  rw [normalize_eq_ok_iff]
  refine ⟨?_, ?_⟩
  · intro raw hraw
    exact ⟨none, by rwa [List.mem_singleton.mp hraw]⟩
  · rw [List.filterMap_cons_none (by rw [activeRule?, hinactive, foundBy_ok]),
      List.filterMap_nil, List.mergeSort_nil]

end Lists

end Rule
end Turnstile
