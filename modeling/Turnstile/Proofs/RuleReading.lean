import Turnstile.Proofs.Outcome
import Turnstile.Proofs.PriorityOrder

/-!
# What reading rules comes to

Reading a rule and normalizing a list of raw rules are computations that may end in a
fault.  This module says when they do not, and what they give then: `decode_eq_ok_iff`
for one rule, `decodeActive_eq_some_iff` for an active entry, and
`normalize_eq_ok_iff` for a list.
-/

namespace Turnstile

/-- The earliest moment. -/
def Moment.first : Moment := ⟨0, 0, by decide, by decide⟩

namespace Rule

section Reading

/-- What a rule that can be read is made of. -/
theorem decode_eq_ok_iff
    {members : Members Json}
    {r : Rule} :
    decode members = .ok r ↔
      decodePriority ((Json.object members).member "priority") = .ok r.priority ∧
      bound ((Json.object members).member "start_at") = .ok r.startAt ∧
      bound ((Json.object members).member "end_at") = .ok r.endAt ∧
      decodeConditions ((Json.object members).member "conditions") = .ok r.conditions ∧
      r.id = decodeId ((Json.object members).member "id") ∧
      r.enabled = !disables ((Json.object members).member "enabled") ∧
      r.criteria = decodeCriteria ((Json.object members).member "criteria") ∧
      r.action = decodeAction ((Json.object members).member "action") ∧
      r.segment = (Json.object members).member "segment" ∧
      r.raw = members := by
  simp only [decode, bind_eq_ok_iff, pure_eq_ok_iff]
  constructor
  · rintro ⟨priority, hp, startAt, hs, endAt, he, conditions, hc, rfl⟩
    exact ⟨hp, hs, he, hc, rfl, rfl, rfl, rfl, rfl, rfl⟩
  · rintro ⟨hp, hs, he, hc, hid, henabled, hcriteria, haction, hsegment, hraw⟩
    refine ⟨r.priority, hp, r.startAt, hs, r.endAt, he, r.conditions, hc, ?_⟩
    rw [← hid, ← henabled, ← hcriteria, ← haction, ← hsegment, ← hraw]

/-- An entry gives a rule iff it is an active object that can be read. -/
theorem decodeActive_eq_some_iff
    {now : Moment}
    {raw : Json}
    {r : Rule} :
    decodeActive now raw = .ok (some r) ↔
      ∃ members,
        raw = .object members ∧ isActive now raw = .ok true ∧ decode members = .ok r := by
  cases raw with
  | object members =>
      simp only [decodeActive, bind_eq_ok_iff]
      constructor
      · rintro ⟨active, hactive, hread⟩
        cases active with
        | false =>
            simp [pure_eq_ok_iff] at hread
        | true =>
            obtain ⟨found, hfound, hr⟩ := bind_eq_ok_iff.mp hread
            obtain rfl : found = r := by simpa [pure_eq_ok_iff] using hr
            exact ⟨members, rfl, hactive, hfound⟩
      · rintro ⟨_, hmembers, hactive, hr⟩
        obtain rfl := Json.object.inj hmembers
        refine ⟨true, hactive, ?_⟩
        simp [hr, bind, Except.bind, pure, Except.pure]
  | _ =>
      simp [decodeActive, pure_eq_ok_iff]

/-- An entry gives no rule iff it is no active object. -/
theorem decodeActive_eq_none_iff
    {now : Moment}
    {raw : Json} :
    decodeActive now raw = .ok none ↔ isActive now raw = .ok false := by
  cases raw with
  | object members =>
      simp only [decodeActive, bind_eq_ok_iff]
      constructor
      · rintro ⟨active, hactive, hread⟩
        cases active with
        | false =>
            exact hactive
        | true =>
            obtain ⟨found, -, hr⟩ := bind_eq_ok_iff.mp hread
            simp [pure_eq_ok_iff] at hr
      · intro hactive
        exact ⟨false, hactive, rfl⟩
  | _ =>
      simp [decodeActive, isActive, pure_eq_ok_iff]

/-- The rule that an entry gives at a time, if any. -/
def activeRule?
    (now : Moment)
    (raw : Json) : Option Rule :=
  foundBy (decodeActive now raw)

/-- Normalizing succeeds iff each entry can be read, and puts what they give in order. -/
theorem normalize_eq_ok_iff
    {now : Moment}
    {raws : List Json}
    {rules : List Rule} :
    normalize now raws = .ok rules ↔
      (∀ raw ∈ raws, ∃ found, decodeActive now raw = .ok found) ∧
        rules = (raws.filterMap (activeRule? now)).mergeSort precedes := by
  simp only [normalize, bind_eq_ok_iff, pure_eq_ok_iff, filterMapM_eq_ok_iff]
  constructor
  · rintro ⟨found, ⟨hall, rfl⟩, rfl⟩
    exact ⟨hall, rfl⟩
  · rintro ⟨hall, rfl⟩
    exact ⟨_, ⟨hall, rfl⟩, rfl⟩

/-- The rules of a list are what its active entries are read as. -/
theorem entry_of_mem_normalize
    {now : Moment}
    {raws : List Json}
    {rules : List Rule}
    (hnormal : normalize now raws = .ok rules)
    {r : Rule}
    (hr : r ∈ rules) :
    .object r.raw ∈ raws ∧ isActive now (.object r.raw) = .ok true ∧ decode r.raw = .ok r := by
  obtain ⟨-, rfl⟩ := normalize_eq_ok_iff.mp hnormal
  obtain ⟨raw, hraw, hread⟩ := List.mem_filterMap.mp (List.mem_mergeSort.mp hr)
  obtain ⟨members, rfl, hactive, hdecode⟩ :=
    decodeActive_eq_some_iff.mp (foundBy_eq_some_iff.mp hread)
  obtain ⟨-, -, -, -, -, -, -, -, -, rfl⟩ := decode_eq_ok_iff.mp hdecode
  exact ⟨hraw, hactive, hdecode⟩

/-- Entries that can be read and whose rules are in order already. -/
theorem normalize_eq_ok_of_inPriorityOrder
    {now : Moment}
    {raws : List Json}
    (hread : ∀ raw ∈ raws, (decodeActive now raw).isOk = true)
    (hordered : InPriorityOrder (raws.filterMap (activeRule? now))) :
    normalize now raws = .ok (raws.filterMap (activeRule? now)) := by
  rw [normalize_eq_ok_iff, mergeSort_precedes_of_inPriorityOrder hordered]
  exact ⟨fun raw hraw => exists_of_isOk (hread raw hraw), rfl⟩

/-- A fold that adds at each item what the item brings collects what all items bring. -/
theorem mem_foldl_iff
    {α β : Type}
    {add : List β → α → List β}
    {b : β}
    (brings : α → Prop)
    (hadd : ∀ seen a, b ∈ add seen a ↔ b ∈ seen ∨ brings a)
    (items : List α)
    (seen : List β) :
    b ∈ items.foldl add seen ↔ b ∈ seen ∨ ∃ a ∈ items, brings a := by
  induction items generalizing seen with
  | nil =>
      simp
  | cons a rest ih =>
      rw [List.foldl_cons, ih, hadd, or_assoc]
      simp

/-- The criteria of a rule are the texts that its raw list holds. -/
theorem mem_distinctTexts
    (items : List Json)
    (text : Wording) :
    text ∈ distinctTexts items ↔ Json.ofWording text ∈ items := by
  have hadd : ∀ (seen : List Wording) other,
      text ∈ (if other ∈ seen then seen else seen ++ [other]) ↔ text ∈ seen ∨ text = other := by
    intro seen other
    by_cases hother : other ∈ seen
    · rw [if_pos hother, iff_self_or]
      rintro rfl
      exact hother
    · simp [hother]
  unfold distinctTexts
  rw [mem_foldl_iff fun item => Json.ofWording text = item]
  · simp
  · intro seen item
    cases text <;> cases item <;> simp [hadd, Json.ofWording]

end Reading

end Rule

end Turnstile
