import Mathlib.Data.List.Perm.Basic
import Mathlib.Data.Option.Basic
import Turnstile.Proofs.FirstMatch
import Turnstile.Proofs.Members
import Turnstile.Proofs.RuleReading

/-!
# The rule that wins

A list of raw rules is filtered, decoded, put in priority order and scanned.  Here the
outcome is tied to the raw list itself, without an order and without a scan: the winner
is the decoded form of the *candidate* with the least pair of priority and position, and
there is none only if there is no candidate.

**Results.**
* `Decides.unique`: the raw list leaves no choice of a winner.
* `scan_decides`: a scan that is not disturbed gives the winner.
* `normalized_scan_selects_least_candidate`: so it does, and the winner survives every
  reordering that keeps ties in place, every reordering of conditions, and the insertion
  or removal of entries that are no candidates.
-/

namespace Turnstile
namespace Rule

section Candidates

variable (now : Moment) (criterion : String) (c : Context)

/--
An entry from which a decision can come: an active object that lists the criterion and
all of whose conditions hold.  `p` is its coerced priority and `r` its decoded form.
-/
structure Candidate
    (raw : Json)
    (p : Int)
    (r : Rule) : Prop where
  active : isActive now raw = .ok true
  listed : ∃ items, raw.member "criteria" = .array items ∧ Json.string criterion ∈ items
  priority : decodePriority (raw.member "priority") = .ok p
  decoded : ∃ members, raw = .object members ∧ decode members = .ok r
  holds : AllHold c r.conditions

/-- The decoded form of a candidate, computed. -/
def candidate?
    (raw : Json) : Option Rule :=
  (activeRule? now raw).filter fun r => decide (Matches criterion c r)

/-- The rule is the decoded form of the candidate with the least priority and position. -/
def Wins
    (raws : List Json)
    (r : Rule) : Prop :=
  ∃ (i : Nat) (p : Int) (raw : Json),
    raws[i]? = some raw ∧
    Candidate now criterion c raw p r ∧
    ∀ (j : Nat) (q : Int) (raw' : Json) (r' : Rule),
      raws[j]? = some raw' →
      Candidate now criterion c raw' q r' →
      p < q ∨ p = q ∧ i ≤ j

/-- What the raw list decides: the winner, or that there is no candidate. -/
def Decides
    (raws : List Json) : Option Rule → Prop
  | some r => Wins now criterion c raws r
  | none => ∀ raw ∈ raws, ∀ p r, ¬ Candidate now criterion c raw p r

variable {now criterion c}

/-- A rule carries a criterion iff its raw form lists it. -/
theorem carries_iff
    {members : Members Json}
    {r : Rule}
    (hr : decode members = .ok r) :
    r.carries criterion = true ↔
      ∃ items, (Json.object members).member "criteria" = .array items ∧
        Json.string criterion ∈ items := by
  obtain ⟨-, -, -, -, -, -, hcriteria, -⟩ := decode_eq_ok_iff.mp hr
  rw [carries, hcriteria]
  cases (Json.object members).member "criteria" with
  | array items =>
      simp [decodeCriteria, mem_distinctTexts, Json.ofWording]
  | _ =>
      simp [decodeCriteria]

/-- The computed candidates are the candidates. -/
theorem candidate?_eq_some_iff
    {raw : Json}
    {r : Rule} :
    candidate? now criterion c raw = some r ↔ Candidate now criterion c raw r.priority r := by
  rw [candidate?, Option.filter_eq_some_iff, activeRule?, foundBy_eq_some_iff,
    decodeActive_eq_some_iff, decide_eq_true_eq]
  constructor
  · rintro ⟨⟨members, rfl, hactive, hdecode⟩, hcarries, hholds⟩
    exact
      { active := hactive
        listed := (carries_iff hdecode).mp hcarries
        priority := (decode_eq_ok_iff.mp hdecode).1
        decoded := ⟨members, rfl, hdecode⟩
        holds := hholds }
  · intro h
    obtain ⟨members, rfl, hdecode⟩ := h.decoded
    exact ⟨⟨members, rfl, h.active, hdecode⟩, (carries_iff hdecode).mpr h.listed, h.holds⟩

/-- The coerced priority of a candidate is the priority of its rule. -/
theorem Candidate.priority_eq
    {raw : Json}
    {p : Int}
    {r : Rule}
    (h : Candidate now criterion c raw p r) :
    p = r.priority := by
  obtain ⟨members, rfl, hdecode⟩ := h.decoded
  have hp := (decode_eq_ok_iff.mp hdecode).1.symm.trans h.priority
  exact (Except.ok.inj hp).symm

theorem Candidate.candidate?_eq
    {raw : Json}
    {p : Int}
    {r : Rule}
    (h : Candidate now criterion c raw p r) :
    candidate? now criterion c raw = some r := by
  rw [candidate?_eq_some_iff, ← h.priority_eq]
  exact h

/-- The winner is unique. -/
theorem Wins.unique
    {raws : List Json}
    {r s : Rule}
    (hr : Wins now criterion c raws r)
    (hs : Wins now criterion c raws s) :
    r = s := by
  obtain ⟨i, p, raw, hi, hraw, hleast⟩ := hr
  obtain ⟨j, q, raw', hj, hraw', hleast'⟩ := hs
  have hij : i = j := by
    have h₁ := hleast j q raw' s hj hraw'
    have h₂ := hleast' i p raw r hi hraw
    omega
  subst j
  obtain rfl : raw = raw' := Option.some.inj (hi.symm.trans hj)
  exact Option.some.inj (hraw.candidate?_eq.symm.trans hraw'.candidate?_eq)

/-- A winner is a candidate of the list. -/
theorem Wins.exists_candidate
    {raws : List Json}
    {r : Rule}
    (hr : Wins now criterion c raws r) :
    ∃ raw ∈ raws, ∃ p, Candidate now criterion c raw p r := by
  obtain ⟨i, p, raw, hi, hraw, -⟩ := hr
  exact ⟨raw, List.mem_of_getElem? hi, p, hraw⟩

/-- The raw list leaves no choice. -/
theorem Decides.unique
    {raws : List Json}
    {found found' : Option Rule}
    (h : Decides now criterion c raws found)
    (h' : Decides now criterion c raws found') :
    found = found' := by
  cases found with
  | none =>
      cases found' with
      | none => rfl
      | some s =>
          obtain ⟨raw, hmem, p, hraw⟩ := Wins.exists_candidate h'
          exact absurd hraw (h raw hmem p s)
  | some r =>
      cases found' with
      | none =>
          obtain ⟨raw, hmem, p, hraw⟩ := Wins.exists_candidate h
          exact absurd hraw (h' raw hmem p r)
      | some s =>
          rw [Wins.unique h h']

/-- Among the candidates, the one that stands first wins. -/
theorem wins_of_standsFirst
    {raws : List Json}
    {r : Rule}
    (hr : StandsFirst r (raws.filterMap (candidate? now criterion c))) :
    Wins now criterion c raws r := by
  obtain ⟨before, after, hsplit, hbefore, hafter⟩ := hr
  obtain ⟨left, rest, rfl, hleft, hrest⟩ := List.filterMap_eq_append_iff.mp hsplit
  obtain ⟨skipped, raw, right, rfl, hskipped, hraw, hright⟩ :=
    List.filterMap_eq_cons_iff.mp hrest
  refine ⟨(left ++ skipped).length, r.priority, raw, ?_, candidate?_eq_some_iff.mp hraw, ?_⟩
  · rw [← List.append_assoc, List.getElem?_append_right le_rfl]
    simp
  · intro j q raw' r' hj hraw'
    have hfound := hraw'.candidate?_eq
    rw [hraw'.priority_eq]
    rcases Nat.lt_or_ge j (left ++ skipped).length with hlt | hge
    · -- Candidates before the position come from `left`, as none is in `skipped`.
      left
      rw [← List.append_assoc, List.getElem?_append_left hlt] at hj
      rcases List.mem_append.mp (List.mem_of_getElem? hj) with hmem | hmem
      · apply hbefore r'
        rw [← hleft]
        exact List.mem_filterMap.mpr ⟨raw', hmem, hfound⟩
      · rw [hskipped raw' hmem] at hfound
        simp at hfound
    · rw [← List.append_assoc, List.getElem?_append_right hge] at hj
      have hle : r.priority ≤ r'.priority := by
        rcases List.mem_cons.mp (List.mem_of_getElem? hj) with rfl | hmem
        · rw [hraw] at hfound
          rw [Option.some.inj hfound]
        · apply hafter r'
          rw [← hright]
          exact List.mem_filterMap.mpr ⟨raw', hmem, hfound⟩
      omega

/-- The first of the candidates in priority order is what the raw list decides. -/
theorem decides_head?
    (raws : List Json) :
    Decides now criterion c raws
      ((raws.filterMap (candidate? now criterion c)).mergeSort precedes).head? := by
  cases hhead : ((raws.filterMap (candidate? now criterion c)).mergeSort precedes).head? with
  | some r =>
      exact wins_of_standsFirst ((head?_mergeSort_precedes_eq_some_iff r _).mp hhead)
  | none =>
      intro raw hmem p r hraw
      have hr : r ∈ raws.filterMap (candidate? now criterion c) :=
        List.mem_filterMap.mpr ⟨raw, hmem, hraw.candidate?_eq⟩
      rw [List.head?_eq_none_iff, List.eq_nil_iff_forall_not_mem] at hhead
      exact hhead r (List.mem_mergeSort.mpr hr)

end Candidates

section Scanning

variable {now : Moment} {criterion : String} {c : Context}

/-- The rules that match are the candidates, in priority order. -/
theorem filter_matches_normalize
    {raws : List Json}
    {rules : List Rule}
    (hnormal : normalize now raws = .ok rules) :
    rules.filter (fun r => decide (Matches criterion c r)) =
      (raws.filterMap (candidate? now criterion c)).mergeSort precedes := by
  obtain ⟨-, rfl⟩ := normalize_eq_ok_iff.mp hnormal
  rw [filter_mergeSort_precedes, List.filter_filterMap]
  rfl

/-- A scan that is not disturbed gives what the raw list decides. -/
theorem scan_decides
    {raws : List Json}
    {rules : List Rule}
    (hnormal : normalize now raws = .ok rules)
    (hquiet : Undisturbed (scan criterion c rules).steps) :
    ∃ found,
      (scan criterion c rules).result = .ok found ∧
      found = ((raws.filterMap (candidate? now criterion c)).mergeSort precedes).head? ∧
      Decides now criterion c raws found := by
  obtain ⟨found, hscan⟩ := (scan_undisturbed_iff criterion c rules).mp hquiet
  have hfound := scan_eq_first_match criterion c hscan
  rw [filter_matches_normalize hnormal] at hfound
  refine ⟨found, hscan, hfound, ?_⟩
  rw [hfound]
  exact decides_head? raws

end Scanning

section Reordering

variable {now : Moment}

/-- The entry is an object with a coerced priority. -/
def hasPriority
    (p : Int) : Json → Bool
  | .object members =>
      match decodePriority ((Json.object members).member "priority") with
      | .ok q => decide (q = p)
      | .error _ => false
  | _ => false

/-- An active rule has the priority of its entry. -/
theorem hasPriority_of_activeRule?
    {raw : Json}
    {r : Rule}
    (hr : activeRule? now raw = some r)
    (p : Int) :
    hasPriority p raw = decide (r.priority = p) := by
  obtain ⟨members, rfl, -, hdecode⟩ :=
    decodeActive_eq_some_iff.mp (foundBy_eq_some_iff.mp hr)
  rw [hasPriority, (decode_eq_ok_iff.mp hdecode).1]

/-- The active rules of a priority come from the entries of that priority. -/
theorem tied_filterMap_activeRule?
    (p : Int)
    (raws : List Json) :
    tied p (raws.filterMap (activeRule? now)) =
      (raws.filter (hasPriority p)).filterMap (activeRule? now) := by
  rw [tied, List.filter_filterMap, List.filterMap_filter]
  apply List.filterMap_congr
  intro raw _
  cases hr : activeRule? now raw with
  | none =>
      simp
  | some r =>
      rw [hasPriority_of_activeRule? hr]
      by_cases h : r.priority = p <;> simp [h]

/-- Reordering entries of different priorities does not change the normalized rules. -/
theorem normalize_eq_of_ties
    {raws raws' : List Json}
    {rules : List Rule}
    (hperm : raws.Perm raws')
    (hties : ∀ p, raws'.filter (hasPriority p) = raws.filter (hasPriority p))
    (hnormal : normalize now raws = .ok rules) :
    normalize now raws' = .ok rules := by
  obtain ⟨hall, rfl⟩ := normalize_eq_ok_iff.mp hnormal
  rw [normalize_eq_ok_iff]
  refine ⟨fun raw hmem => hall raw (hperm.mem_iff.mpr hmem), ?_⟩
  apply mergeSort_precedes_congr
  intro p
  rw [tied_filterMap_activeRule?, tied_filterMap_activeRule?, hties]

/-- The two entries differ at most in the order of their conditions. -/
def ConditionsReordered
    (raw raw' : Json) : Prop :=
  raw = raw' ∨
    ∃ before after conditions conditions',
      conditions.Perm conditions' ∧
      raw = .object (before ++ ("conditions", .object conditions) :: after) ∧
      raw' = .object (before ++ ("conditions", .object conditions') :: after)

/-- The two rules differ at most in the order of their conditions. -/
structure EqUpToConditionOrder
    (r r' : Rule) : Prop where
  conditions : r.conditions.Perm r'.conditions
  raw : ConditionsReordered (.object r.raw) (.object r'.raw)
  rest : r' = { r with conditions := r'.conditions, raw := r'.raw }

theorem ConditionsReordered.symm
    {raw raw' : Json}
    (h : ConditionsReordered raw raw') :
    ConditionsReordered raw' raw := by
  rcases h with rfl | ⟨before, after, conditions, conditions', hperm, rfl, rfl⟩
  · exact Or.inl rfl
  · exact Or.inr ⟨before, after, conditions', conditions, hperm.symm, rfl, rfl⟩

/-- Members other than the conditions are the same. -/
theorem ConditionsReordered.member_eq
    {raw raw' : Json}
    (h : ConditionsReordered raw raw')
    {name : String}
    (hname : "conditions" ≠ name) :
    raw'.member name = raw.member name := by
  rcases h with rfl | ⟨before, after, conditions, conditions', -, rfl, rfl⟩
  · rfl
  · simp only [Json.member, Json.member?, Members.get?_append_cons_of_ne hname]

/-- Reordered conditions are read in another order. -/
theorem ConditionsReordered.exists_decodeConditions
    {raw raw' : Json}
    (h : ConditionsReordered raw raw')
    {conditions : Members Expectation}
    (hread : decodeConditions (raw.member "conditions") = .ok conditions) :
    ∃ conditions',
      decodeConditions (raw'.member "conditions") = .ok conditions' ∧
      conditions.Perm conditions' := by
  rcases h with rfl | ⟨before, after, authored, authored', hperm, rfl, rfl⟩
  · exact ⟨conditions, hread, List.Perm.refl conditions⟩
  · cases hbefore : before.find? (·.1 == "conditions") with
    | some member =>
        refine ⟨conditions, ?_, List.Perm.refl conditions⟩
        simpa [Json.member, Json.member?, Members.get?, List.find?_append, hbefore] using hread
    | none =>
        have hmember : ∀ value : Json,
            (Json.object (before ++ ("conditions", value) :: after)).member "conditions" =
              value := by
          intro value
          simp [Json.member, Json.member?, Members.get?, List.find?_append, hbefore]
        rw [hmember] at hread ⊢
        simp only [decodeConditions, mapM_eq_ok_iff] at hread ⊢
        obtain ⟨conditions', hread', hperm'⟩ :=
          List.perm_comp_forall₂ hperm.symm hread
        exact ⟨conditions', hread', hperm'.symm⟩

/-- A rule can be read with its conditions in another order. -/
theorem ConditionsReordered.exists_decode
    {raw : Json}
    {members : Members Json}
    (h : ConditionsReordered (.object members) raw)
    {r : Rule}
    (hread : decode members = .ok r) :
    ∃ members' r',
      raw = .object members' ∧ decode members' = .ok r' ∧ EqUpToConditionOrder r r' := by
  obtain ⟨members', rfl⟩ : ∃ members', raw = .object members' := by
    rcases h with rfl | ⟨_, _, _, _, -, -, rfl⟩
    · exact ⟨members, rfl⟩
    · exact ⟨_, rfl⟩
  obtain ⟨hpriority, hstart, hend, hconditions, hid, henabled, hcriteria, haction, hsegment,
    hraw⟩ := decode_eq_ok_iff.mp hread
  obtain ⟨conditions', hconditions', hperm⟩ := h.exists_decodeConditions hconditions
  refine ⟨members', { r with conditions := conditions', raw := members' }, rfl, ?_, ?_⟩
  · rw [decode_eq_ok_iff]
    simp only [h.member_eq (show "conditions" ≠ "priority" by decide),
      h.member_eq (show "conditions" ≠ "start_at" by decide),
      h.member_eq (show "conditions" ≠ "end_at" by decide),
      h.member_eq (show "conditions" ≠ "id" by decide),
      h.member_eq (show "conditions" ≠ "enabled" by decide),
      h.member_eq (show "conditions" ≠ "criteria" by decide),
      h.member_eq (show "conditions" ≠ "action" by decide),
      h.member_eq (show "conditions" ≠ "segment" by decide)]
    exact ⟨hpriority, hstart, hend, hconditions', hid, henabled, hcriteria, haction, hsegment,
      trivial⟩
  · exact
      { conditions := hperm
        raw := by rw [hraw]; exact h
        rest := rfl }

/-- Whether an entry is active does not depend on the order of its conditions. -/
theorem ConditionsReordered.isActive_eq
    {raw raw' : Json}
    (h : ConditionsReordered raw raw') :
    isActive now raw' = isActive now raw := by
  have henabled := h.member_eq (show "conditions" ≠ "enabled" by decide)
  have hstart := h.member_eq (show "conditions" ≠ "start_at" by decide)
  have hend := h.member_eq (show "conditions" ≠ "end_at" by decide)
  rcases h with rfl | ⟨_, _, _, _, -, rfl, rfl⟩
  · rfl
  · simp only [isActive, henabled, hstart, hend]

/-- An entry is read with its conditions in another order. -/
theorem ConditionsReordered.exists_decodeActive
    {raw raw' : Json}
    (h : ConditionsReordered raw raw')
    {found : Option Rule}
    (hread : decodeActive now raw = .ok found) :
    ∃ found',
      decodeActive now raw' = .ok found' ∧
      Option.Rel EqUpToConditionOrder found found' := by
  cases found with
  | some r =>
      obtain ⟨members, rfl, hactive, hdecode⟩ := decodeActive_eq_some_iff.mp hread
      obtain ⟨members', r', rfl, hdecode', hr'⟩ := h.exists_decode hdecode
      refine ⟨some r', decodeActive_eq_some_iff.mpr ⟨members', rfl, ?_, hdecode'⟩, .some hr'⟩
      rw [h.isActive_eq, hactive]
  | none =>
      refine ⟨none, ?_, .none⟩
      rw [decodeActive_eq_none_iff] at hread ⊢
      rw [h.isActive_eq, hread]

variable {criterion : String} {c : Context}

/-- Conditions in another order all hold if they did. -/
theorem AllHold.perm
    {conditions conditions' : Members Expectation}
    (hperm : conditions.Perm conditions')
    (hall : AllHold c conditions) :
    AllHold c conditions' := by
  intro condition hmem
  exact hall condition (hperm.mem_iff.mpr hmem)

/-- A candidate stays one with its conditions in another order. -/
theorem ConditionsReordered.exists_candidate
    {raw raw' : Json}
    (h : ConditionsReordered raw raw')
    {p : Int}
    {r : Rule}
    (hraw : Candidate now criterion c raw p r) :
    ∃ r', Candidate now criterion c raw' p r' ∧ EqUpToConditionOrder r r' := by
  obtain ⟨members, rfl, hdecode⟩ := hraw.decoded
  obtain ⟨members', r', rfl, hdecode', hr'⟩ := h.exists_decode hdecode
  refine ⟨r', ?_, hr'⟩
  exact
    { active := by rw [h.isActive_eq, hraw.active]
      listed := by
        rw [h.member_eq (by decide)]
        exact hraw.listed
      priority := by
        rw [h.member_eq (by decide)]
        exact hraw.priority
      decoded := ⟨members', rfl, hdecode'⟩
      holds := hraw.holds.perm hr'.conditions }

/-- An entry of the reordered list stands where its original does. -/
theorem exists_original
    {raws raws' : List Json}
    (hraws : List.Forall₂ ConditionsReordered raws raws')
    {j : Nat}
    {raw' : Json}
    (hj : raws'[j]? = some raw') :
    ∃ raw, raws[j]? = some raw ∧ ConditionsReordered raw raw' := by
  obtain ⟨hlength, hget⟩ := List.forall₂_iff_get.mp hraws
  obtain ⟨hlt, rfl⟩ := List.getElem?_eq_some_iff.mp hj
  exact ⟨raws[j], List.getElem?_eq_getElem (hlength ▸ hlt), hget j (hlength ▸ hlt) hlt⟩

/-- With conditions in another order the raw list decides for the same entry. -/
theorem Decides.conditionsReordered
    {raws raws' : List Json}
    (hraws : List.Forall₂ ConditionsReordered raws raws')
    {found : Option Rule}
    (hfound : Decides now criterion c raws found) :
    ∃ found',
      Decides now criterion c raws' found' ∧
      Option.Rel EqUpToConditionOrder found found' := by
  cases found with
  | none =>
      refine ⟨none, ?_, .none⟩
      intro raw' hmem p r' hraw'
      obtain ⟨j, hj⟩ := List.getElem?_of_mem hmem
      obtain ⟨raw, hraw, hrel⟩ := exists_original hraws hj
      obtain ⟨r, hcandidate, -⟩ := hrel.symm.exists_candidate hraw'
      exact hfound raw (List.mem_of_getElem? hraw) p r hcandidate
  | some r =>
      obtain ⟨i, p, raw, hi, hraw, hleast⟩ := hfound
      obtain ⟨hlt, -⟩ := List.getElem?_eq_some_iff.mp hi
      obtain ⟨raw', hi'⟩ : ∃ raw', raws'[i]? = some raw' :=
        ⟨_, List.getElem?_eq_getElem (hraws.length_eq ▸ hlt)⟩
      obtain ⟨original, horiginal, hrel⟩ := exists_original hraws hi'
      obtain rfl : raw = original := Option.some.inj (hi.symm.trans horiginal)
      obtain ⟨r', hraw', hr'⟩ := hrel.exists_candidate hraw
      refine ⟨some r', ⟨i, p, raw', hi', hraw', ?_⟩, .some hr'⟩
      intro j q other' s' hj hother'
      obtain ⟨other, hother, hrel'⟩ := exists_original hraws hj
      obtain ⟨s, hcandidate, -⟩ := hrel'.symm.exists_candidate hother'
      exact hleast j q other s hother hcandidate

end Reordering

section Idling

variable {now : Moment} {criterion : String} {c : Context}

variable (now criterion c) in
/-- A decision can come from the entry. -/
def IsCandidate
    (raw : Json) : Prop :=
  ∃ p r, Candidate now criterion c raw p r

theorem isCandidate_iff
    (raw : Json) :
    IsCandidate now criterion c raw ↔ (candidate? now criterion c raw).isSome = true := by
  rw [Option.isSome_iff_exists]
  constructor
  · rintro ⟨p, r, hraw⟩
    exact ⟨r, hraw.candidate?_eq⟩
  · rintro ⟨r, hr⟩
    exact ⟨r.priority, r, candidate?_eq_some_iff.mp hr⟩

instance
    (raw : Json) :
    Decidable (IsCandidate now criterion c raw) :=
  decidable_of_iff _ (isCandidate_iff raw).symm

/-- Lists with the same candidates give the same candidate rules. -/
theorem filterMap_candidate?_congr
    {raws raws' : List Json}
    (hraws : raws'.filter (fun raw => decide (IsCandidate now criterion c raw)) =
      raws.filter fun raw => decide (IsCandidate now criterion c raw)) :
    raws'.filterMap (candidate? now criterion c) =
      raws.filterMap (candidate? now criterion c) := by
  have hfilter : ∀ raws : List Json,
      (raws.filter fun raw => decide (IsCandidate now criterion c raw)).filterMap
        (candidate? now criterion c) = raws.filterMap (candidate? now criterion c) := by
    intro raws
    rw [List.filterMap_filter]
    apply List.filterMap_congr
    intro raw _
    cases h : candidate? now criterion c raw with
    | none => simp
    | some r => simp [isCandidate_iff, h]
  rw [← hfilter raws', hraws, hfilter raws]

/--
**The winner of a raw list.**  If normalizing and scanning meet no fault, the scan gives
the candidate with the least pair of priority and position, or none if there is no
candidate.  The winner stays the same when the list is reordered with the ties in place,
when conditions are reordered inside their rules, and when entries that are no
candidates are inserted or removed.
-/
theorem normalized_scan_selects_least_candidate
    {raws : List Json}
    {rules : List Rule}
    (hnormal : normalize now raws = .ok rules)
    (hquiet : Undisturbed (scan criterion c rules).steps) :
    ∃ found,
      (scan criterion c rules).result = .ok found ∧
      Decides now criterion c raws found ∧
      (∀ raws',
        raws.Perm raws' →
        (∀ p, raws'.filter (hasPriority p) = raws.filter (hasPriority p)) →
        normalize now raws' = .ok rules) ∧
      (∀ raws',
        List.Forall₂ ConditionsReordered raws raws' →
        ∃ rules',
          normalize now raws' = .ok rules' ∧
          (Undisturbed (scan criterion c rules').steps →
            ∃ found',
              (scan criterion c rules').result = .ok found' ∧
              Option.Rel EqUpToConditionOrder found found')) ∧
      (∀ raws' rules',
        raws'.filter (fun raw => decide (IsCandidate now criterion c raw)) =
          raws.filter (fun raw => decide (IsCandidate now criterion c raw)) →
        normalize now raws' = .ok rules' →
        Undisturbed (scan criterion c rules').steps →
        (scan criterion c rules').result = .ok found) := by
  obtain ⟨found, hscan, hfound, hdecides⟩ := scan_decides hnormal hquiet
  refine ⟨found, hscan, hdecides, ?_, ?_, ?_⟩
  · intro raws' hperm hties
    exact normalize_eq_of_ties hperm hties hnormal
  · intro raws' hraws
    have hall : ∀ raw' ∈ raws', ∃ read, decodeActive now raw' = .ok read := by
      obtain ⟨hall, -⟩ := normalize_eq_ok_iff.mp hnormal
      intro raw' hmem
      obtain ⟨j, hj⟩ := List.getElem?_of_mem hmem
      obtain ⟨raw, hraw, hrel⟩ := exists_original hraws hj
      obtain ⟨read, hread⟩ := hall raw (List.mem_of_getElem? hraw)
      obtain ⟨read', hread', -⟩ := hrel.exists_decodeActive hread
      exact ⟨read', hread'⟩
    have hnormal' := normalize_eq_ok_iff.mpr ⟨hall, rfl⟩
    refine ⟨_, hnormal', fun hquiet' => ?_⟩
    obtain ⟨found', hscan', -, hdecides'⟩ := scan_decides hnormal' hquiet'
    obtain ⟨expected, hexpected, hrel⟩ := hdecides.conditionsReordered hraws
    exact ⟨found', hscan', hdecides'.unique hexpected ▸ hrel⟩
  · intro raws' rules' hraws hnormal' hquiet'
    obtain ⟨found', hscan', hfound', -⟩ := scan_decides hnormal' hquiet'
    rw [hscan', hfound', filterMap_candidate?_congr hraws, ← hfound]

/-- A visitor with a browser on a system. -/
def desktopVisitor
    (browser system : String) : Context where
  server :=
    { method := "GET"
      path := "/"
      referrer := ""
      userAgent := ""
      agent := ⟨browser, system, false⟩
      headers := []
      cookies := []
      query := []
      post := []
      address := ""
      record := Record.fallback "" none }
  client := []

/-- A raw rule for visitors of a system. -/
def systemEntry
    (id system : String) : Json :=
  .object
    [("id", .string id),
      ("criteria", .array [.string serverSide]),
      ("conditions", .object [("os", .string system)])]

/-- Four entries, of which the last two are candidates of one priority on one system. -/
def tiedEntries : List Json :=
  [.null, systemEntry "other" "Windows", systemEntry "first" "Linux",
    systemEntry "second" "Linux"]

/-- Of two candidates with the same priority the earlier one is selected. -/
theorem earlier_of_tied_entries_selected :
    ∃ rules,
      normalize Moment.first tiedEntries = .ok rules ∧
      Undisturbed (scan serverSide (desktopVisitor "Firefox" "Linux") rules).steps ∧
      ∃ found,
        (scan serverSide (desktopVisitor "Firefox" "Linux") rules).result = .ok found ∧
        Decides Moment.first serverSide (desktopVisitor "Firefox" "Linux") tiedEntries found ∧
        found.bind (·.id) = some "first" := by
  have hread : ∀ raw ∈ tiedEntries, ∃ found, decodeActive Moment.first raw = .ok found := by
    intro raw hraw
    simp only [tiedEntries, List.mem_cons, List.not_mem_nil, or_false] at hraw
    rcases hraw with rfl | rfl | rfl | rfl <;> exact ⟨_, rfl⟩
  have hnormal : normalize Moment.first tiedEntries =
      .ok (tiedEntries.filterMap (activeRule? Moment.first)) :=
    normalize_eq_ok_iff.mpr ⟨hread, (List.mergeSort_of_pairwise (by decide)).symm⟩
  have hquiet : Undisturbed (scan serverSide (desktopVisitor "Firefox" "Linux")
      (tiedEntries.filterMap (activeRule? Moment.first))).steps :=
    (scan_undisturbed_iff _ _ _).mpr ⟨_, rfl⟩
  obtain ⟨found, hscan, hdecides, -⟩ :=
    normalized_scan_selects_least_candidate hnormal hquiet
  refine ⟨_, hnormal, hquiet, found, hscan, hdecides, ?_⟩
  have hid : (scan serverSide (desktopVisitor "Firefox" "Linux")
      (tiedEntries.filterMap (activeRule? Moment.first))).result.toOption.join.bind (·.id) =
      some "first" := by
    decide
  rwa [hscan] at hid

end Idling

end Rule
end Turnstile
