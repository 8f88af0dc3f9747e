import Turnstile.Proofs.MatchFaults
import Turnstile.Proofs.Winner

/-!
# How far a scan goes

A scan is a loop over rules around a loop over conditions, and both end early.  What they
try is a beginning of what there is: of the rules with the criterion those up to and
including the first that is not turned down, and of the conditions of each of them those
up to and including the first that does not hold.

**Ways in which a rule ends the scan.**  All its conditions hold, or one that it comes to
is at fault.  A rule is turned down if the first of its conditions that does not hold is
false, and then the scan goes on.

**Results.**
* `steps_tryConditions`, `stopsWith_iff`: what is tried of a rule, and how that ends.
* `follows_scan`: what is tried of a list of rules, counted and found.
* `Follows.unique`: nothing else goes the same way.
* `scan_tries_up_to_first_match`: all of this, and what a scan does not depend on.
-/

namespace Turnstile
namespace Rule

section Through

variable {α : Type} {ends : α → Bool} {x : α} {rest : List α}

/-- The elements up to and including the first at which a search ends. -/
def through
    (ends : α → Bool)
    (xs : List α) : List α :=
  xs.takeWhile (fun x => !ends x) ++ (xs.dropWhile fun x => !ends x).take 1

theorem through_cons_of_ends
    (h : ends x = true) :
    through ends (x :: rest) = [x] := by
  simp [through, h]

theorem through_cons_of_passes
    (h : ends x = false) :
    through ends (x :: rest) = x :: through ends rest := by
  simp [through, h]

end Through

section Trials

variable (c : Context)

/-- What trying a condition adds to the steps of a scan. -/
def stepOf
    (condition : String × Expectation) : Step :=
  ⟨condition.1, conditionHolds c condition.1 condition.2⟩

/-- The conditions that are tried: up to and including the first that does not hold. -/
def tried
    (conditions : Members Expectation) : Members Expectation :=
  through (fun condition => decide (conditionHolds c condition.1 condition.2 ≠ .ok true)) conditions

/-- The first condition that does not hold comes out as `result`. -/
def StopsWith
    (result : Except Fault Bool)
    (conditions : Members Expectation) : Prop :=
  PassesTo (fun condition => conditionHolds c condition.1 condition.2 = .ok true)
    (fun condition => conditionHolds c condition.1 condition.2 = result) conditions

/-- Conditions are tried in their order up to and including the first that does not hold. -/
theorem steps_tryConditions
    (conditions : Members Expectation) :
    (tryConditions c conditions).steps = (tried c conditions).map (stepOf c) := by
  induction conditions with
  | nil =>
      rfl
  | cons condition rest ih =>
      obtain ⟨key, e⟩ := condition
      rw [tryConditions, tried]
      split
      next hholds =>
        rw [through_cons_of_passes (by simp [hholds]), List.map_cons, stepOf, hholds]
        exact congrArg _ ih
      next hstops =>
        have hends : conditionHolds c key e ≠ .ok true := hstops
        rw [through_cons_of_ends (by simpa using hends)]
        rfl

/-- A trial comes out as the first condition that does not hold. -/
theorem stopsWith_iff
    {result : Except Fault Bool}
    (conditions : Members Expectation)
    (hresult : result ≠ .ok true) :
    StopsWith c result conditions ↔ (tryConditions c conditions).result = result := by
  induction conditions with
  | nil =>
      exact iff_of_false not_passesTo_nil hresult.symm
  | cons condition rest ih =>
      obtain ⟨key, e⟩ := condition
      rw [StopsWith, passesTo_cons_iff, tryConditions]
      split
      next hholds =>
        rw [← StopsWith, ih]
        simp [hholds, hresult.symm]
      next hstops =>
        exact or_iff_left fun hpassed => hstops hpassed.1

end Trials

section Scans

variable (criterion : String) (c : Context)

/-- The first of a rule's conditions that does not hold is false. -/
def IsTurnedDown
    (r : Rule) : Prop :=
  StopsWith c (.ok false) r.conditions

instance
    (r : Rule) :
    Decidable (IsTurnedDown c r) :=
  decidable_of_iff _ (stopsWith_iff c r.conditions (by simp)).symm

/-- A scan goes on past a rule. -/
def IsPassed
    (r : Rule) : Prop :=
  r.carries criterion = true → IsTurnedDown c r

instance
    (r : Rule) :
    Decidable (IsPassed criterion c r) :=
  inferInstanceAs (Decidable (_ → _))

/-- The rules with the criterion, up to and including the first that is not turned down. -/
def lookedAt
    (rules : List Rule) : List Rule :=
  through (fun r => decide (¬ IsTurnedDown c r)) (rules.filter (·.carries criterion))

/-- The steps of a rule: its conditions that are tried. -/
def stepsOf
    (r : Rule) : List Step :=
  (tried c r.conditions).map (stepOf c)

/-- How a scan goes: what it tries, how many rules it looks at, and how it ends. -/
structure Follows
    (rules : List Rule)
    (s : Scan) : Prop where
  steps : s.steps = (lookedAt criterion c rules).flatMap (stepsOf c)
  looked : s.looked = (lookedAt criterion c rules).length
  found : ∀ r, s.result = .ok (some r) ↔
    PassesTo (IsPassed criterion c) (fun r' => r' = r ∧ Matches criterion c r') rules
  exhausted : s.result = .ok none ↔ ∀ r ∈ rules, IsPassed criterion c r
  fault : ∀ fault, s.result = .error fault ↔
    PassesTo (IsPassed criterion c)
      (fun r => r.carries criterion = true ∧ StopsWith c (.error fault) r.conditions) rules

variable {criterion c} {r : Rule} {rules : List Rule} {s : Scan}

/-- Scans that go the same way are the same. -/
theorem Follows.unique
    {s' : Scan}
    (h : Follows criterion c rules s)
    (h' : Follows criterion c rules s') :
    s = s' := by
  have hsteps : s.steps = s'.steps := h.steps.trans h'.steps.symm
  have hlooked : s.looked = s'.looked := h.looked.trans h'.looked.symm
  have hresult : s.result = s'.result := by
    cases hs : s.result with
    | error fault => exact ((h'.fault fault).mpr ((h.fault fault).mp hs)).symm
    | ok found =>
        cases found with
        | none => exact (h'.exhausted.mpr (h.exhausted.mp hs)).symm
        | some r => exact ((h'.found r).mpr ((h.found r).mp hs)).symm
  obtain ⟨steps, looked, result⟩ := s
  obtain ⟨steps', looked', result'⟩ := s'
  obtain rfl : steps = steps' := hsteps
  obtain rfl : looked = looked' := hlooked
  obtain rfl : result = result' := hresult
  rfl

theorem follows_nil : Follows criterion c [] ⟨[], 0, .ok none⟩ where
  steps := rfl
  looked := rfl
  found := fun r => iff_of_false (by simp) not_passesTo_nil
  exhausted := by simp
  fault := fun fault => iff_of_false (by simp) not_passesTo_nil

/-- A rule without the criterion is passed over. -/
theorem Follows.cons_of_not_carries
    (hcarries : r.carries criterion ≠ true)
    (h : Follows criterion c rules s) :
    Follows criterion c (r :: rules) s := by
  have hpassed : IsPassed criterion c r := fun hc => absurd hc hcarries
  have hlooked : lookedAt criterion c (r :: rules) = lookedAt criterion c rules := by
    simp only [lookedAt, List.filter_cons, if_neg hcarries]
  refine ⟨?_, ?_, ?_, ?_, ?_⟩
  · rw [hlooked, h.steps]
  · rw [hlooked, h.looked]
  · intro r'
    rw [h.found, passesTo_cons_iff]
    simp [hpassed, Matches, hcarries]
  · rw [h.exhausted, List.forall_mem_cons, and_iff_right hpassed]
  · intro fault
    rw [h.fault, passesTo_cons_iff]
    simp [hpassed, hcarries]

/-- A rule that is turned down adds its steps to what follows. -/
theorem Follows.cons_of_isTurnedDown
    (hcarries : r.carries criterion = true)
    (hresult : (tryConditions c r.conditions).result = .ok false)
    (h : Follows criterion c rules s) :
    Follows criterion c (r :: rules) ⟨stepsOf c r ++ s.steps, s.looked + 1, s.result⟩ := by
  have hdown : IsTurnedDown c r := (stopsWith_iff c r.conditions (by simp)).mpr hresult
  have hpassed : IsPassed criterion c r := fun _ => hdown
  have hlooked : lookedAt criterion c (r :: rules) = r :: lookedAt criterion c rules := by
    simp only [lookedAt, List.filter_cons, if_pos hcarries]
    exact through_cons_of_passes (by simpa using hdown)
  refine ⟨?_, ?_, ?_, ?_, ?_⟩
  · rw [hlooked, List.flatMap_cons, h.steps]
  · rw [hlooked, List.length_cons, h.looked]
  · intro r'
    rw [h.found, passesTo_cons_iff]
    simp [hpassed, Matches, ← tryConditions_eq_true_iff, hresult]
  · rw [h.exhausted, List.forall_mem_cons, and_iff_right hpassed]
  · intro fault
    rw [h.fault, passesTo_cons_iff, stopsWith_iff c r.conditions (by simp), hresult]
    simp [hpassed]

/-- A rule that is not turned down ends the scan, whatever follows. -/
theorem follows_cons_of_ends
    {result : Except Fault Bool}
    (hcarries : r.carries criterion = true)
    (hresult : (tryConditions c r.conditions).result = result)
    (hends : result ≠ .ok false)
    (rules : List Rule) :
    Follows criterion c (r :: rules) ⟨stepsOf c r, 1, result.map fun _ => some r⟩ := by
  have hdown : ¬ IsTurnedDown c r := by
    rw [IsTurnedDown, stopsWith_iff c r.conditions (by simp), hresult]
    exact hends
  have hpassed : ¬ IsPassed criterion c r := fun h => hdown (h hcarries)
  have hlooked : lookedAt criterion c (r :: rules) = [r] := by
    simp only [lookedAt, List.filter_cons, if_pos hcarries]
    exact through_cons_of_ends (by simpa using hdown)
  refine ⟨?_, ?_, ?_, ?_, ?_⟩
  · simp [hlooked]
  · simp [hlooked]
  · intro r'
    rw [passesTo_cons_iff, Matches, ← tryConditions_eq_true_iff, hresult]
    rcases result with fault | _ | _
    · simp [hpassed, Except.map]
    · exact absurd rfl hends
    · simp [hpassed, hcarries, Except.map]
  · simp only [List.forall_mem_cons, hpassed, false_and, iff_false]
    cases result <;> simp [Except.map]
  · intro fault
    rw [passesTo_cons_iff, stopsWith_iff c r.conditions (by simp), hresult]
    cases result <;> simp [hpassed, hcarries, Except.map]

/-- Rules are scanned in their order up to and including the first that is not turned down. -/
theorem follows_scan
    (rules : List Rule) :
    Follows criterion c rules (scan criterion c rules) := by
  induction rules with
  | nil =>
      exact follows_nil
  | cons r rest ih =>
      by_cases hcarries : r.carries criterion = true
      · have hsteps : (tryConditions c r.conditions).steps = stepsOf c r :=
          steps_tryConditions c r.conditions
        simp only [scan, if_pos hcarries, hsteps]
        cases hresult : (tryConditions c r.conditions).result with
        | error fault =>
            exact follows_cons_of_ends hcarries hresult (by simp) rest
        | ok holds =>
            cases holds with
            | true => exact follows_cons_of_ends hcarries hresult (by simp) rest
            | false => exact ih.cons_of_isTurnedDown hcarries hresult
      · rw [scan, if_neg hcarries]
        exact ih.cons_of_not_carries hcarries

/-- What follows a rule that matches is not looked at. -/
theorem scan_append_cons_of_matches
    {before : List Rule}
    (hbefore : ∀ b ∈ before, IsPassed criterion c b)
    (hmatch : Matches criterion c r)
    (after after' : List Rule) :
    scan criterion c (before ++ r :: after) = scan criterion c (before ++ r :: after') := by
  induction before with
  | nil =>
      have htrue := (tryConditions_eq_true_iff c r.conditions).mpr hmatch.2
      have hends : ∀ rules, Follows criterion c (r :: rules) ⟨stepsOf c r, 1, .ok (some r)⟩ :=
        follows_cons_of_ends hmatch.1 htrue (by simp)
      exact ((follows_scan _).unique (hends after)).trans
        ((follows_scan _).unique (hends after')).symm
  | cons b rest ih =>
      rw [List.forall_mem_cons] at hbefore
      rw [List.cons_append, List.cons_append, scan, scan, ih hbefore.2]

/-- Rules without the criterion do not count. -/
theorem scan_filter_carries
    (rules : List Rule) :
    scan criterion c (rules.filter (·.carries criterion)) = scan criterion c rules := by
  induction rules with
  | nil =>
      rfl
  | cons r rest ih =>
      by_cases hcarries : r.carries criterion = true
      · rw [List.filter_cons, if_pos hcarries, scan, scan, ih]
      · rw [List.filter_cons, if_neg hcarries, scan, if_neg hcarries, ih]

/-- A scan fails iff a condition that it tries is at fault. -/
theorem exists_fault_iff
    (rules : List Rule) :
    (∃ fault, (scan criterion c rules).result = .error fault) ↔
      ∃ step ∈ (scan criterion c rules).steps, ∃ fault, step.result = .error fault := by
  have hquiet := not_congr (scan_undisturbed_iff criterion c rules)
  have herror : ∀ {α : Type} (x : Except Fault α),
      (¬ ∃ a, x = .ok a) ↔ ∃ fault, x = .error fault := by
    intro α x
    cases x <;> simp
  rw [← herror, ← hquiet, Undisturbed]
  simp only [not_forall, herror, exists_prop]

/--
**A scan stops at the first match.**  It tries, of the rules with the criterion in their
order, those up to and including the first that is not turned down, and of each of these
the conditions in their order up to and including the first that does not hold.  It counts
these rules, gives the first rule that matches, if it comes to one, and fails exactly when
a condition that it tries is at fault.  So neither what stands after the rule that is given
nor the rules without the criterion make a difference to what is tried, counted or given.
-/
theorem scan_tries_up_to_first_match
    (criterion : String)
    (c : Context)
    (rules : List Rule) :
    (∀ s, Follows criterion c rules s ↔ s = scan criterion c rules) ∧
    ((∃ fault, (scan criterion c rules).result = .error fault) ↔
      ∃ step ∈ (scan criterion c rules).steps, ∃ fault, step.result = .error fault) ∧
    (∀ before r after after',
      rules = before ++ r :: after →
      (∀ b ∈ before, IsPassed criterion c b) →
      Matches criterion c r →
      scan criterion c (before ++ r :: after') = scan criterion c rules ∧
        firstMatch criterion c (before ++ r :: after') = .ok (some r)) ∧
    (∀ rules',
      rules'.filter (·.carries criterion) = rules.filter (·.carries criterion) →
      scan criterion c rules' = scan criterion c rules ∧
        firstMatch criterion c rules' = firstMatch criterion c rules) := by
  refine ⟨fun s => ⟨fun h => h.unique (follows_scan rules), ?_⟩, exists_fault_iff rules, ?_, ?_⟩
  · rintro rfl
    exact follows_scan rules
  · rintro before r after after' rfl hbefore hmatch
    have hsame := scan_append_cons_of_matches hbefore hmatch after' after
    have hfound := ((follows_scan (before ++ r :: after')).found r).mpr
      ⟨before, r, after', rfl, hbefore, rfl, hmatch⟩
    exact ⟨hsame, hfound⟩
  · intro rules' hfilter
    have hsame : scan criterion c rules' = scan criterion c rules := by
      rw [← scan_filter_carries rules', hfilter, scan_filter_carries]
    exact ⟨hsame, congrArg Scan.result hsame⟩

/-- A rule for visits on the server, under conditions. -/
def serverRule
    (id : String)
    (conditions : Members Expectation) : Rule where
  id := some id
  enabled := true
  priority := defaultPriority
  startAt := none
  endAt := none
  conditions
  criteria := [.whole serverSide]
  action := none
  segment := .null
  raw := []

/-- The condition that a system has a name. -/
def onSystem
    (name : String) : String × Expectation :=
  ("os", .comparison (.literal (.string name)))

/-- A condition that is at fault for every path. -/
def faultyCondition : String × Expectation :=
  ("path_regex", .comparison (.literal (.string "a\x7b4294967295\x7d")))

/-- Conditions that are at fault do no harm behind one that is false or behind the rule found. -/
theorem faults_out_of_reach_do_no_harm :
    (∀ after,
      scan serverSide (desktopVisitor "Firefox" "Linux")
          (serverRule "a" [onSystem "Windows", faultyCondition] ::
            serverRule "b" [onSystem "Linux"] :: after) =
        ⟨[⟨"os", .ok false⟩, ⟨"os", .ok true⟩], 2, .ok (some (serverRule "b" [onSystem "Linux"]))⟩) ∧
      conditionHolds (desktopVisitor "Firefox" "Linux") faultyCondition.1 faultyCondition.2 =
        .error (.pattern .repetitionTooLarge) := by
  obtain ⟨-, -, hafter, -⟩ := scan_tries_up_to_first_match serverSide
    (desktopVisitor "Firefox" "Linux")
    [serverRule "a" [onSystem "Windows", faultyCondition], serverRule "b" [onSystem "Linux"]]
  refine ⟨fun after => ?_, by decide +kernel⟩
  have hsame := hafter [serverRule "a" [onSystem "Windows", faultyCondition]]
    (serverRule "b" [onSystem "Linux"]) [] after rfl (by decide) (by decide)
  exact hsame.1.trans (by rfl)

end Scans

end Rule
end Turnstile
