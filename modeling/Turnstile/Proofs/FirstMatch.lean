import Mathlib.Logic.Basic
import Turnstile.Rule.Scan

/-!
# What a scan finds

A scan tries conditions one after another and stops at the first rule whose conditions
all hold.  It fails exactly when a condition that it tries is at fault; when it does not
fail, it gives the first rule, in the order of the list, that carries the criterion and
meets the context.
-/

namespace Turnstile
namespace Rule

section FirstMatch

variable (criterion : String) (c : Context)

/-- Every condition holds in the context. -/
def AllHold
    (conditions : Members Expectation) : Prop :=
  ∀ condition ∈ conditions, conditionHolds c condition.1 condition.2 = .ok true

/-- None of the conditions that were tried was at fault. -/
def Undisturbed
    (steps : List Step) : Prop :=
  ∀ step ∈ steps, ∃ holds, step.result = .ok holds

theorem undisturbed_cons
    (step : Step)
    (steps : List Step) :
    Undisturbed (step :: steps) ↔
      (∃ holds, step.result = .ok holds) ∧ Undisturbed steps := by
  simp [Undisturbed]

theorem undisturbed_append
    (left right : List Step) :
    Undisturbed (left ++ right) ↔ Undisturbed left ∧ Undisturbed right := by
  simp only [Undisturbed, List.forall_mem_append]

/-- Trying conditions ends in true iff all of them hold. -/
theorem tryConditions_eq_true_iff
    (conditions : Members Expectation) :
    (tryConditions c conditions).result = .ok true ↔ AllHold c conditions := by
  induction conditions with
  | nil =>
      simp [tryConditions, AllHold]
  | cons condition rest ih =>
      obtain ⟨key, e⟩ := condition
      unfold tryConditions
      cases h : conditionHolds c key e with
      | error fault =>
          simp [AllHold, h]
      | ok holds =>
          cases holds with
          | false =>
              simp [AllHold, h]
          | true =>
              simp only [ih]
              simp [AllHold, h]

/-- Trying conditions ends in an answer iff none that is tried is at fault. -/
theorem tryConditions_undisturbed_iff
    (conditions : Members Expectation) :
    Undisturbed (tryConditions c conditions).steps ↔
      ∃ holds, (tryConditions c conditions).result = .ok holds := by
  induction conditions with
  | nil =>
      simp [tryConditions, Undisturbed]
  | cons condition rest ih =>
      obtain ⟨key, e⟩ := condition
      unfold tryConditions
      cases h : conditionHolds c key e with
      | error fault =>
          simp [Undisturbed]
      | ok holds =>
          cases holds with
          | false =>
              simp [Undisturbed]
          | true =>
              simp only [undisturbed_cons, ih]
              simp

/-- A scan ends in an answer iff no condition that it tries is at fault. -/
theorem scan_undisturbed_iff
    (rules : List Rule) :
    Undisturbed (scan criterion c rules).steps ↔
      ∃ found, (scan criterion c rules).result = .ok found := by
  induction rules with
  | nil =>
      simp [scan, Undisturbed]
  | cons r rest ih =>
      unfold scan
      by_cases hcarries : r.carries criterion = true
      · rw [if_pos hcarries]
        have htrial := tryConditions_undisturbed_iff c r.conditions
        cases hresult : (tryConditions c r.conditions).result with
        | error fault =>
            simp only [hresult] at htrial ⊢
            simpa using htrial
        | ok holds =>
            simp only [hresult] at htrial ⊢
            cases holds with
            | true =>
                simpa using htrial
            | false =>
                rw [undisturbed_append, ih]
                simpa using fun _ _ => htrial.mpr ⟨false, rfl⟩
      · rw [if_neg hcarries]
        exact ih

/-- The rule is looked at for the criterion, and all its conditions hold. -/
def Matches
    (r : Rule) : Prop :=
  r.carries criterion = true ∧ AllHold c r.conditions

instance
    (conditions : Members Expectation) :
    Decidable (AllHold c conditions) :=
  decidable_of_iff ((tryConditions c conditions).result.toOption = some true) <| by
    rw [← tryConditions_eq_true_iff]
    cases (tryConditions c conditions).result with
    | error fault => simp [Except.toOption]
    | ok holds => simp [Except.toOption]

instance
    (r : Rule) :
    Decidable (Matches criterion c r) :=
  inferInstanceAs (Decidable (_ ∧ _))

/-- A scan that gives an answer gives the first rule that matches. -/
theorem scan_eq_first_match
    {rules : List Rule}
    {found : Option Rule}
    (hscan : (scan criterion c rules).result = .ok found) :
    found = (rules.filter fun r => decide (Matches criterion c r)).head? := by
  induction rules with
  | nil =>
      simpa [scan, eq_comm] using hscan
  | cons r rest ih =>
      unfold scan at hscan
      by_cases hcarries : r.carries criterion = true
      · rw [if_pos hcarries] at hscan
        have htrial := tryConditions_eq_true_iff c r.conditions
        cases hresult : (tryConditions c r.conditions).result with
        | error fault =>
            simp [hresult] at hscan
        | ok holds =>
            simp only [hresult] at hscan htrial
            cases holds with
            | true =>
                have hmatch : Matches criterion c r := ⟨hcarries, htrial.mp rfl⟩
                simpa [hmatch, eq_comm] using hscan
            | false =>
                have hmatch : ¬ Matches criterion c r := by
                  rintro ⟨-, hall⟩
                  simpa using htrial.mpr hall
                simpa [hmatch] using ih hscan
      · rw [if_neg hcarries] at hscan
        have hmatch : ¬ Matches criterion c r := fun h => hcarries h.1
        simpa [hmatch] using ih hscan

end FirstMatch

section OtherContexts

variable {c c' : Context}

/-- Contexts in which the conditions come out alike are alike to a trial. -/
theorem tryConditions_congr
    {conditions : Members Expectation}
    (h : ∀ condition ∈ conditions,
      conditionHolds c condition.1 condition.2 = conditionHolds c' condition.1 condition.2) :
    tryConditions c conditions = tryConditions c' conditions := by
  induction conditions with
  | nil =>
      rfl
  | cons condition rest ih =>
      have hhead := h condition (by simp)
      have hrest := ih fun other hmem => h other (List.mem_cons_of_mem _ hmem)
      simp only [tryConditions, hhead, hrest]

/-- Contexts in which the conditions of all rules come out alike are alike to a scan. -/
theorem scan_congr
    (criterion : String)
    {rules : List Rule}
    (h : ∀ r ∈ rules, ∀ condition ∈ r.conditions,
      conditionHolds c condition.1 condition.2 = conditionHolds c' condition.1 condition.2) :
    scan criterion c rules = scan criterion c' rules := by
  induction rules with
  | nil =>
      rfl
  | cons r rest ih =>
      have hhead := tryConditions_congr (h r (by simp))
      have hrest := ih fun other hmem => h other (List.mem_cons_of_mem _ hmem)
      simp only [scan, hhead, hrest]

end OtherContexts

end Rule
end Turnstile
