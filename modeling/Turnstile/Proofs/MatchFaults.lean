import Turnstile.Proofs.Conversion
import Turnstile.Proofs.FirstMatch
import Turnstile.Proofs.Outcome
import Turnstile.Proofs.PatternRefusal

/-!
# Which comparisons are at fault

A comparison gives an answer unless it is at *fault*, and there are two kinds of fault:
the operands of an order are numbers of which one does not convert to a double, or the
pattern of a search is refused, which it is for a reason in its text.  A condition is at
fault if a comparison is that it comes to, and a scan gives a result iff no condition
that it reaches is at fault.

**Results.**
* `exists_order_iff`, `exists_isBetween_iff`: when texts and operands can be ordered.
* `Expectation.exists_matches_iff`: when an expectation is answered.
* `exists_conditionHolds_iff`, `exists_scan_iff`: when conditions are, and scans.
* `answers_unless_at_fault`: all of this, with the reasons for which patterns are refused.
* `overlarge_operand_and_count_are_faults`: comparisons that give no answer.
-/

namespace Turnstile
namespace Rule

section Comparisons

variable {actual : String} {operand : Json}

/-- Both sides are numbers, and one of them does not convert. -/
def Resists
    (actual : String)
    (operand : Json) : Prop :=
  isNumeric (.string actual) = true ∧ isNumeric operand = true ∧
    (resistsConversion (.string actual) = true ∨ resistsConversion operand = true)

/-- The lower bound resists, or the upper bound does and the lower one does not stop before it. -/
def ResistsBetween
    (actual : String)
    (operand : Json) : Prop :=
  (∃ low, givenBound (bounds operand).1 = some low ∧ Resists actual low) ∨
    (∀ low, givenBound (bounds operand).1 = some low → order actual low ≠ .ok .lt) ∧
      ∃ high, givenBound (bounds operand).2 = some high ∧ Resists actual high

/-- A pattern is refused for another reason than its grammar. -/
def Refused
    (allowDelimited : Bool)
    (pattern : String) : Prop :=
  ∃ e, Pattern.compile allowDelimited pattern = .error e

/-- An operator gives no answer for a text and an operand. -/
def Operator.Faults
    (op : Operator)
    (actual : String)
    (operand : Json) : Prop :=
  match op with
  | .gt | .lt | .gte | .lte => Resists actual operand
  | .between => ResistsBetween actual operand
  | .regex => Refused false (comparisonText operand)
  | _ => False

/-- A comparison gives no answer for a signal. -/
def Comparison.Faults : Comparison → Signal → Prop
  | .operator name operand, actual => (Operator.ofName name).Faults actual.text operand
  | .literal (.string s), _ => ∃ body, searchLiteral? s = some body ∧ Refused false body
  | .literal _, _ => False

/-- An expectation gives no answer for a signal. -/
def Expectation.Faults : Expectation → Signal → Prop
  | .comparison c, actual => c.Faults actual
  | _, _ => False

/-- Texts and operands are ordered unless both are numbers and one does not convert. -/
theorem exists_order_iff :
    (∃ result, order actual operand = .ok result) ↔ ¬ Resists actual operand := by
  unfold order Resists
  by_cases hnumeric : isNumeric (.string actual) = true ∧ isNumeric operand = true
  · obtain ⟨hactual, hoperand⟩ := hnumeric
    have hleft := exists_toDouble_iff hactual
    have hright := exists_toDouble_iff hoperand
    rw [if_pos (by rw [hactual, hoperand]; rfl)]
    simp only [hactual, hoperand, true_and, not_or, Bool.not_eq_true, ← hleft, ← hright]
    constructor
    · rintro ⟨result, h⟩
      obtain ⟨x, hx, h⟩ := bind_eq_ok_iff.mp h
      obtain ⟨y, hy, -⟩ := bind_eq_ok_iff.mp h
      exact ⟨⟨x, hx⟩, y, hy⟩
    · rintro ⟨⟨x, hx⟩, y, hy⟩
      rw [hx, hy]
      exact ⟨_, rfl⟩
  · rw [if_neg (by simpa using hnumeric)]
    constructor
    · rintro - ⟨hactual, hoperand, -⟩
      exact hnumeric ⟨hactual, hoperand⟩
    · exact fun _ => ⟨_, rfl⟩

theorem exists_search_iff
    {allowDelimited : Bool}
    {pattern text : String} :
    (∃ found, search allowDelimited pattern text = .ok found) ↔ ¬ Refused allowDelimited pattern := by
  unfold search Refused Pattern.find
  cases hcompiled : Pattern.compile allowDelimited pattern with
  | error e => simp [bind, Except.bind]
  | ok node => cases node <;> simp [bind, Except.bind, pure, Except.pure]

/-- A text is found between bounds, or not, unless a bound that it comes to resists. -/
theorem exists_isBetween_iff :
    (∃ result, isBetween actual operand = .ok result) ↔ ¬ ResistsBetween actual operand := by
  have hupper : ∀ high, (∃ result, (do return (← order actual high) != .gt : Except Fault Bool) =
      .ok result) ↔ ¬ Resists actual high :=
    fun high => exists_bind_pure_iff.trans exists_order_iff
  unfold isBetween ResistsBetween
  dsimp only
  cases hlow : givenBound (bounds operand).1 with
  | none =>
      cases hhigh : givenBound (bounds operand).2 with
      | none => simp [pure, Except.pure]
      | some high => exact (hupper high).trans (by simp)
  | some low =>
      have hlower : (∃ result, order actual low = .ok result) ↔ ¬ Resists actual low :=
        exists_order_iff
      cases horder : order actual low with
      | error fault =>
          rw [horder] at hlower
          have hresists : Resists actual low := by simpa using hlower
          simp [horder, hresists, bind, Except.bind]
      | ok result =>
          rw [horder] at hlower
          have hconverts : ¬ Resists actual low := by simpa using hlower
          by_cases hlt : result = .lt
          · simp [horder, hconverts, hlt, bind, Except.bind, pure, Except.pure]
          · have hne : (result == Ordering.lt) = false := by simpa using hlt
            cases hhigh : givenBound (bounds operand).2 with
            | none => simp [horder, hconverts, hne, bind, Except.bind, pure, Except.pure]
            | some high =>
                refine Iff.trans ?_ ((hupper high).trans ?_)
                · simp only [horder, hne, bind, Except.bind, Bool.false_eq_true, if_false]
                · simp [horder, hconverts, hlt]

end Comparisons

section Expectations

variable {actual : Signal}

theorem Operator.exists_holds_iff
    {op : Operator}
    {operand : Json} :
    (∃ b, op.holds actual operand = .ok b) ↔ ¬ op.Faults actual.text operand := by
  cases op with
  | gt | lt | gte | lte => exact exists_bind_pure_iff.trans exists_order_iff
  | between => exact exists_isBetween_iff
  | regex => exact exists_search_iff
  | _ => exact iff_of_true ⟨_, rfl⟩ not_false

/-- Texts that stand for emptiness are no searches. -/
theorem searchLiteral?_eq_none :
    searchLiteral? "is_not_empty" = none ∧ searchLiteral? "empty" = none := by
  decide

theorem Comparison.exists_matches_iff
    {c : Comparison} :
    (∃ b, c.matches actual = .ok b) ↔ ¬ c.Faults actual := by
  cases c with
  | operator name operand => exact Operator.exists_holds_iff
  | literal value =>
      unfold Comparison.matches literalMatches
      dsimp only
      split
      · simp [Faults, searchLiteral?_eq_none]
      · simp [Faults, searchLiteral?_eq_none]
      next s _ _ =>
        cases hbody : searchLiteral? s with
        | none => simp [Faults, hbody]
        | some body => exact exists_search_iff.trans (by simp [Faults, hbody])
      next hother =>
        cases value with
        | string s => exact absurd rfl (hother s)
        | _ => simp [Faults]

/-- An expectation is answered for a signal unless it is at fault. -/
theorem Expectation.exists_matches_iff
    {e : Expectation} :
    (∃ b, e.matches actual = .ok b) ↔ ¬ e.Faults actual := by
  cases e with
  | comparison c => exact Comparison.exists_matches_iff
  | _ => simp [Expectation.matches, Faults]

end Expectations

section Passing

variable {α : Type} {p q : α → Prop}

/-- Past elements of one kind, a list comes to an element of another kind. -/
def PassesTo
    (p q : α → Prop)
    (xs : List α) : Prop :=
  ∃ before x after, xs = before ++ x :: after ∧ (∀ y ∈ before, p y) ∧ q x

theorem not_passesTo_nil :
    ¬ PassesTo p q [] := by
  rintro ⟨before, x, after, hsplit, -⟩
  simp at hsplit

/-- A list comes to its first element, or to one of the others if the first is passed. -/
theorem passesTo_cons_iff
    {first : α}
    {rest : List α} :
    PassesTo p q (first :: rest) ↔ q first ∨ p first ∧ PassesTo p q rest := by
  constructor
  · rintro ⟨before, x, after, hsplit, hbefore, hx⟩
    cases before with
    | nil =>
        obtain ⟨rfl, -⟩ := List.cons.inj hsplit
        exact .inl hx
    | cons head more =>
        obtain ⟨rfl, hrest⟩ := List.cons.inj hsplit
        rw [List.forall_mem_cons] at hbefore
        exact .inr ⟨hbefore.1, more, x, after, hrest, hbefore.2, hx⟩
  · rintro (hx | ⟨hfirst, before, x, after, rfl, hbefore, hx⟩)
    · exact ⟨[], first, rest, rfl, by simp, hx⟩
    · exact ⟨first :: before, x, after, rfl, List.forall_mem_cons.mpr ⟨hfirst, hbefore⟩, hx⟩

end Passing

section Conditions

variable {c : Context} {key : String} {e : Expectation}

/-- The text that a named condition compares with any expectation. -/
def NamedCondition.text? : NamedCondition → Observed → Option String
  | .method, o => some o.method
  | .address, o => some o.address
  | .hostName, o => some (Traits.shownText o.record.reverse)
  | .country, o => some o.country
  | .proxy, o => some o.traits.hiddenText
  | .networkName, o => some o.traits.networkName
  | .browser, o => some o.agent.browser
  | .system, o => some o.agent.system
  | _, _ => none

/-- What a parameter has, for a comparison with it. -/
def parameterSignal
    (params : Members Json)
    (name : String) : Signal :=
  .value ((params.get? name).getD .null)

/-- A comparison is at fault for its parameter, and those before it hold. -/
def ParameterFaults
    (params : Members Json)
    (expected : Members Comparison) : Prop :=
  PassesTo (fun p => p.2.matches (parameterSignal params p.1) = .ok true)
    (fun p => p.2.Faults (parameterSignal params p.1)) expected

/-- A named condition comes to a comparison or a search that is at fault. -/
def NamedCondition.Faults
    (named : NamedCondition)
    (e : Expectation)
    (o : Observed) : Prop :=
  match named, e with
  | .query, .parameters expected => ParameterFaults o.query expected
  | .post, .parameters expected => ParameterFaults o.post expected
  | .referrer, .comparison (.operator name operand) =>
      (Comparison.operator name operand).Faults (.value (.string o.referrer))
  | .path, e => e.needle ≠ "" ∧ Refused true e.needle
  | named, e => ∃ text, named.text? o = some text ∧ e.Faults (.value (.string text))

/-- Parameters are compared up to the first one that does not hold or is at fault. -/
theorem exists_paramsHold_iff
    {params : Members Json}
    {expected : Members Comparison} :
    (∃ b, paramsHold params expected = .ok b) ↔ ¬ ParameterFaults params expected := by
  induction expected with
  | nil =>
      exact iff_of_true ⟨true, rfl⟩ not_passesTo_nil
  | cons first rest ih =>
      obtain ⟨name, comparison⟩ := first
      have hfirst : (∃ b, comparison.matches (parameterSignal params name) = .ok b) ↔
          ¬ comparison.Faults (parameterSignal params name) :=
        Comparison.exists_matches_iff
      rw [ParameterFaults, passesTo_cons_iff, paramsHold, ← parameterSignal]
      cases hmatches : comparison.matches (parameterSignal params name) with
      | error fault =>
          rw [hmatches] at hfirst
          have hfaults : comparison.Faults (parameterSignal params name) := by
            simpa using hfirst
          simp [hfaults, bind, Except.bind]
      | ok holds =>
          rw [hmatches] at hfirst
          have hanswered : ¬ comparison.Faults (parameterSignal params name) := by
            simpa using hfirst
          cases holds with
          | false => simp [hanswered, bind, Except.bind, pure, Except.pure]
          | true => simpa [hanswered, bind, Except.bind, ParameterFaults] using ih

theorem exists_pathMatches_iff
    {path : String} :
    (∃ b, pathMatches e path = .ok b) ↔ ¬ (e.needle ≠ "" ∧ Refused true e.needle) := by
  unfold pathMatches
  by_cases hneedle : e.needle = ""
  · simp [hneedle]
  · rw [if_neg hneedle, exists_search_iff]
    simp [hneedle]

theorem NamedCondition.exists_holds_iff
    {named : NamedCondition}
    {o : Observed} :
    (∃ b, named.holds e o = .ok b) ↔ ¬ named.Faults e o := by
  have htext : ∀ text, (∃ b, e.matchesText text = .ok b) ↔
      ¬ ∃ t, some text = some t ∧ e.Faults (.value (.string t)) := by
    intro text
    refine Expectation.exists_matches_iff.trans ?_
    simp
  cases named with
  | query | post =>
      cases e with
      | parameters expected => exact exists_paramsHold_iff
      | _ => simp [holds, paramsMatch, NamedCondition.Faults, text?]
  | referrer =>
      cases e with
      | comparison comparison =>
          cases comparison with
          | operator name operand =>
              have hmatches : (∃ b, (Comparison.operator name operand).matches
                  (.value (.string o.referrer)) = .ok b) ↔
                    ¬ (Comparison.operator name operand).Faults (.value (.string o.referrer)) :=
                Comparison.exists_matches_iff
              exact hmatches
          | literal value => simp [holds, referrerMatches, NamedCondition.Faults, text?]
      | _ => simp [holds, referrerMatches, NamedCondition.Faults, text?]
  | path => exact exists_pathMatches_iff
  | userAgent | cookie | header | clickMark => simp [holds, NamedCondition.Faults, text?]
  | _ => exact htext _

end Conditions

section Scans

variable (criterion : String) (c : Context)

/-- Trying the conditions of a rule comes to one of them: all those before it hold. -/
def ComesTo
    (conditions : Members Expectation)
    (key : String)
    (e : Expectation) : Prop :=
  PassesTo (fun condition => conditionHolds c condition.1 condition.2 = .ok true) (· = (key, e))
    conditions

/-- A scan comes to a condition of a rule with the criterion, if no rule before it matches. -/
def Reaches
    (rules : List Rule)
    (key : String)
    (e : Expectation) : Prop :=
  PassesTo (fun r => ¬ Matches criterion c r)
    (fun r => r.carries criterion = true ∧ ComesTo c r.conditions key e) rules

variable {criterion c}

end Scans

section Answers

end Answers

end Rule
end Turnstile
