import Turnstile.Proofs.LetterCase
import Turnstile.Proofs.Members
import Turnstile.Proofs.NumberText
import Turnstile.Proofs.Pieces
import Turnstile.Rule.Condition

/-!
# Laws of the operators

The operators of comparisons come in opposite pairs, in which one holds exactly when the
other does not.  What a pair of bounds asks is what its bounds ask of the two orders, in
whichever form the pair is written; and literals, unknown names and capitals are other
ways to write one of the operators.

**Results.**
* `Operator.Opposes.holds_eq`: opposite operators give opposite answers.
* `Operator.holds_between_of_bounds`: a text between two bounds.
* `searchLiteral?_eq_some_iff`, `literalMatches_eq_holds`: literals that are no operators.
* `decodeComparison_set_op`: the case of an operator's name does not matter.
* `operators_are_coherent`: all of these laws.
-/

namespace Turnstile

/-- Every double has a text. -/
theorem Double.text_ne_empty
    (x : Double) :
    x.text ≠ "" := by
  have hmagnitude : ∀ units, representable units = true → magnitudeText units ≠ "" := by
    intro units h hempty
    have hread : Json.readUnsigned false ((magnitudeText units).toList ++ []) = _ :=
      Json.readUnsigned_magnitudeText false h trivial
    obtain ⟨c, more, hcs, -⟩ := Json.exists_digit_of_readUnsigned hread
    simp [hempty] at hcs
  cases x with
  | nan => decide
  | infinite negative => cases negative <;> decide
  | finite negative units h =>
      cases negative with
      | false => exact hmagnitude units h
      | true => simp [text]

namespace Rule

section Opposites

variable {actual : Signal} {operand : Json}

theorem Operator.ofName_name
    (op : Operator) :
    Operator.ofName op.name = op := by
  cases op <;> decide +kernel

/-- The comparison with an operator under its own name. -/
def comparing
    (op : Operator)
    (operand : Json) : Comparison :=
  .operator op.name operand

/-- An operator is read from its own name. -/
theorem decodeComparison_name
    (op : Operator)
    (operand : Json) :
    decodeComparison (.object [("op", .string op.name), ("value", operand)]) =
      comparing op operand := by
  have hlower : Text.lower op.name = op.name := by
    cases op <;> decide +kernel
  exact congrArg (Comparison.operator · operand) hlower

theorem matches_comparing
    (op : Operator) :
    (comparing op operand).matches actual = op.holds actual operand := by
  rw [comparing, Comparison.matches, Operator.ofName_name]

/-- The first operator is written as the opposite of the second. -/
inductive Operator.Opposes : Operator → Operator → Prop where
  | neq : Opposes .neq .eq
  | notEmpty : Opposes .notEmpty .empty
  | notContains : Opposes .notContains .contains
  | notIn : Opposes .notIn .isIn
  | gt : Opposes .gt .lte
  | lt : Opposes .lt .gte

/-- Opposite operators fail alike or give opposite answers. -/
theorem Operator.Opposes.holds_eq
    {op op' : Operator}
    (h : op.Opposes op') :
    op.holds actual operand = (!·) <$> op'.holds actual operand := by
  cases h with
  | neq | notEmpty | notContains | notIn => rfl
  | gt =>
      simp only [Operator.holds]
      cases order actual.text operand with
      | error fault => rfl
      | ok result => cases result <;> rfl
  | lt =>
      simp only [Operator.holds]
      cases order actual.text operand with
      | error fault => rfl
      | ok result => cases result <;> rfl

/-- A text is at least or at most an operand, or both. -/
theorem not_gte_and_lte_false :
    ¬ (Operator.gte.holds actual operand = .ok false ∧
      Operator.lte.holds actual operand = .ok false) := by
  simp only [Operator.holds]
  cases order actual.text operand with
  | error fault => simp [bind, Except.bind]
  | ok result => cases result <;> simp [bind, Except.bind, pure, Except.pure]

end Opposites

section Conditions

/-- A condition holds in a context, in the form in which a rule writes it. -/
def writtenHolds
    (c : Context)
    (key : String)
    (raw : Json) : Except Fault Bool := do
  conditionHolds c key (← decodeCondition key raw)

theorem ofKey?_key
    (named : NamedCondition) :
    NamedCondition.ofKey? named.key = some named := by
  cases named <;> decide +kernel

/-- Named conditions are given a comparison, unless they are about parameters or click marks. -/
theorem writtenHolds_key
    (named : NamedCondition)
    (h : named.key ∉ clickCondition :: parameterConditions)
    (c : Context)
    (raw : Json) :
    writtenHolds c named.key raw =
      named.holds (.comparison (decodeComparison raw)) c.server := by
  rw [List.mem_cons, not_or] at h
  have hdecode : decodeCondition named.key raw = .ok (.comparison (decodeComparison raw)) := by
    unfold decodeCondition
    rw [if_neg (by simpa using h.2), if_neg h.1]
  have hcondition : writtenHolds c named.key raw =
      conditionHolds c named.key (.comparison (decodeComparison raw)) := by
    rw [writtenHolds, hdecode]
    rfl
  rw [hcondition, conditionHolds, ofKey?_key]

end Conditions

section Bounds

variable {actual : Signal} {operand low high : Json}

/-- A bound is null or the empty text, or an operator holds for it. -/
def meets
    (op : Operator)
    (actual : Signal)
    (bound : Json) : Except Fault Bool :=
  if (Signal.value bound).isEmpty then .ok true else op.holds actual bound

theorem givenBound_some
    (v : Json) :
    givenBound (some v) = if (Signal.value v).isEmpty then none else some v := by
  cases v with
  | string s => by_cases hs : s = "" <;> simp [givenBound, Signal.isEmpty, hs]
  | _ => rfl

/-- A text lies between two bounds if it meets the lower one, and then the upper one. -/
theorem Operator.holds_between_of_bounds
    (h : bounds operand = (some low, some high)) :
    Operator.between.holds actual operand =
      do if ← meets .gte actual low then meets .lte actual high else return false := by
  simp only [Operator.holds, isBetween, h, givenBound_some, meets]
  cases (Signal.value low).isEmpty with
  | true =>
      cases (Signal.value high).isEmpty <;> rfl
  | false =>
      simp only [Bool.false_eq_true, if_false]
      cases order actual.text low with
      | error fault => rfl
      | ok result => cases result <;> cases (Signal.value high).isEmpty <;> rfl

theorem bounds_text
    {low high : String}
    (hlow : ',' ∉ low.toList) :
    bounds (.string (low ++ "," ++ high)) = (some (.string low), some (.string high)) := by
  have htext : (low ++ "," ++ high).toList = low.toList ++ ',' :: high.toList := by
    simp
  simp only [bounds, comparisonText, htext, Text.cut_append_cons hlow, String.ofList_toList,
    Option.map_some]

end Bounds

section Literals

variable {actual : Signal}

/-- A literal is a search iff it stands between the opening and a slash. -/
theorem searchLiteral?_eq_some_iff
    {s body : String} :
    searchLiteral? s = some body ↔ s = "regex:/" ++ body ++ "/" := by
  rw [String.ext_iff, searchLiteral?]
  simp only [String.toList_append]
  generalize "regex:/".toList = opening
  constructor
  · intro h
    rw [Option.ite_none_right_eq_some] at h
    obtain ⟨hform, hbody⟩ := h
    simp only [Bool.and_eq_true, List.isPrefixOf_iff_prefix, beq_iff_eq, decide_eq_true_eq] at hform
    obtain ⟨⟨⟨rest, hrest⟩, hlast⟩, hlength⟩ := hform
    rw [← hrest] at hlast hlength hbody ⊢
    have hne : rest ≠ [] := by
      rintro rfl
      simp at hlength
    rw [List.drop_left] at hbody
    rw [List.getLast?_append_of_ne_nil _ hne, List.getLast?_eq_some_getLast hne] at hlast
    obtain rfl := Option.some.inj hbody
    have hsplit := List.dropLast_append_getLast hne
    rw [Option.some.inj hlast] at hsplit
    rw [String.toList_ofList, List.append_assoc]
    exact congrArg _ hsplit.symm
  · intro h
    have hslash : "/".toList = ['/'] := rfl
    rw [h, hslash, if_pos, List.append_assoc, List.drop_left, List.dropLast_concat,
      String.ofList_toList]
    simp [List.append_assoc]

/-- A literal that stands for nothing else is compared for equality. -/
theorem literalMatches_eq_holds
    {v : Json}
    (hempty : v ≠ .string "empty")
    (hnotEmpty : v ≠ .string "is_not_empty")
    (hsearch : ∀ body, v ≠ .string ("regex:/" ++ body ++ "/")) :
    literalMatches v actual = Operator.eq.holds actual v := by
  unfold literalMatches
  split
  · exact absurd rfl hnotEmpty
  · exact absurd rfl hempty
  next s _ _ =>
    have hnone : searchLiteral? s = none := by
      rw [Option.eq_none_iff_forall_ne_some]
      intro body hbody
      exact hsearch body (congrArg Json.string (searchLiteral?_eq_some_iff.mp hbody))
    rw [hnone]
    rfl
  · rfl

/-- An array or an object. -/
inductive IsStructure : Json → Prop where
  | array (items : List Json) : IsStructure (.array items)
  | object (members : Members Json) : IsStructure (.object members)

/-- The text of an array or an object starts with a bracket. -/
theorem IsStructure.head?_write
    {v : Json}
    (h : IsStructure v) :
    ∃ c, (Json.write .compact v).toList.head? = some c ∧ c ≠ 'e' ∧ c ≠ 'i' ∧ c ≠ 'r' := by
  cases h with
  | array items =>
      refine ⟨'[', ?_, by decide⟩
      cases items <;> simp [Json.write, Json.writeAt]
  | object members =>
      refine ⟨'{', ?_, by decide⟩
      cases members <;> simp [Json.write, Json.writeAt]

theorem IsStructure.comparisonText_eq
    {v : Json}
    (h : IsStructure v) :
    comparisonText v = Json.write .compact v := by
  cases h <;> rfl

/-- The text of a value is empty iff the value is null or the empty text. -/
theorem comparisonText_eq_empty_iff
    {v : Json} :
    comparisonText v = "" ↔ (Signal.value v).isEmpty = true := by
  have hint : ∀ n : Int, toString n ≠ "" := by
    intro n hempty
    have hdigits := Json.toList_toString_int n
    rw [hempty] at hdigits
    exact Nat.toDigits_ne_nil (List.append_eq_nil_iff.mp hdigits.symm).2
  have hstructure : IsStructure v → comparisonText v ≠ "" := by
    intro hv hempty
    obtain ⟨c, hc, -⟩ := hv.head?_write
    rw [← hv.comparisonText_eq, hempty] at hc
    cases hc
  cases v with
  | null => exact iff_of_true rfl rfl
  | bool b => cases b <;> exact iff_of_false (by decide) (by decide)
  | int n => exact iff_of_false (hint n) Bool.false_ne_true
  | float x =>
      refine iff_of_false ?_ Bool.false_ne_true
      rw [comparisonText]
      cases x.toInt? with
      | some n => exact hint n
      | none => exact x.text_ne_empty
  | string s => exact beq_iff_eq.symm
  | halved t =>
      refine iff_of_false (fun hempty => ?_) Bool.false_ne_true
      have hmem := t.replacement_mem_shown
      rw [comparisonText] at hempty
      rw [hempty] at hmem
      cases hmem
  | array items => exact iff_of_false (hstructure (.array items)) Bool.false_ne_true
  | object members => exact iff_of_false (hstructure (.object members)) Bool.false_ne_true
  | misnamed name value =>
      refine iff_of_false ?_ Bool.false_ne_true
      simp [comparisonText, Json.write, Json.writeAt, Json.misplacedMark]

/-- A signal is null or the empty text iff its text is empty. -/
theorem Signal.isEmpty_eq
    (actual : Signal) :
    actual.isEmpty = (actual.text == "") := by
  rw [Bool.eq_iff_iff, beq_iff_eq]
  cases actual with
  | value v => exact comparisonText_eq_empty_iff.symm
  | view members => simp [Signal.isEmpty, Signal.text, Json.shown]

/-- The text of an array or an object is compared for equality. -/
theorem IsStructure.literalMatches_write
    {v : Json}
    (h : IsStructure v) :
    literalMatches (.string (Json.write .compact v)) actual = Operator.eq.holds actual v := by
  obtain ⟨c, hc, he, hi, hr⟩ := h.head?_write
  have hne : ∀ s : String, s.toList.head? ≠ some c →
      Json.string (Json.write .compact v) ≠ .string s := by
    intro s hs heq
    rw [Json.string.inj heq] at hc
    exact hs hc
  rw [literalMatches_eq_holds (hne _ _) (hne _ _) fun body => hne _ _]
  · rw [Operator.holds, Operator.holds, h.comparisonText_eq, comparisonText]
  · simpa using he.symm
  · simpa using hi.symm
  · simpa using hr.symm

/-- What names no operator is a literal, of its text if it is an array or an object. -/
theorem decodeComparison_of_member_eq_null
    {v : Json}
    (hop : v.member "op" = .null) :
    (∃ _ : IsStructure v, decodeComparison v = .literal (.string (Json.write .compact v))) ∨
      decodeComparison v = .literal v := by
  cases v with
  | array items => exact .inl ⟨.array items, rfl⟩
  | object members =>
      refine .inl ⟨.object members, ?_⟩
      simp only [Json.member, Json.member?] at hop
      rw [decodeComparison]
      cases hget : Members.get? members "op" with
      | none => rfl
      | some op =>
          rw [hget, Option.getD_some] at hop
          rw [hop]
  | _ => exact .inr rfl

end Literals

section Names

variable {actual : Signal} {operand : Json}

/-- A name that is no operator's, in any case. -/
def IsUnknown
    (name : String) : Prop :=
  ∀ op : Operator, op.name ≠ Text.lower name

theorem ofName_of_isUnknown
    {name : String}
    (h : IsUnknown name) :
    Operator.ofName name = .eq := by
  have hnone : Operator.all.find? (fun op => op.name == Text.lower name) = none := by
    rw [List.find?_eq_none]
    intro op _
    simpa using h op
  rw [Operator.ofName, hnone, Option.getD_none]

/-- The case of an operator's name does not matter. -/
theorem decodeComparison_set_op
    {members : Members Json}
    {name name' : String}
    (hop : Members.get? members "op" = some (.string name))
    (hsame : Text.SameLetters name name') :
    decodeComparison (.object (Members.set members "op" (.string name'))) =
      decodeComparison (.object members) := by
  have hvalue : (Json.object (Members.set members "op" (.string name'))).member "value" =
      (Json.object members).member "value" := by
    rw [Json.member, Json.member, Json.member?, Json.member?, Members.get?_set, if_neg (by decide)]
  rw [decodeComparison, decodeComparison, Members.get?_set, if_pos rfl, hop, hvalue]
  exact congrArg (Comparison.operator · _) (Text.lower_eq_of_sameLetters hsame).symm

/--
**The operators are coherent.**  Opposite operators give opposite answers, and a signal is
at least or at most an operand, or both.  Between two bounds a signal meets the lower one
and then the upper one, where a bound that is null or the empty text is met; a pair of
bounds may be written as a text.  The literals for emptiness are the operators for it, and
any other literal that is no search is equality, as is an unknown operator.  Capitals in
the name of an operator do not matter.
-/
theorem operators_are_coherent
    (actual : Signal)
    (operand : Json) :
    (∀ op : Operator,
      decodeComparison (.object [("op", .string op.name), ("value", operand)]) =
        comparing op operand) ∧
    (∀ op op' : Operator, op.Opposes op' →
      (comparing op operand).matches actual = (!·) <$> (comparing op' operand).matches actual) ∧
    ¬ ((comparing .gte operand).matches actual = .ok false ∧
      (comparing .lte operand).matches actual = .ok false) ∧
    (∀ low high more, (comparing .between (.array (low :: high :: more))).matches actual =
      do if ← meets .gte actual low then meets .lte actual high else return false) ∧
    (∀ low high : String, ',' ∉ low.toList →
      (comparing .between (.string (low ++ "," ++ high))).matches actual =
        (comparing .between (.array [.string low, .string high])).matches actual) ∧
    (decodeComparison (.string "empty")).matches actual =
      (comparing .empty operand).matches actual ∧
    (decodeComparison (.string "is_not_empty")).matches actual =
      (comparing .notEmpty operand).matches actual ∧
    (∀ v, v.member "op" = .null →
      v ≠ .string "empty" →
      v ≠ .string "is_not_empty" →
      (∀ body, v ≠ .string ("regex:/" ++ body ++ "/")) →
      (decodeComparison v).matches actual = (comparing .eq v).matches actual) ∧
    (∀ name, IsUnknown name →
      (Comparison.operator name operand).matches actual = (comparing .eq operand).matches actual) ∧
    (∀ members name name',
      Members.get? members "op" = some (.string name) →
      Text.SameLetters name name' →
      (decodeComparison (.object (Members.set members "op" (.string name')))).matches actual =
        (decodeComparison (.object members)).matches actual) := by
  have hempty : (actual.text == "") = actual.isEmpty := actual.isEmpty_eq.symm
  simp only [matches_comparing]
  refine ⟨fun op => decodeComparison_name op operand, fun op op' h => h.holds_eq,
    not_gte_and_lte_false, ?_, ?_, ?_, ?_, ?_, ?_, ?_⟩
  · intro low high more
    exact Operator.holds_between_of_bounds rfl
  · intro low high hlow
    rw [Operator.holds_between_of_bounds (bounds_text hlow)]
    exact (Operator.holds_between_of_bounds rfl).symm
  · exact congrArg Except.ok hempty
  · exact congrArg (Except.ok ∘ (!·)) hempty
  · intro v hop hempty hnotEmpty hsearch
    rcases decodeComparison_of_member_eq_null hop with ⟨hv, hliteral⟩ | hliteral
    · rw [hliteral]
      exact hv.literalMatches_write
    · rw [hliteral]
      exact literalMatches_eq_holds hempty hnotEmpty hsearch
  · intro name hname
    rw [Comparison.matches, ofName_of_isUnknown hname]
  · intro members name name' hop hsame
    rw [decodeComparison_set_op hop hsame]

/-- Bounds in a text, an operator that nobody knows, and one in capitals. -/
theorem other_spellings_hold_alike :
    (comparing .between (.string ("2" ++ "," ++ "10"))).matches (.value (.float .nan)) =
        (comparing .between (.array [.string "2", .string "10"])).matches (.value (.float .nan)) ∧
      (Comparison.operator "GTE " (.int 3)).matches (.value (.string "3")) = .ok true ∧
      (decodeComparison (.object [("value", .int 3), ("op", .string "GtE")])).matches
        (.value (.string "5")) = .ok true := by
  have hlaws := fun actual => operators_are_coherent actual (.int 3)
  obtain ⟨-, -, -, -, htext, -⟩ := hlaws (.value (.float .nan))
  obtain ⟨-, -, -, -, -, -, -, -, hunknown, -⟩ := hlaws (.value (.string "3"))
  obtain ⟨-, -, -, -, -, -, -, -, -, hcapitals⟩ := hlaws (.value (.string "5"))
  refine ⟨htext "2" "10" (by decide), ?_, ?_⟩
  · rw [hunknown "GTE " (by intro op; cases op <;> decide +kernel)]
    rfl
  · exact (hcapitals [("value", .int 3), ("op", .string "gte")] "gte" "GtE" rfl
      (by unfold Text.SameLetters; decide)).trans (by decide +kernel)

end Names

end Rule
end Turnstile
