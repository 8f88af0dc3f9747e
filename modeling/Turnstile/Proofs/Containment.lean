import Mathlib.Data.List.Infix
import Turnstile.Proofs.OperatorLaws

/-!
# Parts of a text without regard to case

A text holds another one without regard to case if the lowercase form of the one is a part
of the lowercase form of the other.  A part of a text is held by it wherever its lowercase
form does not depend on what stands around it.  It depends on that in one way only: a
capital sigma at an edge of the part, up to characters that are skipped, may end a word in
the part but not in the text, or in the text but not in the part.  Such a sigma is *torn*.

**Results.**
* `lowerAfter_append`: the lowercase form of a text, piece by piece.
* `lowerWithin_eq_iff`: a part has its own lowercase form in a text iff no sigma is torn.
* `whole_parts_are_contained`: a text holds each part in which no sigma is torn.
* `part_torn_at_sigma_is_missed`: a part that its own text does not hold.
-/

namespace Turnstile

namespace Text

section Parts

theorem isPart_iff_infix
    (needle text : List Char) :
    isPart needle text = true ↔ needle <:+: text := by
  induction text with
  | nil =>
      rw [isPart, List.isEmpty_iff, List.infix_nil]
  | cons c rest ih =>
      rw [isPart, Bool.or_eq_true, ih, List.isPrefixOf_iff_prefix, List.infix_cons_iff]

end Parts

section Sigmas

variable {before part after : List Char}

/-- Characters that are skipped in the search for a cased one. -/
def AreSkipped
    (cs : List Char) : Prop :=
  ∀ c ∈ cs, CodeRange.contains ignorableRanges c.toNat = true

/-- Behind characters that are skipped, the text after them is what counts. -/
theorem leadsWithCased_append_of_areSkipped
    {cs : List Char}
    (h : AreSkipped cs)
    (rest : List Char) :
    leadsWithCased (cs ++ rest) = leadsWithCased rest := by
  rw [leadsWithCased, List.dropWhile_append_of_pos h, ← leadsWithCased]

/-- Behind any other characters, the text after them does not count. -/
theorem leadsWithCased_append_of_not_areSkipped
    {cs : List Char}
    (h : ¬ AreSkipped cs)
    (rest : List Char) :
    leadsWithCased (cs ++ rest) = leadsWithCased cs := by
  induction cs with
  | nil =>
      exact absurd nofun h
  | cons c cs ih =>
      cases hc : CodeRange.contains ignorableRanges c.toNat with
      | false => simp only [leadsWithCased, List.cons_append, List.dropWhile_cons, hc]; rfl
      | true =>
          have hcs : ¬ AreSkipped cs := fun hall => h (List.forall_mem_cons.mpr ⟨hc, hall⟩)
          have hstep : ∀ ds, leadsWithCased (c :: ds) = leadsWithCased ds := by
            intro ds
            simp only [leadsWithCased, List.dropWhile_cons, hc, if_true]
          rw [List.cons_append, hstep, hstep, ih hcs]

/--
A capital sigma of a part is torn from what belongs to its word.  At the end of the part it
would end the word, but the text goes on with a cased character; at the start of the part
it would be no final one, but the text has a cased character before it.
-/
inductive Torn
    (before part after : List Char) : Prop where
  | atEnd {first rest : List Char}
      (hpart : part = first ++ 'Σ' :: rest)
      (hrest : AreSkipped rest)
      (hfirst : leadsWithCased first.reverse = true)
      (hafter : leadsWithCased after = true) :
      Torn before part after
  | atStart {first rest : List Char}
      (hpart : part = first ++ 'Σ' :: rest)
      (hfirst : AreSkipped first)
      (hbefore : leadsWithCased before.reverse = true)
      (hrest : leadsWithCased (rest ++ after) = false) :
      Torn before part after

/-- A capital sigma between two texts, of which the first one is given backwards, ends a word. -/
def endsWord
    (before after : List Char) : Bool :=
  leadsWithCased before && !leadsWithCased after

theorem areSkipped_reverse
    {cs : List Char} :
    AreSkipped cs.reverse ↔ AreSkipped cs := by
  simp only [AreSkipped, List.mem_reverse]

theorem leadsWithCased_of_areSkipped
    {cs : List Char}
    (h : AreSkipped cs) :
    leadsWithCased cs = false := by
  have hnil := leadsWithCased_append_of_areSkipped h []
  rwa [List.append_nil] at hnil

/-- A sigma ends a word alike in the part and in the text iff it is not torn. -/
theorem endsWord_eq_iff
    (before first rest after : List Char) :
    endsWord (first.reverse ++ before.reverse) (rest ++ after) = endsWord first.reverse rest ↔
      ¬ ((AreSkipped rest ∧ leadsWithCased first.reverse = true ∧ leadsWithCased after = true) ∨
        (AreSkipped first ∧ leadsWithCased before.reverse = true ∧
          leadsWithCased (rest ++ after) = false)) := by
  unfold endsWord
  by_cases hfirst : AreSkipped first
  · have hreverse := areSkipped_reverse.mpr hfirst
    have hnone := leadsWithCased_of_areSkipped hreverse
    rw [leadsWithCased_append_of_areSkipped hreverse, hnone]
    simp [hfirst]
  · have hreverse := mt areSkipped_reverse.mp hfirst
    rw [leadsWithCased_append_of_not_areSkipped hreverse]
    by_cases hrest : AreSkipped rest
    · rw [leadsWithCased_append_of_areSkipped hrest, leadsWithCased_of_areSkipped hrest]
      simp [hfirst, hrest]
    · rw [leadsWithCased_append_of_not_areSkipped hrest]
      simp [hfirst, hrest]

end Sigmas

section Lowercase

variable {before before' part after after' : List Char}

/-- The lowercase forms of a part with the text before it (last first) and after it. -/
def lowerWithin
    (before : List Char) : List Char → List Char → List Char
  | [], _ => []
  | c :: rest, after => lowerForm before c (rest ++ after) ++ lowerWithin (c :: before) rest after

/-- The lowercase form of a text is that of its start and that of what follows, each in its place. -/
theorem lowerAfter_append
    (before part after : List Char) :
    lowerAfter before (part ++ after) =
      lowerWithin before part after ++ lowerAfter (part.reverse ++ before) after := by
  induction part generalizing before with
  | nil =>
      rfl
  | cons c rest ih =>
      rw [List.cons_append, lowerAfter, ih, lowerWithin, List.append_assoc, List.reverse_cons,
        List.append_assoc, List.singleton_append]

theorem lowerWithin_nil
    (before part : List Char) :
    lowerWithin before part [] = lowerAfter before part := by
  have happend := lowerAfter_append before part []
  rwa [List.append_nil, lowerAfter, List.append_nil, eq_comm] at happend

theorem length_lowerForm
    (c : Char) :
    (lowerForm before c after).length = (lowerForm before' c after').length := by
  unfold lowerForm
  split_ifs <;> rfl

/-- Only the form of a capital sigma depends on its place. -/
theorem lowerForm_eq_iff
    (c : Char) :
    lowerForm before c after = lowerForm before' c after' ↔
      (c = 'Σ' → endsWord before after = endsWord before' after') := by
  unfold lowerForm endsWord
  by_cases hc : c = 'Σ'
  · cases leadsWithCased before && !leadsWithCased after <;>
      cases leadsWithCased before' && !leadsWithCased after' <;> simp [hc]
  · simp [hc]

/-- A part has one form in two places iff each capital sigma in it has. -/
theorem lowerWithin_eq_lowerWithin_iff :
    lowerWithin before part after = lowerWithin before' part after' ↔
      ∀ first rest, part = first ++ 'Σ' :: rest →
        endsWord (first.reverse ++ before) (rest ++ after) =
          endsWord (first.reverse ++ before') (rest ++ after') := by
  induction part generalizing before before' with
  | nil =>
      refine iff_of_true rfl fun first rest hpart => ?_
      simp at hpart
  | cons c cs ih =>
      rw [lowerWithin, lowerWithin]
      constructor
      · intro heq first rest hpart
        obtain ⟨hform, hmore⟩ := List.append_inj heq (length_lowerForm c)
        cases first with
        | nil =>
            obtain ⟨rfl, rfl⟩ := List.cons.inj hpart
            exact (lowerForm_eq_iff 'Σ').mp hform rfl
        | cons d first =>
            obtain ⟨rfl, hcs⟩ := List.cons.inj hpart
            simpa using ih.mp hmore first rest hcs
      · intro h
        have hform : lowerForm before c (cs ++ after) = lowerForm before' c (cs ++ after') :=
          (lowerForm_eq_iff c).mpr fun hc => h [] cs (by rw [hc, List.nil_append])
        have hmore := ih.mpr fun first rest hcs => by
          simpa using h (c :: first) rest (by rw [hcs, List.cons_append])
        rw [hform, hmore]

/-- **A part has its own lowercase form in a text iff no capital sigma in it is torn.** -/
theorem lowerWithin_eq_iff :
    lowerWithin before.reverse part after = lowerAfter [] part ↔ ¬ Torn before part after := by
  rw [← lowerWithin_nil, lowerWithin_eq_lowerWithin_iff]
  constructor
  · intro h htorn
    cases htorn with
    | atEnd hpart hrest hfirst hafter =>
        have hsame := h _ _ hpart
        rw [List.append_nil, List.append_nil, endsWord_eq_iff] at hsame
        exact hsame (.inl ⟨hrest, hfirst, hafter⟩)
    | atStart hpart hfirst hbefore hrest =>
        have hsame := h _ _ hpart
        rw [List.append_nil, List.append_nil, endsWord_eq_iff] at hsame
        exact hsame (.inr ⟨hfirst, hbefore, hrest⟩)
  · intro h first rest hpart
    rw [List.append_nil, List.append_nil, endsWord_eq_iff]
    rintro (⟨hrest, hfirst, hafter⟩ | ⟨hfirst, hbefore, hrest⟩)
    · exact h (.atEnd hpart hrest hfirst hafter)
    · exact h (.atStart hpart hfirst hbefore hrest)

end Lowercase

end Text

namespace Rule

section Containment

variable {before part after text : String}

/-- A text holds each part in which no capital sigma is torn. -/
theorem holdsPart_of_not_torn
    (htext : text = before ++ part ++ after)
    (h : ¬ Text.Torn before.toList part.toList after.toList) :
    holdsPart text part = true := by
  have hown := Text.lowerWithin_eq_iff.mpr h
  rw [holdsPart, Text.isPart_iff_infix, Text.lower, Text.lower, String.toList_ofList,
    String.toList_ofList]
  refine ⟨Text.lowerWithin [] before.toList (part.toList ++ after.toList),
    Text.lowerAfter (part.toList.reverse ++ before.toList.reverse) after.toList, ?_⟩
  rw [htext, String.toList_append, String.toList_append, List.append_assoc before.toList,
    Text.lowerAfter_append, Text.lowerAfter_append, List.append_nil, hown, List.append_assoc]

/--
**A text contains its parts without regard to case, unless they are torn at a sigma.**  For a
part that is not, containment holds, its opposite does not, and the part as a bare text is
found in a referrer and in a user agent that are the text.
-/
theorem whole_parts_are_contained
    (htext : text = before ++ part ++ after)
    (h : ¬ Text.Torn before.toList part.toList after.toList) :
    (comparing .contains (.string part)).matches (.value (.string text)) = .ok true ∧
    (comparing .notContains (.string part)).matches (.value (.string text)) = .ok false ∧
    (∀ c : Context, c.server.referrer = text →
      writtenHolds c "referrer_contains" (.string part) = .ok true) ∧
    (∀ c : Context, c.server.userAgent = text →
      writtenHolds c "ua_contains" (.string part) = .ok true) := by
  have hholds := holdsPart_of_not_torn htext h
  refine ⟨?_, ?_, ?_, ?_⟩
  · rw [matches_comparing, Operator.holds]
    exact congrArg Except.ok hholds
  · rw [matches_comparing, Operator.holds]
    exact congrArg (Except.ok ∘ (!·)) hholds
  · intro c hreferrer
    refine (writtenHolds_key .referrer (by decide) c _).trans ?_
    rw [NamedCondition.holds, hreferrer]
    exact congrArg Except.ok hholds
  · intro c hagent
    refine (writtenHolds_key .userAgent (by decide) c _).trans ?_
    rw [NamedCondition.holds, hagent]
    exact congrArg Except.ok hholds

/-- A word with a final sigma, in a text that goes on with a comma and another word. -/
theorem word_before_comma_is_contained :
    "ὁ ΛΌΓΟΣ, ἡ ὉΔΌΣ" = "ὁ " ++ "ΛΌΓΟΣ" ++ ", ἡ ὉΔΌΣ" ∧
      ¬ Text.Torn "ὁ ".toList "ΛΌΓΟΣ".toList ", ἡ ὉΔΌΣ".toList ∧
      (comparing .contains (.string "ΛΌΓΟΣ")).matches (.value (.string "ὁ ΛΌΓΟΣ, ἡ ὉΔΌΣ")) =
        .ok true := by
  have htext : "ὁ ΛΌΓΟΣ, ἡ ὉΔΌΣ" = "ὁ " ++ "ΛΌΓΟΣ" ++ ", ἡ ὉΔΌΣ" := by decide
  have hwhole : ¬ Text.Torn "ὁ ".toList "ΛΌΓΟΣ".toList ", ἡ ὉΔΌΣ".toList :=
    Text.lowerWithin_eq_iff.mp (by decide +kernel)
  exact ⟨htext, hwhole, (whole_parts_are_contained htext hwhole).1⟩

/-- The start of a word that ends in a sigma, and the end of a word that is a sigma. -/
theorem part_torn_at_sigma_is_missed :
    (comparing .contains (.string "ΑΣ")).matches (.value (.string "ΑΣΑ")) = .ok false ∧
      (comparing .notContains (.string "ΑΣ")).matches (.value (.string "ΑΣΑ")) = .ok true ∧
      (comparing .contains (.string "Σ")).matches (.value (.string "ΑΣ")) = .ok false ∧
      (comparing .notContains (.string "Σ")).matches (.value (.string "ΑΣ")) = .ok true := by
  refine ⟨?_, ?_, ?_, ?_⟩
  · decide +kernel
  · decide +kernel
  · decide +kernel
  · decide +kernel

end Containment

end Rule
end Turnstile
