import Turnstile.Proofs.EntryFaults
import Turnstile.Proofs.NumericOrder

/-!
# The numeric check against the conversion

A text is checked for a numeral before it is converted to a double, and the two have
grammars of their own.  The check takes any blanks around a numeral; the conversion takes
infinities, NaN and underscores as well, but not the information separators among blanks.
So a text that passes the check is converted to the double nearest to what it spells, and
never to NaN, unless it is *separated*: there are separators around its numeral.

**Results.**
* `isSeparated_iff`: the separated texts in terms of what is read.
* `exists_ofText?_of_isSpelled`: the conversion of a numeral.
* `order_eq_error_unreadable_iff`: the comparisons that fail on a text.
* `numerals_convert_unless_separated`: all of this, with the priorities that texts give.
* `separated_one_passes_and_fails`: a text that passes the check and is not converted.
-/

namespace Turnstile
namespace Rule

open Text (isSeparator)
open Numeral (IsSpelled Spelling)

variable {text : String} {operand : Json}

section Texts

/-- A numeral with an information separator among the blanks around it. -/
def IsSeparated
    (text : String) : Prop :=
  ∃ (before : List Char) (s : Spelling) (after : List Char),
    (∀ c ∈ before, Text.isBlank c = true) ∧
    (∀ c ∈ after, Text.isBlank c = true) ∧
    text.toList = before ++ s.text ++ after ∧
    ∃ c ∈ before ++ after, isSeparator c = true

/-- The texts that pass the check are the spellings of numerals between blanks. -/
theorem isNumeric_string_iff :
    isNumeric (.string text) = true ↔ ∃ s, IsSpelled s text := by
  rw [isNumeric, Option.isSome_iff_exists]
  simp only [Numeral.read?_eq_some_iff]
  constructor
  · rintro ⟨n, s, hs, -⟩
    exact ⟨s, hs⟩
  · rintro ⟨s, hs⟩
    exact ⟨s.numeral, s, hs, rfl⟩

/-- The separators of a numeral stand around it, as none is a part of it. -/
theorem isSeparated_iff :
    IsSeparated text ↔ isNumeric (.string text) = true ∧ text.toList.any isSeparator = true := by
  rw [isNumeric_string_iff, List.any_eq_true]
  constructor
  · rintro ⟨before, s, after, hbefore, hafter, htext, c, hmem, hc⟩
    refine ⟨⟨s, before, after, hbefore, hafter, htext⟩, c, ?_, hc⟩
    rw [htext]
    rcases List.mem_append.mp hmem with hmem | hmem
    · exact List.mem_append_left _ (List.mem_append_left _ hmem)
    · exact List.mem_append_right _ hmem
  · rintro ⟨⟨s, before, after, hbefore, hafter, htext⟩, c, hmem, hc⟩
    refine ⟨before, s, after, hbefore, hafter, htext, c, ?_, hc⟩
    have hpart : c ∉ s.text := by
      intro hin
      have hnot := Numeral.isSeparator_of_isPart (Numeral.isPart_of_ofChars? s.ofChars?_text c hin)
      rw [hnot.1] at hc
      cases hc
    rw [htext, List.mem_append, List.mem_append] at hmem
    rcases hmem with (hmem | hmem) | hmem
    · exact List.mem_append_left _ hmem
    · exact absurd hmem hpart
    · exact List.mem_append_right _ hmem

/-- Of the texts, the separated ones resist conversion. -/
theorem resistsConversion_string_iff :
    resistsConversion (.string text) = true ↔ IsSeparated text := by
  rw [isSeparated_iff, resistsConversion, Bool.and_eq_true, and_comm]
  rfl

end Texts

section Conversions

/-- A numeral that is not separated converts to the double nearest to what it spells. -/
theorem exists_ofText?_of_isSpelled
    {s : Spelling}
    (hs : IsSpelled s text)
    (hseparated : ¬ IsSeparated text) :
    ∃ x, Double.ofText? text = some x ∧ x.rank? = some (Double.nearestRank s.value) := by
  have hread := Numeral.read?_eq_some_iff.mpr ⟨s, hs, rfl⟩
  rw [isSeparated_iff, not_and, Bool.not_eq_true] at hseparated
  refine ⟨s.numeral.toDouble, ?_, ?_⟩
  · rw [Double.ofText?_of_read? hread, hseparated (isNumeric_string_iff.mpr ⟨s, hs⟩)]
    rfl
  · rw [Numeral.rank?_toDouble, s.value_numeral]

theorem ofText?_of_isSeparated
    (h : IsSeparated text) :
    Double.ofText? text = none := by
  obtain ⟨hnumeric, hany⟩ := isSeparated_iff.mp h
  obtain ⟨n, hn⟩ := Option.isSome_iff_exists.mp hnumeric
  rw [Double.ofText?_of_read? hn, if_pos hany]

/-- A numeric value is unreadable iff it is a separated text. -/
theorem toDouble_eq_error_unreadable_iff
    (hnumeric : isNumeric operand = true) :
    toDouble operand = .error .unreadableNumeral ↔
      ∃ text, operand = .string text ∧ IsSeparated text := by
  cases operand with
  | int n =>
      rw [toDouble]
      cases Double.ofInt n <;> simp [withinRange]
  | float x => simp [toDouble]
  | string text =>
      obtain ⟨n, hn⟩ := Option.isSome_iff_exists.mp hnumeric
      rw [toDouble_string hn]
      simp only [Json.string.injEq, exists_eq_left', isSeparated_iff, hnumeric, true_and]
      cases text.toList.any isSeparator <;> simp
  | _ => cases hnumeric

/-- Comparing a text is unreadable iff both sides are numeric and one is a separated text. -/
theorem order_eq_error_unreadable_iff :
    order text operand = .error .unreadableNumeral ↔
      isNumeric (.string text) = true ∧ isNumeric operand = true ∧
        (IsSeparated text ∨ ∃ text', operand = .string text' ∧ IsSeparated text') := by
  unfold order
  by_cases hboth : isNumeric (.string text) = true ∧ isNumeric operand = true
  · obtain ⟨htext, hoperand⟩ := hboth
    have hleft := toDouble_eq_error_unreadable_iff htext
    have hright := toDouble_eq_error_unreadable_iff hoperand
    obtain ⟨n, hn⟩ := Option.isSome_iff_exists.mp htext
    simp only [Json.string.injEq, exists_eq_left'] at hleft
    rw [htext, hoperand, ← hleft, ← hright, toDouble_string hn]
    cases text.toList.any isSeparator with
    | true => simp [bind, Except.bind]
    | false => cases toDouble operand <;> simp [bind, Except.bind, pure, Except.pure]
  · rw [if_neg (by simpa using hboth)]
    exact iff_of_false (by simp) fun h => hboth ⟨h.1, h.2.1⟩

/-- A text that passes the check spells a numeral and converts to the double nearest to it,
which is not NaN, unless it is separated.  Comparing texts and reading priorities fails on
separated texts only. -/
theorem numerals_convert_unless_separated
    (text : String) :
    (isNumeric (.string text) = true ↔ ∃ s, IsSpelled s text) ∧
    (∀ s, IsSpelled s text → ¬ IsSeparated text →
      ∃ x, Double.ofText? text = some x ∧ x ≠ .nan ∧
        x.rank? = some (Double.nearestRank s.value)) ∧
    (IsSeparated text → Double.ofText? text = none) ∧
    (∀ operand, order text operand = .error .unreadableNumeral ↔
      isNumeric (.string text) = true ∧ isNumeric operand = true ∧
        (IsSeparated text ∨ ∃ text', operand = .string text' ∧ IsSeparated text')) ∧
    ((∃ priority, decodePriority (.string text) = .ok priority) ↔ ¬ IsSeparated text) := by
  refine ⟨isNumeric_string_iff, ?_, ofText?_of_isSeparated,
    fun operand => order_eq_error_unreadable_iff, ?_⟩
  · intro s hs hseparated
    obtain ⟨x, hx, hrank⟩ := exists_ofText?_of_isSpelled hs hseparated
    refine ⟨x, hx, ?_, hrank⟩
    rintro rfl
    cases hrank
  · rw [exists_decodePriority_iff, ← resistsConversion_string_iff, Bool.not_eq_true]

theorem spaced_one_converts :
    IsSpelled plainOne "\t1\n" ∧
      ¬ IsSeparated "\t1\n" ∧
      (∃ x, Double.ofText? "\t1\n" = some x ∧ x ≠ .nan ∧
        x.rank? = some (Double.nearestRank plainOne.value)) ∧
      ∃ priority, decodePriority (.string "\t1\n") = .ok priority := by
  obtain ⟨-, hconverts, -, -, hpriority⟩ := numerals_convert_unless_separated "\t1\n"
  have hspelled : IsSpelled plainOne "\t1\n" :=
    ⟨['\t'], ['\n'], List.forall_mem_singleton.mpr rfl, List.forall_mem_singleton.mpr rfl, rfl⟩
  have hplain : ¬ IsSeparated "\t1\n" := by
    rw [isSeparated_iff]
    rintro ⟨-, hany⟩
    exact absurd hany (by decide)
  exact ⟨hspelled, hplain, hconverts plainOne hspelled hplain, hpriority.mpr hplain⟩

/-- The digit one after a separator passes the check, and gives neither a double nor a priority. -/
theorem separated_one_passes_and_fails :
    isNumeric (.string "\x1c1") = true ∧
      Double.ofText? "\x1c1" = none ∧
      decodePriority (.string "\x1c1") = .error .unreadableNumeral := by
  refine ⟨by decide +kernel, by decide +kernel, by decide +kernel⟩

end Conversions

end Rule
end Turnstile
