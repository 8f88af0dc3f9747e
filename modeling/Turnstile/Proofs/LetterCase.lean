import Mathlib.Data.Char
import Turnstile.Text.Case

/-!
# The case of ASCII letters

The lowercase form of a text does not depend on the case of its ASCII letters.  The only
character whose form depends on its neighbours is the capital sigma, and for its neighbours
it matters whether they are cased and whether they are skipped: a letter and its capital
are both cased, and neither is skipped.

**Results.**
* `lower_eq_of_sameLetters`: texts of the same letters have one lowercase form.
-/

namespace Turnstile
namespace Text

section Letters

/-- Texts that differ in nothing but the case of ASCII letters. -/
def SameLetters
    (s t : String) : Prop :=
  s.toList.map Char.toLower = t.toList.map Char.toLower

/-- A letter and its capital are cased, are not skipped, and have one lowercase form. -/
theorem capital_spec : ∀ code < 91, 65 ≤ code →
    CodeRange.contains ignorableRanges code = CodeRange.contains ignorableRanges (code + 32) ∧
      CodeRange.contains casedRanges code = CodeRange.contains casedRanges (code + 32) ∧
      simpleLower code = simpleLower (code + 32) := by
  decide +kernel

/-- A capital has its lowercase letter 32 places on, any other character is its own. -/
theorem toLower_cases
    (c : Char) :
    (65 ≤ c.toNat ∧ c.toNat < 91 ∧ c.toLower.toNat = c.toNat + 32) ∨ c.toLower = c := by
  unfold Char.toLower
  split
  next h =>
    have hcode : 65 ≤ c.toNat ∧ c.toNat ≤ 90 := h
    refine .inl ⟨hcode.1, by omega, ?_⟩
    rw [Char.toNat, UInt32.toNat_add]
    exact Nat.mod_eq_of_lt (by change c.toNat + 32 < _; omega)
  next =>
    exact .inr rfl

/-- What the lowercase form of a text asks of a character is asked of its lowercase letter. -/
theorem toLower_spec
    (c : Char) :
    CodeRange.contains ignorableRanges c.toLower.toNat =
        CodeRange.contains ignorableRanges c.toNat ∧
      CodeRange.contains casedRanges c.toLower.toNat = CodeRange.contains casedRanges c.toNat ∧
      simpleLower c.toLower.toNat = simpleLower c.toNat := by
  rcases toLower_cases c with ⟨hlow, hhigh, hcode⟩ | hsame
  · obtain ⟨hignorable, hcased, hlower⟩ := capital_spec c.toNat hhigh hlow
    rw [hcode]
    exact ⟨hignorable.symm, hcased.symm, hlower.symm⟩
  · rw [hsame]
    exact ⟨rfl, rfl, rfl⟩

/-- Characters may be exchanged for others that are skipped and cased alike. -/
theorem leadsWithCased_map
    {f : Char → Char}
    (hignorable : ∀ c, CodeRange.contains ignorableRanges (f c).toNat =
      CodeRange.contains ignorableRanges c.toNat)
    (hcased : ∀ c, CodeRange.contains casedRanges (f c).toNat =
      CodeRange.contains casedRanges c.toNat)
    (cs : List Char) :
    leadsWithCased (cs.map f) = leadsWithCased cs := by
  induction cs with
  | nil =>
      rfl
  | cons c rest ih =>
      simp only [leadsWithCased, List.map_cons, List.dropWhile_cons, hignorable] at ih ⊢
      cases CodeRange.contains ignorableRanges c.toNat with
      | true => exact ih
      | false => exact hcased c

theorem leadsWithCased_map_toLower
    (cs : List Char) :
    leadsWithCased (cs.map Char.toLower) = leadsWithCased cs :=
  leadsWithCased_map (fun c => (toLower_spec c).1) (fun c => (toLower_spec c).2.1) cs

/-- A character beyond ASCII is the lowercase letter of itself only. -/
theorem toLower_eq_iff_of_le
    {c d : Char}
    (hd : 128 ≤ d.toNat) :
    c.toLower = d ↔ c = d := by
  rcases toLower_cases c with ⟨hlow, hhigh, hcode⟩ | hsame
  · constructor
    · rintro rfl
      omega
    · rintro rfl
      omega
  · rw [hsame]

theorem lowerForm_map_toLower
    (before : List Char)
    (c : Char)
    (after : List Char) :
    lowerForm (before.map Char.toLower) c.toLower (after.map Char.toLower) =
      lowerForm before c after := by
  have hsigma : c.toLower = 'Σ' ↔ c = 'Σ' := toLower_eq_iff_of_le (by decide)
  have hdotted : c.toLower = 'İ' ↔ c = 'İ' := toLower_eq_iff_of_le (by decide)
  obtain ⟨-, -, hlower⟩ := toLower_spec c
  simp only [lowerForm, leadsWithCased_map_toLower, hsigma, hdotted, hlower]

theorem lowerAfter_map_toLower
    (before cs : List Char) :
    lowerAfter (before.map Char.toLower) (cs.map Char.toLower) = lowerAfter before cs := by
  induction cs generalizing before with
  | nil =>
      rfl
  | cons c rest ih =>
      rw [List.map_cons, lowerAfter, lowerAfter, lowerForm_map_toLower, ← List.map_cons, ih]

/-- Texts of the same letters have one lowercase form. -/
theorem lower_eq_of_sameLetters
    {s t : String}
    (h : SameLetters s t) :
    lower s = lower t := by
  have hs := lowerAfter_map_toLower [] s.toList
  have ht := lowerAfter_map_toLower [] t.toList
  rw [h, ht] at hs
  rw [lower, lower, hs]

end Letters

end Text
end Turnstile
