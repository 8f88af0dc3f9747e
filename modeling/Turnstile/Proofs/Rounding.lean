import Mathlib.Data.Nat.Basic
import Mathlib.Tactic.Linarith
import Mathlib.Tactic.Ring
import Turnstile.Number.Double

/-!
# Rounding to doubles

A quotient is rounded to a double that it is close enough to.  The spacing of doubles
halves below a power of two, so there a quotient must be closer than above it: a relative
distance of less than `2 ^ (-54)` is close enough everywhere.
-/

namespace Turnstile
namespace Double

section Spacing

theorem bitLength_le_iff
    {n k : Nat} :
    bitLength n ≤ k ↔ n < Nat.pow 2 k := by
  unfold bitLength
  by_cases hn : n = 0
  · simp only [hn, if_true]
    exact ⟨fun _ => Nat.pow_pos (by omega), fun _ => Nat.zero_le k⟩
  · rw [if_neg hn]
    exact (Nat.succ_le_iff).trans (Nat.log2_lt hn)

theorem lt_bitLength_iff
    {n k : Nat} :
    k < bitLength n ↔ Nat.pow 2 k ≤ n := by
  rw [← Nat.not_le, bitLength_le_iff, Nat.not_lt]

theorem spacing_pos
    (n : Nat) :
    0 < spacing n :=
  Nat.pow_pos (by omega)

theorem spacing_eq_one
    {n : Nat}
    (hn : bitLength n ≤ 53) :
    spacing n = 1 := by
  rw [spacing, excessBits, Nat.sub_eq_zero_of_le hn]

theorem spacing_eq_of_bitLength_eq
    {m n : Nat}
    (h : bitLength m = bitLength n) :
    spacing m = spacing n := by
  rw [spacing, spacing, excessBits, excessBits, h]

theorem mod_spacing_of_representable
    {u : Nat}
    (h : representable u = true) :
    u % spacing u = 0 :=
  beq_iff_eq.mp (Bool.and_eq_true_iff.mp h).2

theorem pow_eq_double
    {k : Nat}
    (hk : 0 < k) :
    Nat.pow 2 k = 2 * Nat.pow 2 (k - 1) := by
  change 2 ^ _ = 2 * 2 ^ _
  rw [← Nat.pow_succ']
  congr 1
  omega

/-- A multiple of its spacing has at most 53 bits as such. -/
theorem exists_significand
    {u : Nat}
    (hu : 0 < u)
    (hmod : u % spacing u = 0) :
    ∃ m c, u = m * spacing u ∧ Nat.pow 2 (bitLength u) = c * spacing u ∧ m + 1 ≤ c ∧
      c ≤ 2 * m ∧ c ≤ Nat.pow 2 53 := by
  have hmul : u = u / spacing u * spacing u := (Nat.div_mul_cancel (Nat.dvd_of_mod_eq_zero hmod)).symm
  have hlength : excessBits u ≤ bitLength u := Nat.sub_le _ _
  have hpow : Nat.pow 2 (bitLength u) =
      Nat.pow 2 (bitLength u - excessBits u) * spacing u := by
    rw [spacing]
    change 2 ^ _ = 2 ^ _ * 2 ^ _
    rw [← Nat.pow_add]
    congr 1
    omega
  have hlt : u < Nat.pow 2 (bitLength u) := bitLength_le_iff.mp (Nat.le_refl _)
  have hpos : 0 < bitLength u := lt_bitLength_iff.mpr hu
  have hge : Nat.pow 2 (bitLength u) ≤ 2 * u := by
    have hhalf : Nat.pow 2 (bitLength u - 1) ≤ u := lt_bitLength_iff.mp (by omega)
    have hdouble : Nat.pow 2 (bitLength u) = 2 * Nat.pow 2 (bitLength u - 1) :=
      pow_eq_double hpos
    omega
  refine ⟨u / spacing u, Nat.pow 2 (bitLength u - excessBits u), hmul, hpow, ?_, ?_, ?_⟩
  · rw [hpow] at hlt
    have hlt' : u / spacing u * spacing u < Nat.pow 2 (bitLength u - excessBits u) * spacing u := by
      rwa [← hmul]
    exact Nat.lt_of_mul_lt_mul_right hlt'
  · rw [hpow] at hge
    have hge' : Nat.pow 2 (bitLength u - excessBits u) * spacing u ≤
        2 * (u / spacing u) * spacing u := by
      rw [Nat.mul_assoc, ← hmul]
      exact hge
    exact Nat.le_of_mul_le_mul_right hge' (spacing_pos u)
  · apply Nat.pow_le_pow_right (by omega)
    unfold excessBits
    omega

end Spacing

section Nearest

/-- A quotient less than a half away from a whole number is rounded to it. -/
theorem roundDiv_eq_of_near
    {num den m : Nat}
    (hbelow : 2 * m * den < 2 * num + den)
    (habove : 2 * num < 2 * m * den + den) :
    roundDiv num den = m := by
  have hden : 0 < den := by
    by_contra hzero
    obtain rfl : den = 0 := by omega
    omega
  have hdivision := Nat.div_add_mod num den
  have hrest := Nat.mod_lt num hden
  have hcases : m = num / den ∨ m = num / den + 1 := by
    have hlow : num / den ≤ m := by
      by_contra hgt
      have hmul : den * (m + 1) ≤ den * (num / den) := Nat.mul_le_mul_left den (by omega)
      have hexpand : den * (m + 1) = m * den + den := by ring
      have hdouble : 2 * m * den = 2 * (m * den) := by ring
      omega
    have hhigh : m ≤ num / den + 1 := by
      by_contra hgt
      have hmul : den * (num / den + 2) ≤ den * m := Nat.mul_le_mul_left den (by omega)
      have hexpand : den * (num / den + 2) = den * (num / den) + 2 * den := by ring
      have hdouble : 2 * m * den = 2 * (den * m) := by ring
      omega
    omega
  rcases hcases with rfl | rfl
  · have hdouble : 2 * (num / den) * den = 2 * (den * (num / den)) := by ring
    have hup : ¬ (den < 2 * (num % den) ∨
        2 * (num % den) = den ∧ num / den % 2 = 1) := by
      omega
    simp only [roundDiv, Bool.or_eq_true, decide_eq_true_eq, Bool.and_eq_true, beq_iff_eq,
      if_neg hup]
  · have hdouble : 2 * (num / den + 1) * den = 2 * (den * (num / den)) + 2 * den := by ring
    have hup : den < 2 * (num % den) ∨ 2 * (num % den) = den ∧ num / den % 2 = 1 := by
      omega
    simp only [roundDiv, Bool.or_eq_true, decide_eq_true_eq, Bool.and_eq_true, beq_iff_eq,
      if_pos hup]

/-- A quotient lies less than half a spacing away from `m` spacings. -/
def IsNear
    (num den m : Nat) : Prop :=
  2 * m * (den * spacing (num / den)) < 2 * num + den * spacing (num / den) ∧
    2 * num < 2 * m * (den * spacing (num / den)) + den * spacing (num / den)

/-- With a bit less the spacing is half as large. -/
theorem spacing_eq_double
    {u q : Nat}
    (hlarge : 53 < bitLength u)
    (hlength : bitLength q = bitLength u - 1) :
    spacing u = 2 * spacing q := by
  rw [spacing, spacing, excessBits, excessBits, hlength, Nat.sub_right_comm]
  exact pow_eq_double (by omega)

/--
Below a power of two the spacing halves.  A quotient that lies there, but within a
`2 ^ (-54)`th of a double of `m` spacings, lies less than half a spacing away from `2 * m`.
-/
theorem isNear_of_lower
    {u num den m c : Nat}
    (hden : 0 < den)
    (hm : u = m * spacing u)
    (hlimit : Nat.pow 2 (bitLength u) * den = c * (den * spacing u))
    (hcm : c ≤ 2 * m)
    (hc : c ≤ 9007199254740992)
    (hlarge : 53 < bitLength u)
    (hbelow : 18014398509481984 * (m * (den * spacing u)) <
      18014398509481984 * num + m * (den * spacing u))
    (hmc : m * (den * spacing u) + den * spacing u ≤ c * (den * spacing u))
    (hlower : num / den < Nat.pow 2 (bitLength u - 1)) :
    u = 2 * m * spacing (num / den) ∧ IsNear num den (2 * m) := by
  have hhalf : Nat.pow 2 (bitLength u) = 2 * Nat.pow 2 (bitLength u - 1) :=
    pow_eq_double (by omega)
  have hquarter : Nat.pow 2 (bitLength u - 1) = 2 * Nat.pow 2 (bitLength u - 2) :=
    pow_eq_double (by omega)
  have hcSteps : c * (den * spacing u) ≤ 9007199254740992 * (den * spacing u) :=
    Nat.mul_le_mul_right _ hc
  have hnum : 2 * num < c * (den * spacing u) := by
    rw [← hlimit, hhalf, Nat.mul_assoc]
    rw [Nat.div_lt_iff_lt_mul hden] at hlower
    omega
  -- So the double is the power of two itself.
  have hcEq : c = 2 * m := by
    by_contra hne
    have hcSteps' : c * (den * spacing u) + den * spacing u ≤ 2 * m * (den * spacing u) := by
      rw [← Nat.succ_mul]
      exact Nat.mul_le_mul_right _ (by omega)
    rw [Nat.mul_assoc 2] at hcSteps'
    omega
  have hge : Nat.pow 2 (bitLength u - 2) ≤ num / den := by
    rw [Nat.le_div_iff_mul_le hden]
    have hfour : 4 * (Nat.pow 2 (bitLength u - 2) * den) = c * (den * spacing u) := by
      rw [← hlimit, hhalf, hquarter]
      ring
    rw [hcEq, Nat.mul_assoc] at hfour
    omega
  have hlength : bitLength (num / den) = bitLength u - 1 := by
    have hle := bitLength_le_iff.mpr hlower
    have hgt := lt_bitLength_iff.mpr hge
    omega
  have hspacing := spacing_eq_double hlarge hlength
  have hm' : u = 2 * m * spacing (num / den) := by
    rw [hm, hspacing]
    ring
  have hassoc : 2 * (2 * m) * (den * spacing (num / den)) = 2 * (m * (den * spacing u)) := by
    rw [hspacing]
    ring
  have hdouble : den * spacing u = 2 * (den * spacing (num / den)) := by
    rw [hspacing]
    ring
  rw [hcEq, Nat.mul_assoc] at hcSteps hnum
  refine ⟨hm', ?_, ?_⟩
  · rw [hassoc]
    omega
  · rw [hassoc]
    omega

/-- A quotient within a `2 ^ (-54)`th of a double lies less than half a spacing away. -/
theorem exists_isNear
    {u num den : Nat}
    (hu : 0 < u)
    (hmod : u % spacing u = 0)
    (hden : 0 < den)
    (hbelow : Nat.pow 2 54 * (u * den) < Nat.pow 2 54 * num + u * den)
    (habove : Nat.pow 2 54 * num < Nat.pow 2 54 * (u * den) + u * den) :
    ∃ m, u = m * spacing (num / den) ∧ IsNear num den m := by
  obtain ⟨m, c, hm, hpow, hmc, hcm, hc⟩ := exists_significand hu hmod
  -- The quotient lies in `m - 1/2 .. m + 1/2` steps of the spacing at the double.
  have hsteps : u * den = m * (den * spacing u) := by
    rw [Nat.mul_comm den, ← Nat.mul_assoc, ← hm]
  have hlimit : Nat.pow 2 (bitLength u) * den = c * (den * spacing u) := by
    rw [hpow, Nat.mul_assoc, Nat.mul_comm den]
  rw [hsteps] at hbelow habove
  have hmcSteps : m * (den * spacing u) + den * spacing u ≤ c * (den * spacing u) := by
    rw [← Nat.succ_mul]
    exact Nat.mul_le_mul_right _ hmc
  have hcSteps : c * (den * spacing u) ≤ 9007199254740992 * (den * spacing u) :=
    Nat.mul_le_mul_right _ hc
  have hpow54 : Nat.pow 2 54 = 18014398509481984 := rfl
  rw [hpow54] at hbelow habove
  have hlt : num / den < Nat.pow 2 (bitLength u) := by
    rw [Nat.div_lt_iff_lt_mul hden, hlimit]
    omega
  by_cases hsame : spacing (num / den) = spacing u
  · refine ⟨m, by rwa [hsame], ?_, ?_⟩
    · rw [hsame, Nat.mul_assoc]
      omega
    · rw [hsame, Nat.mul_assoc]
      omega
  have hlower : num / den < Nat.pow 2 (bitLength u - 1) := by
    by_contra hge
    apply hsame
    apply spacing_eq_of_bitLength_eq
    have hle := bitLength_le_iff.mpr hlt
    have hgt := lt_bitLength_iff.mpr (Nat.le_of_not_lt hge)
    omega
  have hlarge : 53 < bitLength u := by
    by_contra hsmall
    apply hsame
    have hle := bitLength_le_iff.mpr hlt
    rw [spacing_eq_one (by omega), spacing_eq_one (by omega)]
  exact ⟨2 * m, isNear_of_lower hden hm hlimit hcm hc hlarge hbelow hmcSteps hlower⟩

/-- A quotient within a `2 ^ (-54)`th of a double is rounded to it. -/
theorem ofUnits_eq_of_near
    (negative : Bool)
    {u num den : Nat}
    (hu : 0 < u)
    (h : representable u = true)
    (hden : 0 < den)
    (hbelow : Nat.pow 2 54 * (u * den) < Nat.pow 2 54 * num + u * den)
    (habove : Nat.pow 2 54 * num < Nat.pow 2 54 * (u * den) + u * den) :
    ofUnits negative num den = .finite negative u h := by
  obtain ⟨m, hm, hnear⟩ :=
    exists_isNear hu (mod_spacing_of_representable h) hden hbelow habove
  have hround := roundDiv_eq_of_near hnear.1 hnear.2
  simp only [ofUnits, hround, ← hm, h, dif_pos]

end Nearest

section Quotients

theorem roundDiv_mul_right
    (num den : Nat)
    {k : Nat}
    (hk : 0 < k) :
    roundDiv (num * k) (den * k) = roundDiv num den := by
  have hmod : num * k % (den * k) = num % den * k := Nat.mul_mod_mul_right k num den
  have hlt : den * k < 2 * (num % den * k) ↔ den < 2 * (num % den) := by
    rw [← Nat.mul_assoc]
    exact Nat.mul_lt_mul_right hk
  have heq : 2 * (num % den * k) = den * k ↔ 2 * (num % den) = den := by
    rw [← Nat.mul_assoc]
    exact Nat.mul_left_inj (Nat.pos_iff_ne_zero.mp hk)
  simp only [roundDiv, Nat.mul_div_mul_right num den hk, hmod, Bool.or_eq_true,
    decide_eq_true_eq, Bool.and_eq_true, beq_iff_eq, hlt, heq]

/-- Equal quotients are rounded alike. -/
theorem ofUnits_congr
    (negative : Bool)
    {num den num' den' : Nat}
    (hden : 0 < den)
    (hden' : 0 < den')
    (h : num * den' = num' * den) :
    ofUnits negative num den = ofUnits negative num' den' := by
  have hquotient : num / den = num' / den' := by
    rw [← Nat.mul_div_mul_right num den hden', ← Nat.mul_div_mul_right num' den' hden, h,
      Nat.mul_comm den den']
  have hround : roundDiv num (den * spacing (num' / den')) =
      roundDiv num' (den' * spacing (num' / den')) := by
    rw [← roundDiv_mul_right num _ hden', ← roundDiv_mul_right num' _ hden, h,
      Nat.mul_right_comm den, Nat.mul_right_comm den', Nat.mul_comm den den']
  simp only [ofUnits, hquotient, hround]

end Quotients

end Double
end Turnstile
