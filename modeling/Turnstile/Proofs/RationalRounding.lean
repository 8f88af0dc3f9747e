import Mathlib.Algebra.Order.Field.Power
import Mathlib.Algebra.Order.Field.Rat
import Mathlib.Tactic.Positivity
import Turnstile.Proofs.RoundingOrder

/-!
# Doubles of rationals

Every double but a NaN has a rank among the integers: its units with their sign, or the
limit that no double reaches for an infinity.  The conversions give the double whose rank is
that nearest to the rational converted, and a larger rational has no smaller nearest rank,
from the smallest that are rounded to zero to the largest that are rounded to an infinity.

**Results.**
* `lt_iff_of_rank?`: doubles are compared by rank.
* `nearestRank_le_nearestRank`: rounding keeps the order of rationals.
* `rank?_ofDecimal`, `rank?_ofInt`, `rank?_finite`: what the conversions give.
* `nearestRank_intCast`: integers of up to 53 bits are not rounded.
-/

namespace Turnstile
namespace Double

section Ranks

/-- A natural number with a sign. -/
def signedInt
    (negative : Bool)
    (n : Nat) : Int :=
  if negative then -(n : Int) else n

theorem signedInt_mul
    (negative : Bool)
    (m n : Nat) :
    signedInt negative (m * n) = signedInt negative m * n := by
  cases negative with
  | false => simp [signedInt]
  | true => simp [signedInt]

theorem signedInt_lt_iff
    {a b : Bool}
    {limit : Nat}
    (hpos : 0 < limit) :
    signedInt a limit < signedInt b limit ↔ (a && !b) = true := by
  unfold signedInt
  cases a <;> cases b <;> simp
  all_goals omega

/-- A negative number of the largest magnitude is the least. -/
theorem signedInt_limit_lt_iff
    {a b : Bool}
    {limit u : Nat}
    (hu : u < limit) :
    signedInt a limit < signedInt b u ↔ a = true := by
  unfold signedInt
  cases a <;> cases b <;> simp <;> omega

/-- A positive number of the largest magnitude is the greatest. -/
theorem signedInt_lt_limit_iff
    {a b : Bool}
    {limit u : Nat}
    (hu : u < limit) :
    signedInt a u < signedInt b limit ↔ (!b) = true := by
  unfold signedInt
  cases a <;> cases b <;> simp <;> omega

/-- The place of a double among all: its units, with infinities at the limit. -/
def rank? : Double → Option Int
  | .nan => none
  | .infinite negative => some (signedInt negative unitLimit)
  | .finite negative units _ => some (signedInt negative units)

/-- Doubles are compared by rank. -/
theorem lt_iff_of_rank?
    {x y : Double}
    {m n : Int}
    (hx : x.rank? = some m)
    (hy : y.rank? = some n) :
    lt x y = true ↔ m < n := by
  cases x with
  | nan => cases hx
  | infinite a =>
      rw [← Option.some.inj hx]
      cases y with
      | nan => cases hy
      | infinite b =>
          rw [← Option.some.inj hy]
          exact (signedInt_lt_iff (lt_unitLimit_of_representable representable_zero)).symm
      | finite b v hv =>
          rw [← Option.some.inj hy]
          exact (signedInt_limit_lt_iff (lt_unitLimit_of_representable hv)).symm
  | finite a u hu =>
      rw [← Option.some.inj hx]
      cases y with
      | nan => cases hy
      | infinite b =>
          rw [← Option.some.inj hy]
          exact (signedInt_lt_limit_iff (lt_unitLimit_of_representable hu)).symm
      | finite b v hv =>
          rw [← Option.some.inj hy]
          exact decide_eq_true_iff

end Ranks

section Quotients

variable {num den num' den' : Nat}

theorem nearestUnits_congr
    (hden : 0 < den)
    (hden' : 0 < den')
    (h : num * den' = num' * den) :
    nearestUnits num den = nearestUnits num' den' :=
  le_antisymm (nearestUnits_le_nearestUnits hden hden' h.le)
    (nearestUnits_le_nearestUnits hden' hden h.ge)

theorem nearestUnits_one_of_representable
    {u : Nat}
    (h : representable u = true) :
    nearestUnits u 1 = u := by
  rw [nearestUnits_one]
  exact rounded_eq_self (Nat.dvd_of_mod_eq_zero (mod_spacing_of_representable h))

/-- A rounded quotient is a double as soon as it is below the limit. -/
theorem representable_nearestUnits_iff
    (num den : Nat) :
    representable (nearestUnits num den) = true ↔ nearestUnits num den < unitLimit := by
  rw [representable, Bool.and_eq_true, beq_iff_eq, decide_eq_true_eq]
  exact and_iff_left (steps_mod_spacing (roundDiv_spacing_le num den))

/-- A quotient of units is rounded to its nearest units, at most to the limit. -/
theorem rank?_ofUnits
    (negative : Bool)
    (num den : Nat) :
    (ofUnits negative num den).rank? =
      some (signedInt negative (min (nearestUnits num den) unitLimit)) := by
  have hunits : ofUnits negative num den =
      if h : representable (nearestUnits num den) = true
      then .finite negative (nearestUnits num den) h
      else .infinite negative := rfl
  rw [hunits]
  by_cases h : representable (nearestUnits num den) = true
  · rw [dif_pos h, min_eq_left ((representable_nearestUnits_iff num den).mp h).le]
    rfl
  · rw [dif_neg h]
    rw [representable_nearestUnits_iff, Nat.not_lt] at h
    rw [min_eq_right h]
    rfl

/-- The limit is a power of two. -/
theorem nearestUnits_unitLimit : nearestUnits unitLimit 1 = unitLimit := by
  rw [nearestUnits_one]
  apply rounded_eq_self
  delta unitLimit
  generalize 2098 = bits
  apply Nat.pow_dvd_pow 2
  have hlength : bitLength (Nat.pow 2 bits) ≤ bits + 1 := by
    rw [bitLength_le_iff]
    exact Nat.pow_lt_pow_right (by omega) (by omega)
  rw [excessBits]
  omega

/-- What is less than half of a unit is rounded to nothing. -/
theorem nearestUnits_eq_zero
    (h : 2 * num < den) :
    nearestUnits num den = 0 := by
  have hquotient : num / den = 0 := Nat.div_eq_of_lt (by omega)
  have hspacing : spacing 0 = 1 := spacing_eq_one (by decide)
  rw [nearestUnits, hquotient, hspacing, Nat.mul_one, Nat.mul_one]
  exact roundDiv_eq_of_near (by omega) (by omega)

end Quotients

section Rationals

/-- The units nearest to the magnitude of a rational, at most the limit. -/
def nearestMagnitude
    (q : ℚ) : Nat :=
  min (nearestUnits (q.num.natAbs * unitsPerOne) q.den) unitLimit

/-- The rank nearest to a rational. -/
def nearestRank
    (q : ℚ) : Int :=
  signedInt (q < 0) (nearestMagnitude q)

theorem abs_eq_natAbs_div
    (q : ℚ) :
    |q| = q.num.natAbs / q.den := by
  conv_lhs => rw [← Rat.num_div_den q]
  rw [abs_div, Nat.abs_cast, Nat.cast_natAbs, Int.cast_abs]

/-- The nearest units of a rational are those of any quotient that it is. -/
theorem nearestMagnitude_eq
    {q : ℚ}
    {num den : Nat}
    (hden : 0 < den)
    (h : |q| = num / den) :
    nearestMagnitude q = min (nearestUnits (num * unitsPerOne) den) unitLimit := by
  have hcross : q.num.natAbs * den = num * q.den := by
    rw [abs_eq_natAbs_div, div_eq_div_iff (by exact_mod_cast q.den_nz) (by positivity)] at h
    exact_mod_cast h
  rw [nearestMagnitude, nearestUnits_congr q.den_pos hden]
  rw [Nat.mul_right_comm, hcross, Nat.mul_right_comm]

/-- Rounding keeps the order of magnitudes. -/
theorem nearestMagnitude_le_nearestMagnitude
    {p q : ℚ}
    (h : |p| ≤ |q|) :
    nearestMagnitude p ≤ nearestMagnitude q := by
  have hcross : p.num.natAbs * q.den ≤ q.num.natAbs * p.den := by
    rw [abs_eq_natAbs_div, abs_eq_natAbs_div, div_le_div_iff₀ (by exact_mod_cast p.den_pos)
      (by exact_mod_cast q.den_pos)] at h
    exact_mod_cast h
  apply min_le_min_right
  apply nearestUnits_le_nearestUnits p.den_pos q.den_pos
  rw [Nat.mul_right_comm, Nat.mul_right_comm q.num.natAbs]
  exact Nat.mul_le_mul_right _ hcross

/-- Rounding keeps the order of rationals. -/
theorem nearestRank_le_nearestRank
    {p q : ℚ}
    (h : p ≤ q) :
    nearestRank p ≤ nearestRank q := by
  unfold nearestRank signedInt
  by_cases hp : p < 0
  · by_cases hq : q < 0
    · have hround : nearestMagnitude q ≤ nearestMagnitude p := by
        apply nearestMagnitude_le_nearestMagnitude
        rw [abs_of_neg hp, abs_of_neg hq]
        exact neg_le_neg h
      simp only [hp, hq, decide_true, if_true]
      omega
    · simp only [hp, hq, decide_true, decide_false, if_true, Bool.false_eq_true, if_false]
      omega
  · have hq : ¬ q < 0 := fun hq => hp (h.trans_lt hq)
    have hround : nearestMagnitude p ≤ nearestMagnitude q := by
      apply nearestMagnitude_le_nearestMagnitude
      rw [abs_of_nonneg (not_lt.mp hp), abs_of_nonneg (not_lt.mp hq)]
      exact h
    simp only [hp, hq, decide_false, Bool.false_eq_true, if_false]
    omega

/-- The rational of a sign and a magnitude. -/
def signedRat
    (negative : Bool)
    (m : ℚ) : ℚ :=
  (if negative then -1 else 1) * m

theorem nearestMagnitude_zero : nearestMagnitude 0 = 0 := by
  rw [nearestMagnitude, Rat.num_zero, Rat.den_zero, Int.natAbs_zero, Nat.zero_mul,
    nearestUnits_eq_zero (by omega), Nat.zero_min]

theorem nearestMagnitude_neg
    (q : ℚ) :
    nearestMagnitude (-q) = nearestMagnitude q := by
  rw [nearestMagnitude, nearestMagnitude, Rat.neg_num, Int.natAbs_neg, Rat.neg_den]

theorem nearestRank_signedRat
    (negative : Bool)
    {m : ℚ}
    (hm : 0 ≤ m) :
    nearestRank (signedRat negative m) = signedInt negative (nearestMagnitude m) := by
  cases negative with
  | false =>
      rw [signedRat, if_neg Bool.false_ne_true, one_mul, nearestRank,
        decide_eq_false (not_lt.mpr hm)]
  | true =>
      rw [signedRat, if_pos rfl, neg_one_mul, nearestRank, nearestMagnitude_neg]
      rcases hm.eq_or_lt with rfl | hpos
      · rw [nearestMagnitude_zero]
        rfl
      · rw [decide_eq_true (neg_neg_of_pos hpos)]

/-- A quotient is converted to the double of the nearest rank. -/
theorem rank?_ofRatio
    (negative : Bool)
    {num den : Nat}
    (hden : 0 < den)
    {m : ℚ}
    (hm : m = num / den) :
    (ofRatio negative num den).rank? = some (nearestRank (signedRat negative m)) := by
  have hnonneg : 0 ≤ m := by
    rw [hm]
    positivity
  have hsame : |m| = num / den := by
    rw [abs_of_nonneg hnonneg, hm]
  rw [ofRatio, rank?_ofUnits, nearestRank_signedRat negative hnonneg,
    nearestMagnitude_eq hden hsame]

theorem abs_intCast_eq
    (n : Int) :
    |(n : ℚ)| = n.natAbs / (1 : Nat) := by
  rw [Nat.cast_one, div_one, Nat.cast_natAbs, Int.cast_abs]

/-- An integer is converted to the double of the nearest rank. -/
theorem rank?_ofInt
    (n : Int) :
    (ofInt n).rank? = some (nearestRank n) := by
  have hsigned : signedRat (n < 0) |(n : ℚ)| = n := by
    by_cases hn : n < 0
    · rw [signedRat, decide_eq_true hn, if_pos rfl, abs_of_neg (Int.cast_lt_zero.mpr hn),
        neg_one_mul, neg_neg]
    · have hnonneg : (0 : ℚ) ≤ n := by exact_mod_cast not_lt.mp hn
      rw [signedRat, decide_eq_false hn, if_neg Bool.false_ne_true, abs_of_nonneg hnonneg, one_mul]
  rw [ofInt, rank?_ofRatio (n < 0) Nat.one_pos (abs_intCast_eq n), hsigned]

/-- A finite double has the rank nearest to its own value. -/
theorem rank?_finite
    (negative : Bool)
    {units : Nat}
    (h : representable units = true) :
    (Double.finite negative units h).rank? =
      some (nearestRank (signedRat negative (units / unitsPerOne))) := by
  have hnonneg : (0 : ℚ) ≤ units / unitsPerOne := by
    positivity
  rw [nearestRank_signedRat negative hnonneg,
    nearestMagnitude_eq unitsPerOne_pos (abs_of_nonneg hnonneg),
    nearestUnits_congr unitsPerOne_pos Nat.one_pos (Nat.mul_one _),
    nearestUnits_one_of_representable h,
    min_eq_left (lt_unitLimit_of_representable h).le]
  rfl

/-- An integer of a magnitude up to `2 ^ 53` is not rounded. -/
theorem nearestRank_intCast
    {n : Int}
    (h : n.natAbs ≤ exactLimit) :
    nearestRank n = n * unitsPerOne := by
  have hsigned : signedInt (n < 0) n.natAbs = n := by
    unfold signedInt
    by_cases hn : n < 0
    · rw [decide_eq_true hn, if_pos rfl]
      omega
    · rw [decide_eq_false hn, if_neg Bool.false_ne_true]
      omega
  have hround := rounded_mul_unitsPerOne n.natAbs
  have hbelow := lt_unitLimit_of_representable
    ((representable_rounded_iff n).mpr (overflows_of_natAbs_le h))
  rw [hround, rounded_of_le_exactLimit h] at hbelow
  rw [nearestRank, nearestMagnitude_eq Nat.one_pos (abs_intCast_eq n), nearestUnits_one, hround,
    rounded_of_le_exactLimit h, min_eq_left hbelow.le, signedInt_mul]
  simp only [Int.cast_lt_zero, hsigned]

section Decimals

variable {digits : Nat} {e : Int}

theorem tenPower_cast
    (n : Nat) :
    (tenPower n : ℚ) = 10 ^ n := by
  have hpow : tenPower n = 10 ^ n := rfl
  rw [hpow, Nat.cast_pow, Nat.cast_ofNat]

theorem mul_zpow_of_nonneg
    (he : 0 ≤ e) :
    (digits * 10 ^ e : ℚ) = (digits * tenPower e.toNat : Nat) / (1 : Nat) := by
  rw [Nat.cast_one, div_one, Nat.cast_mul, tenPower_cast, ← zpow_natCast, Int.toNat_of_nonneg he]

theorem mul_zpow_of_neg
    (he : e < 0) :
    (digits * 10 ^ e : ℚ) = digits / tenPower (-e).toNat := by
  rw [tenPower_cast, ← zpow_natCast, Int.toNat_of_nonneg (by omega), zpow_neg, div_inv_eq_mul]

/-- A decimal of this exponent lies beyond the largest double. -/
theorem nearestMagnitude_of_large
    (hdigits : 0 < digits)
    (he : 310 ≤ e) :
    nearestMagnitude (digits * 10 ^ e) = unitLimit := by
  have hnonneg : (0 : ℚ) ≤ digits * 10 ^ e := by
    positivity
  have hvalue : (digits * 10 ^ e : ℚ) = (digits * tenPower e.toNat : Nat) / (1 : Nat) :=
    mul_zpow_of_nonneg (by omega)
  have hunits : unitLimit ≤ digits * tenPower e.toNat * unitsPerOne := by
    calc unitLimit
        ≤ tenPower 309 * unitsPerOne := unitLimit_le
      _ ≤ tenPower e.toNat * unitsPerOne :=
          Nat.mul_le_mul_right _ (tenPower_le_tenPower (by omega))
      _ ≤ digits * tenPower e.toNat * unitsPerOne :=
          Nat.mul_le_mul_right _ (Nat.le_mul_of_pos_left _ hdigits)
  have hround :=
    nearestUnits_le_nearestUnits Nat.one_pos Nat.one_pos (Nat.mul_le_mul_right 1 hunits)
  rw [nearestUnits_unitLimit] at hround
  rw [nearestMagnitude_eq Nat.one_pos ((abs_of_nonneg hnonneg).trans hvalue)]
  exact min_eq_right hround

/-- A decimal of this exponent lies below half of the smallest double. -/
theorem nearestMagnitude_of_small
    (he : e < -(400 + bitLength digits : Int)) :
    nearestMagnitude (digits * 10 ^ e) = 0 := by
  have hnonneg : (0 : ℚ) ≤ digits * 10 ^ e := by
    positivity
  have hvalue : (digits * 10 ^ e : ℚ) = digits / tenPower (-e).toNat :=
    mul_zpow_of_neg (by omega)
  have hbits : unitBits = 1074 := rfl
  have hdigits : digits < Nat.pow 2 (bitLength digits) := bitLength_le_iff.mp le_rfl
  have htwo : 2 * (Nat.pow 2 (bitLength digits) * unitsPerOne) =
      Nat.pow 2 (bitLength digits + unitBits + 1) := by
    rw [unitsPerOne_eq]
    generalize unitBits = bits
    rw [pow_eq_double (Nat.succ_pos _)]
    exact congrArg (2 * ·) (Nat.pow_add 2 _ _).symm
  have hten : Nat.pow 2 (bitLength digits + unitBits + 1) ≤ tenPower (-e).toNat :=
    two_pow_le_tenPower (by omega)
  have hless : 2 * (digits * unitsPerOne) < tenPower (-e).toNat := by
    calc 2 * (digits * unitsPerOne)
        < 2 * (Nat.pow 2 (bitLength digits) * unitsPerOne) :=
          Nat.mul_lt_mul_of_pos_left (Nat.mul_lt_mul_of_pos_right hdigits unitsPerOne_pos) two_pos
      _ = Nat.pow 2 (bitLength digits + unitBits + 1) := htwo
      _ ≤ tenPower (-e).toNat := hten
  rw [nearestMagnitude_eq (tenPower_pos _) ((abs_of_nonneg hnonneg).trans hvalue),
    nearestUnits_eq_zero hless, Nat.zero_min]

/-- A decimal is converted to the double of the nearest rank. -/
theorem rank?_ofDecimal
    (negative : Bool)
    (digits : Nat)
    (e : Int) :
    (ofDecimal negative digits e).rank? =
      some (nearestRank (signedRat negative (digits * 10 ^ e))) := by
  have hnonneg : (0 : ℚ) ≤ digits * 10 ^ e := by
    positivity
  unfold ofDecimal
  by_cases hzero : digits = 0
  · rw [if_pos hzero, nearestRank_signedRat negative hnonneg, hzero, Nat.cast_zero, zero_mul,
      nearestMagnitude_zero]
    rfl
  rw [if_neg hzero]
  by_cases hlarge : 310 ≤ e
  · rw [if_pos hlarge, nearestRank_signedRat negative hnonneg,
      nearestMagnitude_of_large (Nat.pos_of_ne_zero hzero) hlarge]
    rfl
  rw [if_neg hlarge]
  by_cases hsmall : e < -(400 + bitLength digits : Int)
  · rw [if_pos hsmall, nearestRank_signedRat negative hnonneg, nearestMagnitude_of_small hsmall]
    rfl
  rw [if_neg hsmall]
  by_cases he : 0 ≤ e
  · rw [if_pos he]
    exact rank?_ofRatio negative Nat.one_pos (mul_zpow_of_nonneg he)
  · rw [if_neg he]
    exact rank?_ofRatio negative (tenPower_pos _) (mul_zpow_of_neg (not_le.mp he))

end Decimals

end Rationals

end Double
end Turnstile
