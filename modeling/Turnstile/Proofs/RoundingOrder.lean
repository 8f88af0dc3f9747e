import Turnstile.Proofs.Conversion

/-!
# Rounding keeps the order

A larger quotient is not rounded to a smaller double.  Among quotients of one spacing this
is rounding to a whole number of steps; where the spacing grows, a power of two lies between
the two, and rounding does not pass it from either side.  Integers of up to 53 bits are
doubles already, larger ones may share their double with a neighbour.

**Results.**
* `nearestUnits_le_nearestUnits`: rounding a quotient keeps the order.
* `rounded_mul_pow`: rounding does not depend on the unit.
* `nearestInt_le_nearestInt`, `nearestInt_of_natAbs_le`: what integers are rounded to.
-/

namespace Turnstile
namespace Double

section Quotients

theorem roundDiv_le_roundDiv_left
    {num num' : Nat}
    (den : Nat)
    (h : num ≤ num') :
    roundDiv num den ≤ roundDiv num' den := by
  rcases (Nat.div_le_div_right (c := den) h).lt_or_eq with hless | hsame
  · calc roundDiv num den
        ≤ num / den + 1 := roundDiv_le num den
      _ ≤ num' / den := hless
      _ ≤ roundDiv num' den := div_le_roundDiv num' den
  · -- The rest decides, and it is not smaller either.
    have hrest : num % den ≤ num' % den := by
      have hnum := Nat.div_add_mod num den
      have hnum' := Nat.div_add_mod num' den
      rw [hsame] at hnum
      omega
    simp only [roundDiv, hsame, Bool.or_eq_true, decide_eq_true_eq, Bool.and_eq_true,
      beq_iff_eq]
    split
    · rw [if_pos (by omega)]
    · split <;> omega

/-- Rounding to a whole number keeps the order of quotients. -/
theorem roundDiv_le_roundDiv
    {num den num' den' : Nat}
    (hden : 0 < den)
    (hden' : 0 < den')
    (h : num * den' ≤ num' * den) :
    roundDiv num den ≤ roundDiv num' den' := by
  rw [← roundDiv_mul_right num den hden', ← roundDiv_mul_right num' den' hden,
    Nat.mul_comm den' den]
  exact roundDiv_le_roundDiv_left (den * den') h

/-- A quotient of units, rounded to a multiple of its spacing. -/
def nearestUnits
    (num den : Nat) : Nat :=
  roundDiv num (den * spacing (num / den)) * spacing (num / den)

theorem nearestUnits_one
    (n : Nat) :
    nearestUnits n 1 = rounded n := by
  rw [nearestUnits, rounded, Nat.div_one, Nat.one_mul]

/-- A power of two that a quotient does not reach is not passed by rounding it up. -/
theorem nearestUnits_le_pow
    {num den bits : Nat}
    (hbits : bitLength (num / den) ≤ bits)
    (hdvd : spacing (num / den) ∣ Nat.pow 2 bits) :
    nearestUnits num den ≤ Nat.pow 2 bits := by
  obtain ⟨c, hc⟩ := hdvd
  have hlt : num / den < Nat.pow 2 bits := bitLength_le_iff.mp hbits
  rw [hc, Nat.mul_comm] at hlt ⊢
  have hsteps : num / (den * spacing (num / den)) < c := by
    rw [← Nat.div_div_eq_div_mul]
    exact (Nat.div_lt_iff_lt_mul (spacing_pos _)).mpr hlt
  have hround := roundDiv_le num (den * spacing (num / den))
  exact Nat.mul_le_mul_right _ (by omega)

/-- A power of two that a quotient has reached is not passed by rounding it down. -/
theorem pow_le_nearestUnits
    {num den bits : Nat}
    (hbits : bits < bitLength (num / den))
    (hdvd : spacing (num / den) ∣ Nat.pow 2 bits) :
    Nat.pow 2 bits ≤ nearestUnits num den := by
  obtain ⟨c, hc⟩ := hdvd
  have hle : Nat.pow 2 bits ≤ num / den := lt_bitLength_iff.mp hbits
  rw [hc, Nat.mul_comm] at hle ⊢
  have hsteps : c ≤ num / (den * spacing (num / den)) := by
    rw [← Nat.div_div_eq_div_mul]
    exact (Nat.le_div_iff_mul_le (spacing_pos _)).mpr hle
  exact Nat.mul_le_mul_right _ (hsteps.trans (div_le_roundDiv _ _))

theorem bitLength_le_bitLength
    {m n : Nat}
    (h : m ≤ n) :
    bitLength m ≤ bitLength n :=
  bitLength_le_iff.mpr (h.trans_lt (bitLength_le_iff.mp le_rfl))

/-- Rounding a quotient of units keeps the order. -/
theorem nearestUnits_le_nearestUnits
    {num den num' den' : Nat}
    (hden : 0 < den)
    (hden' : 0 < den')
    (h : num * den' ≤ num' * den) :
    nearestUnits num den ≤ nearestUnits num' den' := by
  have hquotient : num / den ≤ num' / den' := by
    rw [Nat.le_div_iff_mul_le hden']
    apply Nat.le_of_mul_le_mul_right _ hden
    calc num / den * den' * den
        = num / den * den * den' := Nat.mul_right_comm _ _ _
      _ ≤ num * den' := Nat.mul_le_mul_right _ (Nat.div_mul_le_self num den)
      _ ≤ num' * den := h
  have hlength := bitLength_le_bitLength hquotient
  by_cases hexcess : excessBits (num / den) = excessBits (num' / den')
  · have hspacing : spacing (num / den) = spacing (num' / den') := by
      rw [spacing, spacing, hexcess]
    rw [nearestUnits, nearestUnits, hspacing]
    apply Nat.mul_le_mul_right
    apply roundDiv_le_roundDiv
    · exact Nat.mul_pos hden (spacing_pos _)
    · exact Nat.mul_pos hden' (spacing_pos _)
    · rw [← Nat.mul_assoc, ← Nat.mul_assoc]
      exact Nat.mul_le_mul_right _ h
  · -- The larger quotient has more bits: their highest is a power of two in between.
    have hmore : bitLength (num / den) < bitLength (num' / den') := by
      rcases hlength.lt_or_eq with hlt | hsame
      · exact hlt
      · exact absurd (by rw [excessBits, excessBits, hsame]) hexcess
    rw [excessBits, excessBits] at hexcess
    calc nearestUnits num den
        ≤ Nat.pow 2 (bitLength (num' / den') - 1) := by
          apply nearestUnits_le_pow (by omega)
          apply Nat.pow_dvd_pow 2
          rw [excessBits]
          omega
      _ ≤ nearestUnits num' den' := by
          apply pow_le_nearestUnits (by omega)
          apply Nat.pow_dvd_pow 2
          rw [excessBits]
          omega

end Quotients

section Integers

theorem rounded_le_rounded
    {m n : Nat}
    (h : m ≤ n) :
    rounded m ≤ rounded n := by
  rw [← nearestUnits_one, ← nearestUnits_one]
  exact nearestUnits_le_nearestUnits Nat.one_pos Nat.one_pos (Nat.mul_le_mul_right 1 h)

/-- A multiple of its spacing is rounded to itself. -/
theorem rounded_eq_self
    {n : Nat}
    (h : spacing n ∣ n) :
    rounded n = n := by
  have hrest := Nat.mod_eq_zero_of_dvd h
  have hstay : ¬ (spacing n < 2 * 0 ∨ 2 * 0 = spacing n ∧ n / spacing n % 2 = 1) := by
    have hpos := spacing_pos n
    omega
  simp only [rounded, roundDiv, hrest, Bool.or_eq_true, decide_eq_true_eq, Bool.and_eq_true,
    beq_iff_eq, if_neg hstay]
  exact Nat.div_mul_cancel h

/-- A number of up to 53 bits is rounded to itself. -/
theorem rounded_of_bitLength_le
    {n : Nat}
    (h : bitLength n ≤ 53) :
    rounded n = n := by
  apply rounded_eq_self
  rw [spacing_eq_one h]
  exact Nat.one_dvd n

theorem bitLength_mul_pow
    {n : Nat}
    (hn : 0 < n)
    (k : Nat) :
    bitLength (n * Nat.pow 2 k) = bitLength n + k := by
  have hpow : 0 < Nat.pow 2 k := Nat.pow_pos (by omega)
  have hpos : 0 < bitLength n := lt_bitLength_iff.mpr hn
  apply le_antisymm
  · rw [bitLength_le_iff]
    have hlt := (Nat.mul_lt_mul_right hpow).mpr (bitLength_le_iff.mp (le_refl (bitLength n)))
    exact hlt.trans_eq (Nat.pow_add 2 _ _).symm
  · have hle : Nat.pow 2 (bitLength n - 1) ≤ n := lt_bitLength_iff.mp (by omega)
    have hlt : bitLength n - 1 + k < bitLength (n * Nat.pow 2 k) := by
      rw [lt_bitLength_iff]
      exact (Nat.pow_add 2 _ _).trans_le (Nat.mul_le_mul_right _ hle)
    omega

/-- Rounding does not depend on the unit in which a number is given. -/
theorem rounded_mul_pow
    (n k : Nat) :
    rounded (n * Nat.pow 2 k) = rounded n * Nat.pow 2 k := by
  rcases Nat.eq_zero_or_pos n with rfl | hn
  · rw [Nat.zero_mul, rounded_of_bitLength_le (n := 0) (by decide), Nat.zero_mul]
  have hlength := bitLength_mul_pow hn k
  rcases Nat.le_total (bitLength n) 53 with hfew | hmany
  · rw [rounded_of_bitLength_le hfew]
    apply rounded_eq_self
    refine Dvd.dvd.mul_left (Nat.pow_dvd_pow 2 ?_) n
    rw [excessBits, hlength]
    omega
  · have hspacing : spacing (n * Nat.pow 2 k) = spacing n * Nat.pow 2 k := by
      rw [spacing, spacing, excessBits, excessBits, hlength, Nat.sub_add_comm hmany]
      exact Nat.pow_add 2 _ _
    have hpow : 0 < Nat.pow 2 k := Nat.pow_pos (by omega)
    rw [rounded, rounded, hspacing, roundDiv_mul_right n (spacing n) hpow, Nat.mul_assoc]

/-- The integer that an integer is rounded to. -/
def nearestInt
    (n : Int) : Int :=
  if n < 0 then -(rounded n.natAbs : Int) else rounded n.natAbs

/-- Rounding keeps the order of integers. -/
theorem nearestInt_le_nearestInt
    {m n : Int}
    (h : m ≤ n) :
    nearestInt m ≤ nearestInt n := by
  unfold nearestInt
  by_cases hm : m < 0
  · by_cases hn : n < 0
    · have hround : rounded n.natAbs ≤ rounded m.natAbs := rounded_le_rounded (by omega)
      rw [if_pos hm, if_pos hn]
      omega
    · rw [if_pos hm, if_neg hn]
      omega
  · have hround : rounded m.natAbs ≤ rounded n.natAbs := rounded_le_rounded (by omega)
    rw [if_neg hm, if_neg (by omega)]
    omega

/-- The integers up to this magnitude are doubles. -/
def exactLimit : Nat := Nat.pow 2 53

theorem rounded_of_le_exactLimit
    {n : Nat}
    (h : n ≤ exactLimit) :
    rounded n = n := by
  rcases h.lt_or_eq with hlt | heq
  · exact rounded_of_bitLength_le (bitLength_le_iff.mpr hlt)
  · rw [heq]
    exact rounded_eq_self (by decide)

/-- An integer of a magnitude up to `2 ^ 53` is rounded to itself. -/
theorem nearestInt_of_natAbs_le
    {n : Int}
    (h : n.natAbs ≤ exactLimit) :
    nearestInt n = n := by
  unfold nearestInt
  rw [rounded_of_le_exactLimit h]
  split <;> omega

/-- An integer of a magnitude up to `2 ^ 53` is not too large. -/
theorem overflows_of_natAbs_le
    {n : Int}
    (h : n.natAbs ≤ exactLimit) :
    overflows n = false := by
  have hlimit : exactLimit + Nat.pow 2 (limitBits - 54) < Nat.pow 2 limitBits := by
    decide +kernel
  rw [overflows, decide_eq_false_iff_not]
  omega

/-- An integer, given in units, is rounded as it is by itself. -/
theorem rounded_mul_unitsPerOne
    (n : Nat) :
    rounded (n * unitsPerOne) = rounded n * unitsPerOne := by
  rw [unitsPerOne_eq]
  exact rounded_mul_pow n unitBits

theorem truncate?_finite
    {negative : Bool}
    {units : Nat}
    (h : representable units = true) :
    (Double.finite negative units h).truncate? =
      some (if negative then -((units / unitsPerOne : Nat) : Int)
        else (units / unitsPerOne : Nat)) :=
  rfl

/-- The double of an integer that is not too large is the integer that it is rounded to. -/
theorem truncate?_ofInt
    {n : Int}
    (h : overflows n = false) :
    (ofInt n).truncate? = some (nearestInt n) := by
  have hunits : rounded (n.natAbs * unitsPerOne) / unitsPerOne = rounded n.natAbs := by
    rw [rounded_mul_unitsPerOne, Nat.mul_div_cancel _ unitsPerOne_pos]
  rw [ofInt, ofRatio, ofUnits_one, dif_pos ((representable_rounded_iff n).mpr h),
    truncate?_finite, hunits, nearestInt]
  simp only [decide_eq_true_eq]

theorem rounded_pos
    {n : Nat}
    (hn : 0 < n) :
    0 < rounded n := by
  calc 0 < rounded 1 := by decide
    _ ≤ rounded n := rounded_le_rounded hn

/-- Integers that are not too large have one double iff they are rounded to one integer. -/
theorem ofInt_eq_ofInt_iff
    {m n : Int}
    (hm : overflows m = false)
    (hn : overflows n = false) :
    ofInt m = ofInt n ↔ nearestInt m = nearestInt n := by
  constructor
  · intro h
    have hsame := congrArg truncate? h
    rw [truncate?_ofInt hm, truncate?_ofInt hn] at hsame
    exact Option.some.inj hsame
  · intro h
    -- Nothing but zero is rounded to zero, so the integers are of one sign.
    have hsign : (m < 0 ↔ n < 0) ∧ rounded m.natAbs = rounded n.natAbs := by
      have hmpos : m < 0 → 0 < rounded m.natAbs := fun hneg => rounded_pos (by omega)
      have hnpos : n < 0 → 0 < rounded n.natAbs := fun hneg => rounded_pos (by omega)
      unfold nearestInt at h
      split at h <;> split at h <;> omega
    have hunits : rounded (m.natAbs * unitsPerOne) = rounded (n.natAbs * unitsPerOne) := by
      rw [rounded_mul_unitsPerOne, rounded_mul_unitsPerOne, hsign.2]
    simp only [ofInt, ofRatio, ofUnits_one, hunits, hsign.1]

end Integers

end Double
end Turnstile
