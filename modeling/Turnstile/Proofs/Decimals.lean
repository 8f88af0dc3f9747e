import Turnstile.Number.Shortest
import Turnstile.Proofs.Rounding

/-!
# Decimals of doubles

Decimals are compared on one scale: everything is multiplied by `10 ^ k`, where `k` is so
large that no exponent is negative any more.  On that scale a decimal has a whole number
of units, equal decimals are read as the same double, and one of the neighbours of a
double among the decimals with seventeen digits is read as the double itself.
-/

namespace Turnstile
namespace Double

section Scale

variable (k : Nat)

theorem tenPower_pos
    (n : Nat) :
    0 < tenPower n :=
  Nat.pow_pos (by omega)

theorem tenPower_add
    (m n : Nat) :
    tenPower (m + n) = tenPower m * tenPower n :=
  Nat.pow_add 10 m n

theorem tenPower_le_tenPower
    {m n : Nat}
    (h : m ≤ n) :
    tenPower m ≤ tenPower n :=
  Nat.pow_le_pow_right (by omega) h

theorem unitsPerOne_eq : unitsPerOne = Nat.pow 2 unitBits := by
  delta unitsPerOne
  generalize unitBits = bits
  rfl

theorem unitsPerOne_pos : 0 < unitsPerOne := by
  rw [unitsPerOne_eq]
  generalize unitBits = bits
  exact Nat.pow_pos (by omega)

/-- The units of `10 ^ e`, times `10 ^ k`. -/
def gridUnits
    (e : Int) : Nat :=
  tenPower (e + k).toNat * unitsPerOne

theorem gridUnits_pos
    (e : Int) :
    0 < gridUnits k e :=
  Nat.mul_pos (tenPower_pos _) unitsPerOne_pos

variable {k}

theorem gridUnits_of_nonneg
    {e : Int}
    (he : 0 ≤ e) :
    gridUnits k e = tenPower e.toNat * unitsPerOne * tenPower k := by
  have hsum : (e + k).toNat = e.toNat + k := by omega
  rw [gridUnits, hsum, tenPower_add]
  ring

theorem gridUnits_mul_of_neg
    {e : Int}
    (hlow : -(k : Int) ≤ e)
    (he : e < 0) :
    gridUnits k e * tenPower (-e).toNat = unitsPerOne * tenPower k := by
  have hsum : k = (e + k).toNat + (-e).toNat := by omega
  rw [gridUnits]
  conv_rhs => rw [hsum, tenPower_add]
  ring

theorem gridUnits_add
    {e : Int}
    (hlow : -(k : Int) ≤ e)
    (n : Nat) :
    gridUnits k (e + n) = tenPower n * gridUnits k e := by
  have hsum : (e + n + k).toNat = n + (e + k).toNat := by omega
  rw [gridUnits, gridUnits, hsum, tenPower_add, Nat.mul_assoc]

theorem powerAtMost_iff
    {e : Int}
    (hlow : -(k : Int) ≤ e)
    (u : Nat) :
    powerAtMost e u = true ↔ gridUnits k e ≤ u * tenPower k := by
  unfold powerAtMost
  by_cases he : 0 ≤ e
  · rw [if_pos he, decide_eq_true_iff, gridUnits_of_nonneg he]
    exact (Nat.mul_le_mul_right_iff (tenPower_pos k)).symm
  · rw [if_neg he, decide_eq_true_iff]
    have hneg := gridUnits_mul_of_neg hlow (Int.not_le.mp he)
    rw [← Nat.mul_le_mul_right_iff (tenPower_pos k), ← hneg, Nat.mul_right_comm u,
      Nat.mul_le_mul_right_iff (tenPower_pos (-e).toNat)]

theorem gridRatio_pos
    (u : Nat)
    (e : Int) :
    0 < (gridRatio u e).2 := by
  unfold gridRatio
  by_cases he : 0 ≤ e
  · simp only [if_pos he]
    exact Nat.mul_pos (tenPower_pos e.toNat) unitsPerOne_pos
  · simp only [if_neg he]
    exact unitsPerOne_pos

/-- The quotient by `10 ^ e`, on the scale. -/
theorem gridRatio_mul
    {e : Int}
    (hlow : -(k : Int) ≤ e)
    (u : Nat) :
    (gridRatio u e).1 * gridUnits k e = u * tenPower k * (gridRatio u e).2 := by
  unfold gridRatio
  by_cases he : 0 ≤ e
  · rw [if_pos he, gridUnits_of_nonneg he]
    ring
  · rw [if_neg he]
    have hneg := gridUnits_mul_of_neg hlow (Int.not_le.mp he)
    rw [Nat.mul_assoc, Nat.mul_comm (tenPower _), hneg]
    ring

/-- A decimal is read by rounding its units. -/
theorem ofDecimal_eq_ofUnits
    (negative : Bool)
    {digits : Nat}
    (hdigits : 0 < digits)
    {e : Int}
    (hk : k ≤ 400)
    (hlow : -(k : Int) ≤ e)
    (hhigh : e < 310) :
    ofDecimal negative digits e = ofUnits negative (digits * gridUnits k e) (tenPower k) := by
  have hnonzero : digits ≠ 0 := Nat.pos_iff_ne_zero.mp hdigits
  have hsmall : ¬ 310 ≤ e := Int.not_le.mpr hhigh
  have hlarge : ¬ e < -(400 + bitLength digits : Int) := by omega
  rw [ofDecimal, if_neg hnonzero, if_neg hsmall, if_neg hlarge]
  by_cases he : 0 ≤ e
  · rw [if_pos he, ofRatio]
    apply ofUnits_congr negative Nat.one_pos (tenPower_pos k)
    rw [gridUnits_of_nonneg he]
    ring
  · rw [if_neg he, ofRatio]
    apply ofUnits_congr negative (tenPower_pos _) (tenPower_pos k)
    have hneg := gridUnits_mul_of_neg hlow (Int.not_le.mp he)
    rw [Nat.mul_assoc, Nat.mul_assoc, hneg]

/-- A decimal with more zeros at its end is read as the same double. -/
theorem ofDecimal_mul_tenPower
    (negative : Bool)
    {digits : Nat}
    (hdigits : 0 < digits)
    {e : Int}
    (zeros : Nat)
    (hlow : -400 ≤ e)
    (hhigh : e + zeros < 310) :
    ofDecimal negative (digits * tenPower zeros) e = ofDecimal negative digits (e + zeros) := by
  rw [ofDecimal_eq_ofUnits negative hdigits (Nat.le_refl 400) (by omega) hhigh,
    ofDecimal_eq_ofUnits negative (Nat.mul_pos hdigits (tenPower_pos zeros)) (Nat.le_refl 400)
      hlow (by omega),
    gridUnits_add (k := 400) hlow, Nat.mul_assoc]

end Scale

section Magnitude

theorem tenPower_le_two_pow
    {e n : Nat}
    (h : 103 * e ≤ 31 * n) :
    tenPower e ≤ Nat.pow 2 n := by
  have hbase : 10 ^ 31 ≤ 2 ^ 103 := by norm_num
  have hpow : (10 ^ e) ^ 31 ≤ (2 ^ n) ^ 31 :=
    calc (10 ^ e) ^ 31 = (10 ^ 31) ^ e := Nat.pow_right_comm 10 e 31
      _ ≤ (2 ^ 103) ^ e := Nat.pow_le_pow_left hbase e
      _ = 2 ^ (103 * e) := (Nat.pow_mul 2 103 e).symm
      _ ≤ 2 ^ (n * 31) := Nat.pow_le_pow_right (by omega) (by omega)
      _ = (2 ^ n) ^ 31 := Nat.pow_mul 2 n 31
  exact (Nat.pow_le_pow_iff_left (by omega)).mp hpow

theorem two_pow_le_tenPower
    {e n : Nat}
    (h : 28 * n ≤ 93 * e) :
    Nat.pow 2 n ≤ tenPower e := by
  have hbase : 2 ^ 93 ≤ 10 ^ 28 := by norm_num
  have hpow : (2 ^ n) ^ 28 ≤ (10 ^ e) ^ 28 :=
    calc (2 ^ n) ^ 28 = 2 ^ (n * 28) := (Nat.pow_mul 2 n 28).symm
      _ ≤ 2 ^ (93 * e) := Nat.pow_le_pow_right (by omega) (by omega)
      _ = (2 ^ 93) ^ e := Nat.pow_mul 2 93 e
      _ ≤ (10 ^ 28) ^ e := Nat.pow_le_pow_left hbase e
      _ = (10 ^ e) ^ 28 := Nat.pow_right_comm 10 28 e
  exact (Nat.pow_le_pow_iff_left (by omega)).mp hpow

/-- The logarithm to base ten is at least `0.30103` times that to base two, less one. -/
theorem powerAtMost_of_log2
    {u : Nat}
    (hu : 0 < u)
    (hlog : u.log2 < 2098)
    {e : Int}
    (h : 100000 * (e + 1) ≤ 30103 * ((u.log2 : Int) - 1074)) :
    powerAtMost e u = true := by
  have hle : Nat.pow 2 u.log2 ≤ u := Nat.log2_self_le (Nat.pos_iff_ne_zero.mp hu)
  have hone : ∀ n, n + unitBits = u.log2 → Nat.pow 2 n * unitsPerOne = Nat.pow 2 u.log2 := by
    intro n hn
    rw [← hn, unitsPerOne_eq]
    generalize unitBits = bits
    exact (Nat.pow_add 2 n bits).symm
  have hbits : unitBits = 1074 := rfl
  unfold powerAtMost
  by_cases he : 0 ≤ e
  · rw [if_pos he, decide_eq_true_iff]
    have hten : tenPower e.toNat ≤ Nat.pow 2 (u.log2 - 1074) :=
      tenPower_le_two_pow (by omega)
    calc tenPower e.toNat * unitsPerOne ≤ Nat.pow 2 (u.log2 - 1074) * unitsPerOne :=
          Nat.mul_le_mul_right _ hten
      _ = Nat.pow 2 u.log2 := hone _ (by omega)
      _ ≤ u := hle
  · rw [if_neg he, decide_eq_true_iff]
    have htwo : Nat.pow 2 (1074 - u.log2) ≤ tenPower (-e).toNat :=
      two_pow_le_tenPower (by omega)
    have hunits : unitsPerOne ≤ Nat.pow 2 u.log2 * Nat.pow 2 (1074 - u.log2) := by
      have hadd : Nat.pow 2 u.log2 * Nat.pow 2 (1074 - u.log2) =
          Nat.pow 2 (u.log2 + (1074 - u.log2)) := (Nat.pow_add 2 _ _).symm
      have hsum : unitBits ≤ u.log2 + (1074 - u.log2) := by omega
      rw [hadd, unitsPerOne_eq]
      generalize unitBits = bits at hsum
      exact Nat.pow_le_pow_right (by omega) hsum
    calc unitsPerOne ≤ Nat.pow 2 u.log2 * Nat.pow 2 (1074 - u.log2) := hunits
      _ ≤ u * tenPower (-e).toNat := Nat.mul_le_mul hle htwo

theorem log2_lt_of_lt_unitLimit
    {u : Nat}
    (hu : 0 < u)
    (hlimit : u < unitLimit) :
    u.log2 < 2098 := by
  unfold unitLimit at hlimit
  generalize 2098 = bits at hlimit ⊢
  exact (Nat.log2_lt (Nat.pos_iff_ne_zero.mp hu)).mpr hlimit

/-- The decimal exponent of a positive double is at most its decimal logarithm. -/
theorem powerAtMost_decimalExponent
    {u : Nat}
    (hu : 0 < u)
    (hlimit : u < unitLimit) :
    powerAtMost (decimalExponent u) u = true := by
  have hlog := log2_lt_of_lt_unitLimit hu hlimit
  have hbits : (unitBits : Int) = 1074 := rfl
  rw [decimalExponent, hbits]
  generalize hguess : ((u.log2 : Int) - 1074) * 30103 / 100000 = guess
  by_cases habove : powerAtMost (guess + 1) u = true
  · rwa [if_pos habove]
  · rw [if_neg habove]
    by_cases hat : powerAtMost guess u = true
    · rwa [if_pos hat]
    · rw [if_neg hat]
      exact powerAtMost_of_log2 hu hlog (by omega)

theorem decimalExponent_bounds
    {u : Nat}
    (hu : 0 < u)
    (hlimit : u < unitLimit) :
    -325 ≤ decimalExponent u ∧ decimalExponent u ≤ 308 := by
  have hlog := log2_lt_of_lt_unitLimit hu hlimit
  have hbits : (unitBits : Int) = 1074 := rfl
  rw [decimalExponent, hbits]
  generalize hguess : ((u.log2 : Int) - 1074) * 30103 / 100000 = guess
  have hlow : -324 ≤ guess := by omega
  have hhigh : guess ≤ 307 := by omega
  by_cases habove : powerAtMost (guess + 1) u = true
  · rw [if_pos habove]
    omega
  · rw [if_neg habove]
    by_cases hat : powerAtMost guess u = true
    · rw [if_pos hat]
      omega
    · rw [if_neg hat]
      omega

end Magnitude

section SeventeenDigits

variable {u : Nat}

/-- A decimal that is nearest to a double among those with seventeen digits reads back. -/
theorem ofDecimal_of_nearest
    (negative : Bool)
    (hu : 0 < u)
    (h : representable u = true)
    {e : Int}
    (hlow : -400 ≤ e)
    (hhigh : e < 310)
    (hlarge : tenPower 16 * (gridRatio u e).2 ≤ (gridRatio u e).1)
    {digits : Nat}
    (hbelow : 2 * (digits * (gridRatio u e).2) ≤ 2 * (gridRatio u e).1 + (gridRatio u e).2)
    (habove : 2 * (gridRatio u e).1 ≤ 2 * (digits * (gridRatio u e).2) + (gridRatio u e).2) :
    ofDecimal negative digits e = .finite negative u h := by
  have hden := gridRatio_pos u e
  have hscale := gridRatio_mul (k := 400) hlow u
  have hgrid := gridUnits_pos 400 e
  generalize hnumEq : (gridRatio u e).1 = num at *
  generalize hdenEq : (gridRatio u e).2 = den at *
  have hten : tenPower 16 = 10000000000000000 := rfl
  rw [hten] at hlarge
  have hdigits : 0 < digits := by
    by_contra hzero
    obtain rfl : digits = 0 := by omega
    omega
  rw [ofDecimal_eq_ofUnits negative hdigits (Nat.le_refl 400) hlow hhigh]
  generalize gridUnits 400 e = grid at *
  generalize hX : u * tenPower 400 = exact at *
  -- On the scale the decimal is at most half a grid step away.
  have hcancel : ∀ a b : Nat, a * den ≤ b * den → a ≤ b := fun a b hab =>
    Nat.le_of_mul_le_mul_right hab hden
  have hnear : 2 * (digits * grid) ≤ 2 * exact + grid := by
    apply hcancel
    have hmul := Nat.mul_le_mul_right grid hbelow
    calc 2 * (digits * grid) * den = 2 * (digits * den) * grid := by ring
      _ ≤ (2 * num + den) * grid := hmul
      _ = 2 * (num * grid) + den * grid := by ring
      _ = (2 * exact + grid) * den := by rw [hscale]; ring
  have hnear' : 2 * exact ≤ 2 * (digits * grid) + grid := by
    apply hcancel
    have hmul := Nat.mul_le_mul_right grid habove
    calc 2 * exact * den = 2 * num * grid := by rw [Nat.mul_assoc 2 num, hscale]; ring
      _ ≤ (2 * (digits * den) + den) * grid := hmul
      _ = (2 * (digits * grid) + grid) * den := by ring
  have hsmall : 10000000000000000 * grid ≤ exact := by
    apply hcancel
    have hmul := Nat.mul_le_mul_right grid hlarge
    calc 10000000000000000 * grid * den = 10000000000000000 * den * grid := by ring
      _ ≤ num * grid := hmul
      _ = exact * den := hscale
  have hpow54 : Nat.pow 2 54 = 18014398509481984 := rfl
  apply ofUnits_eq_of_near negative hu h (tenPower_pos 400)
  · rw [hX, hpow54]
    omega
  · rw [hX, hpow54]
    omega

theorem seventeen_places_large
    (hu : 0 < u)
    (hlimit : u < unitLimit) :
    tenPower 16 * (gridRatio u (decimalExponent u - 16)).2 ≤
      (gridRatio u (decimalExponent u - 16)).1 := by
  have hbounds := decimalExponent_bounds hu hlimit
  have hatMost := powerAtMost_decimalExponent hu hlimit
  generalize decimalExponent u = top at *
  have htop : top = top - 16 + (16 : Nat) := by omega
  rw [powerAtMost_iff (k := 400) (by omega), htop, gridUnits_add (by omega)] at hatMost
  have hscale := gridRatio_mul (k := 400) (e := top - 16) (by omega) u
  apply Nat.le_of_mul_le_mul_right _ (gridUnits_pos 400 (top - 16))
  calc tenPower 16 * (gridRatio u (top - 16)).2 * gridUnits 400 (top - 16)
      = tenPower 16 * gridUnits 400 (top - 16) * (gridRatio u (top - 16)).2 := by ring
    _ ≤ u * tenPower 400 * (gridRatio u (top - 16)).2 := Nat.mul_le_mul_right _ hatMost
    _ = (gridRatio u (top - 16)).1 * gridUnits 400 (top - 16) := hscale.symm

theorem lt_unitLimit_of_representable
    (h : representable u = true) :
    u < unitLimit :=
  of_decide_eq_true (Bool.and_eq_true_iff.mp h).1

/-- A double with another sign. -/
def withSign
    (negative : Bool) : Double → Double
  | .nan => .nan
  | .infinite _ => .infinite negative
  | .finite _ units h => .finite negative units h

theorem ofUnits_withSign
    (negative : Bool)
    (num den : Nat) :
    ofUnits negative num den = (ofUnits false num den).withSign negative := by
  unfold ofUnits
  dsimp only
  split
  · rfl
  · rfl

theorem ofDecimal_withSign
    (negative : Bool)
    (digits : Nat)
    (e : Int) :
    ofDecimal negative digits e = (ofDecimal false digits e).withSign negative := by
  unfold ofDecimal
  split
  · rfl
  split
  · rfl
  split
  · rfl
  split
  · exact ofUnits_withSign negative _ _
  · exact ofUnits_withSign negative _ _

theorem readsBack_iff
    (h : representable u = true)
    (d : Decimal) :
    readsBack u d = true ↔ ofDecimal false d.digits d.exponent = .finite false u h := by
  unfold readsBack
  cases hd : ofDecimal false d.digits d.exponent with
  | nan => simp
  | infinite negative => simp
  | finite negative units exact =>
      have hsign := ofDecimal_withSign false d.digits d.exponent
      rw [hd] at hsign
      obtain ⟨rfl, -⟩ := Double.finite.inj hsign
      simp

/-- A decimal is at most one grid step above the double with these units. -/
def AtMostNext
    (u : Nat)
    (d : Decimal) : Prop :=
  d.digits * (gridRatio u d.exponent).2 ≤
    (gridRatio u d.exponent).1 + (gridRatio u d.exponent).2

/-- Of two decimals on a grid that are tried, the first is nearest. -/
theorem exists_onGrid?_eq
    (u : Nat)
    (e : Int) :
    ∃ first second : Decimal,
      first.exponent = e ∧ second.exponent = e ∧ AtMostNext u first ∧ AtMostNext u second ∧
      2 * (first.digits * (gridRatio u e).2) ≤ 2 * (gridRatio u e).1 + (gridRatio u e).2 ∧
      2 * (gridRatio u e).1 ≤ 2 * (first.digits * (gridRatio u e).2) + (gridRatio u e).2 ∧
      onGrid? u e =
        if readsBack u first then some first
        else if readsBack u second then some second
        else none := by
  have hden := gridRatio_pos u e
  unfold onGrid?
  generalize hnumEq : (gridRatio u e).1 = num at *
  generalize hdenEq : (gridRatio u e).2 = den at *
  have hdivision := Nat.div_add_mod num den
  have hrest := Nat.mod_lt num hden
  have hbelow : num / den * den = den * (num / den) := Nat.mul_comm _ _
  have habove : (num / den + 1) * den = den * (num / den) + den := by ring
  have hatBelow : AtMostNext u ⟨num / den, e⟩ := by
    simp only [AtMostNext, hnumEq, hdenEq]
    omega
  have hatAbove : AtMostNext u ⟨num / den + 1, e⟩ := by
    simp only [AtMostNext, hnumEq, hdenEq]
    omega
  by_cases hfirst : (2 * (num % den) < den ||
      2 * (num % den) == den && num / den % 2 == 0) = true
  · refine ⟨⟨num / den, e⟩, ⟨num / den + 1, e⟩, rfl, rfl, hatBelow, hatAbove, ?_, ?_, ?_⟩
    · dsimp only
      omega
    · simp only [Bool.or_eq_true, decide_eq_true_eq, Bool.and_eq_true, beq_iff_eq] at hfirst
      dsimp only
      omega
    · simp only [hnumEq, hdenEq, if_pos hfirst]
  · refine ⟨⟨num / den + 1, e⟩, ⟨num / den, e⟩, rfl, rfl, hatAbove, hatBelow, ?_, ?_, ?_⟩
    · simp only [Bool.or_eq_true, decide_eq_true_eq, Bool.and_eq_true, beq_iff_eq] at hfirst
      dsimp only
      omega
    · dsimp only
      omega
    · simp only [hnumEq, hdenEq, if_neg hfirst]

theorem onGrid?_eq_some
    {e : Int}
    {d : Decimal}
    (h : onGrid? u e = some d) :
    readsBack u d = true ∧ d.exponent = e ∧ AtMostNext u d := by
  obtain ⟨first, second, hfirst, hsecond, hnext, hnext', -, -, heq⟩ := exists_onGrid?_eq u e
  rw [heq] at h
  by_cases hf : readsBack u first = true
  · rw [if_pos hf] at h
    obtain rfl := Option.some.inj h
    exact ⟨hf, hfirst, hnext⟩
  · rw [if_neg hf] at h
    by_cases hs : readsBack u second = true
    · rw [if_pos hs] at h
      obtain rfl := Option.some.inj h
      exact ⟨hs, hsecond, hnext'⟩
    · rw [if_neg hs] at h
      simp at h

/-- Seventeen digits suffice. -/
theorem exists_onGrid?_seventeen
    (hu : 0 < u)
    (h : representable u = true) :
    ∃ d, onGrid? u (decimalExponent u - 16) = some d := by
  have hlimit := lt_unitLimit_of_representable h
  have hbounds := decimalExponent_bounds hu hlimit
  have hlarge := seventeen_places_large hu hlimit
  generalize decimalExponent u = top at *
  obtain ⟨first, second, hfirst, -, -, -, hbelow, habove, heq⟩ :=
    exists_onGrid?_eq u (top - 16)
  have hreads : readsBack u first = true := by
    rw [readsBack_iff h, hfirst]
    exact ofDecimal_of_nearest false hu h (by omega) (by omega) hlarge hbelow habove
  rw [heq, if_pos hreads]
  exact ⟨first, rfl⟩

/-- What the search for a shortest decimal ends with. -/
structure Shortened
    (u : Nat)
    (d : Decimal) : Prop where
  readsBack : readsBack u d = true
  low : decimalExponent u - 16 ≤ d.exponent
  high : d.exponent ≤ decimalExponent u
  next : AtMostNext u d

/-- The search ends with a decimal that reads back, before the grids run out. -/
theorem shortestFrom_shortened
    (hu : 0 < u)
    (h : representable u = true)
    {places more : Nat}
    (hplaces : 0 < places)
    (hmore : 0 < more)
    (hsum : places + more = 18) :
    Shortened u (shortestFrom u (decimalExponent u) places more) := by
  induction more generalizing places with
  | zero =>
      omega
  | succ more ih =>
      unfold shortestFrom
      cases hgrid : onGrid? u (decimalExponent u - places + 1) with
      | some d =>
          obtain ⟨hreads, hexponent, hnext⟩ := onGrid?_eq_some hgrid
          exact ⟨hreads, by dsimp only; omega, by dsimp only; omega, hnext⟩
      | none =>
          by_cases hlast : more = 0
          · obtain ⟨d, hd⟩ := exists_onGrid?_seventeen hu h
            have hplace : decimalExponent u - places + 1 = decimalExponent u - 16 := by omega
            rw [hplace, hd] at hgrid
            simp at hgrid
          · exact ih (by omega) (by omega) (by omega)

/-- The shortest decimal of a positive double reads back. -/
theorem shortest_shortened
    (hu : 0 < u)
    (h : representable u = true) :
    Shortened u (shortest u) :=
  shortestFrom_shortened hu h (by omega) (by omega) rfl

theorem unitLimit_le : unitLimit ≤ tenPower 309 * unitsPerOne := by
  have hle : ∀ low high, 28 * low ≤ 93 * 309 →
      Nat.pow 2 (low + high) ≤ tenPower 309 * Nat.pow 2 high := by
    intro low high hlow
    calc Nat.pow 2 (low + high) = Nat.pow 2 low * Nat.pow 2 high := Nat.pow_add 2 low high
      _ ≤ tenPower 309 * Nat.pow 2 high := Nat.mul_le_mul_right _ (two_pow_le_tenPower hlow)
  have hbits : 2098 = 1024 + unitBits := rfl
  delta unitLimit
  rw [unitsPerOne_eq, hbits]
  exact hle 1024 unitBits (by omega)

theorem powerAtMost_lt
    (hlimit : u < unitLimit) :
    powerAtMost 309 u = false := by
  have hle := unitLimit_le
  have hnonneg : (0 : Int) ≤ 309 := by decide
  have htoNat : Int.toNat 309 = 309 := rfl
  rw [powerAtMost, if_pos hnonneg, htoNat, decide_eq_false_iff_not, Nat.not_le]
  exact Nat.lt_of_lt_of_le hlimit hle

/-- A decimal of many digits is of the size of the double that it is next to. -/
theorem AtMostNext.le_gridRatio
    {d : Decimal}
    (h : AtMostNext u d)
    {n : Nat}
    (hn : tenPower (n + 1) ≤ d.digits) :
    tenPower n * (gridRatio u d.exponent).2 ≤ (gridRatio u d.exponent).1 := by
  unfold AtMostNext at h
  generalize (gridRatio u d.exponent).1 = num at *
  generalize (gridRatio u d.exponent).2 = den at *
  have hmul := Nat.mul_le_mul_right den hn
  have hone := Nat.mul_le_mul_right den (tenPower_pos n)
  have hten : tenPower (n + 1) * den = 10 * (tenPower n * den) := by
    have hbase : tenPower 1 = 10 := rfl
    rw [tenPower_add, hbase]
    ring
  omega

/-- No double comes near `10 ^ 310`. -/
theorem Shortened.exponent_add_lt
    {d : Decimal}
    (hu : 0 < u)
    (hlimit : u < unitLimit)
    (h : Shortened u d)
    {zeros : Nat}
    (hzeros : tenPower zeros ≤ d.digits) :
    d.exponent + zeros < 310 := by
  by_contra hge
  have hbounds := decimalExponent_bounds hu hlimit
  have hlow : -400 ≤ d.exponent := by
    have := h.low
    omega
  have hhigh : d.exponent ≤ 308 := h.high.trans hbounds.2
  have hdigits : tenPower ((309 - d.exponent).toNat + 1) ≤ d.digits :=
    (tenPower_le_tenPower (by omega)).trans hzeros
  -- The double would be at least `10 ^ 309`.
  have hatMost : powerAtMost 309 u = true := by
    have hgrid : gridUnits 400 309 = tenPower (309 - d.exponent).toNat * gridUnits 400 d.exponent := by
      rw [← gridUnits_add hlow]
      congr 1
      omega
    rw [powerAtMost_iff (k := 400) (by omega), hgrid]
    apply Nat.le_of_mul_le_mul_right _ (gridRatio_pos u d.exponent)
    calc tenPower (309 - d.exponent).toNat * gridUnits 400 d.exponent * (gridRatio u d.exponent).2
        = tenPower (309 - d.exponent).toNat * (gridRatio u d.exponent).2
            * gridUnits 400 d.exponent := by ring
      _ ≤ (gridRatio u d.exponent).1 * gridUnits 400 d.exponent :=
          Nat.mul_le_mul_right _ (h.next.le_gridRatio hdigits)
      _ = u * tenPower 400 * (gridRatio u d.exponent).2 := gridRatio_mul hlow u
  rw [powerAtMost_lt hlimit] at hatMost
  simp at hatMost

end SeventeenDigits

end Double
end Turnstile
