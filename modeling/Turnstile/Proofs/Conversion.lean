import Mathlib.Data.List.TakeWhile
import Turnstile.Proofs.Decimals
import Turnstile.Rule.Conversion

/-!
# What converts to a double

Of the values that count as numeric, two kinds do not convert: integers that lie beyond
the largest double by half of its spacing or more, and numerals among information
separators, which are blanks to `Numeral.read?` but not to `Double.ofText?`.

**Results.**
* `ofInt_eq_infinite_iff`: the integers that round to an infinity.
* `ofText?_of_read?`: the numerals that convert, and to which double.
* `exists_toDouble_iff`: the numeric values that convert.
-/

namespace Turnstile

namespace Double

section Range

/-- Rounding to a multiple of an even step stays below an even multiple from half a step on. -/
theorem roundDiv_lt_iff
    {n half c : Nat}
    (hhalf : 0 < half)
    (hc : c % 2 = 0) :
    roundDiv n (2 * half) < c ↔ n + half < c * (2 * half) := by
  have hdivision := Nat.div_add_mod n (2 * half)
  have hrest := Nat.mod_lt n (show 0 < 2 * half by omega)
  rw [Nat.mul_comm (2 * half)] at hdivision
  -- Only at the last quotient below `c`, which is odd, does the rest of the division decide.
  rcases Nat.lt_trichotomy (n / (2 * half) + 1) c with hbelow | rfl | habove
  · have hsteps : (n / (2 * half) + 1 + 1) * (2 * half) ≤ c * (2 * half) :=
      Nat.mul_le_mul_right _ hbelow
    rw [Nat.add_mul, Nat.add_mul] at hsteps
    unfold roundDiv
    constructor
    · intro _
      omega
    · intro _
      simp only
      split
      · exact hbelow
      · omega
  · have hup : ¬ (n / (2 * half) % 2 = 0) := by omega
    rw [Nat.add_mul]
    unfold roundDiv
    simp only [Bool.or_eq_true, decide_eq_true_eq, Bool.and_eq_true, beq_iff_eq]
    constructor
    · intro hlt
      by_contra hge
      rw [if_pos (by omega)] at hlt
      omega
    · intro hlt
      rw [if_neg (by omega)]
      omega
  · have hsteps : c * (2 * half) ≤ n / (2 * half) * (2 * half) :=
      Nat.mul_le_mul_right _ (by omega)
    unfold roundDiv
    constructor
    · simp only
      split
      · omega
      · omega
    · omega

theorem div_le_roundDiv
    (num den : Nat) :
    num / den ≤ roundDiv num den := by
  unfold roundDiv
  simp only
  split <;> omega

theorem roundDiv_le
    (num den : Nat) :
    roundDiv num den ≤ num / den + 1 := by
  unfold roundDiv
  simp only
  split <;> omega

theorem pow_excessBits_add
    (n : Nat) :
    Nat.pow 2 (excessBits n + 53) = Nat.pow 2 53 * spacing n := by
  rw [spacing, Nat.mul_comm]
  exact Nat.pow_add 2 _ _

/-- A quotient is rounded to at most `2 ^ 53` of its spacings. -/
theorem roundDiv_spacing_le
    (num den : Nat) :
    roundDiv num (den * spacing (num / den)) ≤ Nat.pow 2 53 := by
  have hlt : num / den < Nat.pow 2 53 * spacing (num / den) := by
    rw [← pow_excessBits_add, ← bitLength_le_iff, excessBits]
    omega
  have hdiv := (Nat.div_lt_iff_lt_mul (spacing_pos (num / den))).mpr hlt
  rw [Nat.div_div_eq_div_mul] at hdiv
  have hround := roundDiv_le num (den * spacing (num / den))
  omega

/-- Up to `2 ^ 53` spacings are a multiple of their own spacing. -/
theorem steps_mod_spacing
    {steps n : Nat}
    (hsteps : steps ≤ Nat.pow 2 53) :
    steps * spacing n % spacing (steps * spacing n) = 0 := by
  apply Nat.mod_eq_zero_of_dvd
  have hle : steps * spacing n ≤ Nat.pow 2 (excessBits n + 53) := by
    rw [pow_excessBits_add]
    exact Nat.mul_le_mul_right _ hsteps
  rcases Nat.lt_or_ge (steps * spacing n) (Nat.pow 2 (excessBits n + 53)) with hlt | hge
  · have hexcess : excessBits (steps * spacing n) ≤ excessBits n := by
      have hlength := bitLength_le_iff.mpr hlt
      rw [excessBits]
      omega
    exact (Nat.pow_dvd_pow 2 hexcess).trans (Nat.dvd_mul_left _ _)
  · -- Then they are that power of two, with one more excess bit.
    have heq := Nat.le_antisymm hle hge
    have hlength : bitLength (steps * spacing n) ≤ excessBits n + 54 := by
      rw [bitLength_le_iff, heq]
      exact Nat.pow_lt_pow_right (by omega) (by omega)
    have hexcess : excessBits (steps * spacing n) ≤ excessBits n + 53 := by
      rw [excessBits]
      omega
    have hdvd := Nat.pow_dvd_pow 2 hexcess
    rw [spacing]
    exact hdvd.trans (Eq.symm heq).dvd

/-- A number, rounded to a multiple of its spacing. -/
def rounded
    (n : Nat) : Nat :=
  roundDiv n (spacing n) * spacing n

theorem roundDiv_self_spacing_le
    (n : Nat) :
    roundDiv n (spacing n) ≤ Nat.pow 2 53 := by
  have hle := roundDiv_spacing_le n 1
  rwa [Nat.div_one, Nat.one_mul] at hle

/-- Rounding does not pass the next power of two. -/
theorem rounded_le
    (n : Nat) :
    rounded n ≤ Nat.pow 2 (excessBits n + 53) := by
  rw [pow_excessBits_add]
  exact Nat.mul_le_mul_right _ (roundDiv_self_spacing_le n)

/-- A rounded number is a multiple of its own spacing. -/
theorem rounded_mod_spacing
    (n : Nat) :
    rounded n % spacing (rounded n) = 0 :=
  steps_mod_spacing (roundDiv_self_spacing_le n)

/-- A power of two is passed by rounding from half a spacing below it on. -/
theorem rounded_lt_iff
    {n k : Nat} :
    rounded n < Nat.pow 2 (k + 54) ↔ n + Nat.pow 2 k < Nat.pow 2 (k + 54) := by
  have hstep : Nat.pow 2 (k + 1) = 2 * Nat.pow 2 k := pow_eq_double (by omega)
  have hhalf : Nat.pow 2 (k + 54) = 2 * Nat.pow 2 (k + 53) := pow_eq_double (by omega)
  have hmono : Nat.pow 2 k < Nat.pow 2 (k + 53) :=
    Nat.pow_lt_pow_right (by omega) (by omega)
  have hpos : 0 < Nat.pow 2 k := Nat.pow_pos (by omega)
  -- With fewer bits neither number reaches the power, with more bits both are beyond it.
  rcases Nat.lt_trichotomy (bitLength n) (k + 54) with hless | hsame | hmore
  · have hn : n < Nat.pow 2 (k + 53) := bitLength_le_iff.mp (by omega)
    have hround : rounded n ≤ Nat.pow 2 (k + 53) := by
      refine (rounded_le n).trans (Nat.pow_le_pow_right (by omega) ?_)
      rw [excessBits]
      omega
    omega
  · have hspacing : spacing n = 2 * Nat.pow 2 k := by
      rw [spacing, excessBits, hsame, ← hstep]
      congr 1
    have hlimit : Nat.pow 2 (k + 54) = Nat.pow 2 53 * (2 * Nat.pow 2 k) := by
      rw [← hstep, Nat.mul_comm]
      exact Nat.pow_add 2 (k + 1) 53
    rw [rounded, hspacing, hlimit, Nat.mul_lt_mul_right (by omega)]
    exact roundDiv_lt_iff hpos rfl
  · have hn : Nat.pow 2 (k + 54) ≤ Nat.pow 2 (bitLength n - 1) :=
      Nat.pow_le_pow_right (by omega) (by omega)
    have hpow : Nat.pow 2 (bitLength n - 1) ≤ n := lt_bitLength_iff.mp (by omega)
    have hdvd : spacing n ∣ Nat.pow 2 (bitLength n - 1) := by
      apply Nat.pow_dvd_pow 2
      rw [excessBits]
      omega
    have hround : Nat.pow 2 (bitLength n - 1) ≤ rounded n := by
      calc Nat.pow 2 (bitLength n - 1)
          = Nat.pow 2 (bitLength n - 1) / spacing n * spacing n := (Nat.div_mul_cancel hdvd).symm
        _ ≤ n / spacing n * spacing n :=
            Nat.mul_le_mul_right _ (Nat.div_le_div_right hpow)
        _ ≤ rounded n := Nat.mul_le_mul_right _ (div_le_roundDiv n (spacing n))
    omega

/-- The same for a number of units. -/
theorem rounded_mul_lt_iff
    {n k bits : Nat} :
    rounded (n * Nat.pow 2 bits) < Nat.pow 2 (k + bits + 54) ↔
      n + Nat.pow 2 k < Nat.pow 2 (k + 54) := by
  have hhalf : Nat.pow 2 (k + bits) = Nat.pow 2 k * Nat.pow 2 bits := Nat.pow_add 2 k bits
  have hlimit : Nat.pow 2 (k + bits + 54) = Nat.pow 2 (k + 54) * Nat.pow 2 bits := by
    rw [Nat.add_right_comm]
    exact Nat.pow_add 2 (k + 54) bits
  rw [rounded_lt_iff, hhalf, hlimit, ← Nat.add_mul]
  exact Nat.mul_lt_mul_right (Nat.pow_pos (by omega))

/-- Doubles stay below this power of two. -/
def limitBits : Nat := 1024

/-- An integer is too large for a double: it lies half a spacing or more above the largest. -/
def overflows
    (n : Int) : Bool :=
  Nat.pow 2 limitBits ≤ n.natAbs + Nat.pow 2 (limitBits - 54)

theorem representable_rounded_iff
    (n : Int) :
    representable (rounded (n.natAbs * unitsPerOne)) = true ↔ overflows n = false := by
  have hbits : 2098 = limitBits - 54 + unitBits + 54 := rfl
  have hlimit : limitBits - 54 + 54 = limitBits := rfl
  rw [representable, Bool.and_eq_true, beq_iff_eq, decide_eq_true_eq, overflows,
    decide_eq_false_iff_not, Nat.not_le]
  delta unitLimit
  rw [unitsPerOne_eq, hbits, rounded_mul_lt_iff, hlimit]
  exact and_iff_left (rounded_mod_spacing _)

theorem ofUnits_one
    (negative : Bool)
    (n : Nat) :
    ofUnits negative n 1 =
      if h : representable (rounded n) = true then .finite negative (rounded n) h
      else .infinite negative := by
  simp only [ofUnits, Nat.div_one, Nat.one_mul]
  rfl

/-- An integer rounds to an infinity if it is too large, and else to a finite double. -/
theorem ofInt_eq_infinite_iff
    (n : Int) :
    (∃ negative, ofInt n = .infinite negative) ↔ overflows n = true := by
  rw [ofInt, ofRatio, ofUnits_one]
  by_cases hrepresentable : representable (rounded (n.natAbs * unitsPerOne)) = true
  · rw [dif_pos hrepresentable, (representable_rounded_iff n).mp hrepresentable]
    simp only [reduceCtorEq, exists_false, Bool.false_eq_true]
  · rw [dif_neg hrepresentable]
    rw [representable_rounded_iff, Bool.not_eq_false] at hrepresentable
    exact iff_of_true ⟨_, rfl⟩ hrepresentable

end Range

end Double

section Blanks

namespace Text

/-- An information separator. -/
def isSeparator
    (c : Char) : Bool :=
  28 ≤ c.toNat && c.toNat ≤ 31

theorem eq_of_isSeparator
    {c : Char}
    (h : isSeparator c = true) :
    c = '\x1c' ∨ c = '\x1d' ∨ c = '\x1e' ∨ c = '\x1f' := by
  simp only [isSeparator, Bool.and_eq_true, decide_eq_true_eq] at h
  have hcode : c.toNat = 28 ∨ c.toNat = 29 ∨ c.toNat = 30 ∨ c.toNat = 31 := by omega
  rw [← Char.ofNat_toNat c]
  rcases hcode with hcode | hcode | hcode | hcode <;> simp [hcode]

/-- A character that is dropped is in the class. -/
theorem mem_dropEndWhile_dropWhile
    {p : Char → Bool}
    {cs : List Char}
    {c : Char}
    (hmem : c ∈ cs)
    (hc : p c = false) :
    c ∈ dropEndWhile p (cs.dropWhile p) := by
  have hdrop : ∀ ds : List Char, c ∈ ds → c ∈ ds.dropWhile p := by
    intro ds hds
    rw [← List.takeWhile_append_dropWhile (p := p) (l := ds)] at hds
    rcases List.mem_append.mp hds with htake | hrest
    · rw [List.mem_takeWhile_imp htake] at hc
      cases hc
    · exact hrest
  rw [dropEndWhile, List.mem_reverse]
  exact hdrop _ (List.mem_reverse.mpr (hdrop cs hmem))

/-- Classes that agree on the characters of a text drop the same. -/
theorem dropWhile_congr
    {p q : Char → Bool}
    {cs : List Char}
    (h : ∀ c ∈ cs, p c = q c) :
    cs.dropWhile p = cs.dropWhile q := by
  induction cs with
  | nil =>
      rfl
  | cons c rest ih =>
      rw [List.dropWhile_cons, List.dropWhile_cons, h c List.mem_cons_self,
        ih fun d hd => h d (List.mem_cons_of_mem c hd)]

/-- Without separators all blanks may stand around a number to be converted. -/
theorem trimmedNumber_eq_trimmed
    {cs : List Char}
    (h : ∀ c ∈ cs, isSeparator c = false) :
    trimmedNumber cs = trimmed cs := by
  have hsame : ∀ c ∈ cs, isNumberBlank c = isBlank c := by
    intro c hc
    have hnot := h c hc
    rw [isSeparator] at hnot
    rw [isNumberBlank, hnot, Bool.not_false, Bool.and_true]
  have hfront := dropWhile_congr hsame
  rw [trimmedNumber, trimmed, dropEndWhile, dropEndWhile, hfront]
  congr 1
  apply dropWhile_congr
  intro c hc
  exact hsame c ((List.dropWhile_sublist isBlank).subset (List.mem_reverse.mp hc))

/-- A text without underscores stays as it is when they are taken out. -/
theorem withoutUnderscores_eq_self
    {cs : List Char}
    (h : ∀ c ∈ cs, c ≠ '_')
    (after : Bool) :
    withoutUnderscores after cs = some cs := by
  induction cs generalizing after with
  | nil =>
      rfl
  | cons c rest ih =>
      have hc := h c List.mem_cons_self
      have hrest := ih fun d hd => h d (List.mem_cons_of_mem c hd)
      rw [withoutUnderscores]
      · rw [if_neg hc, hrest, Option.map_some]
      · rintro d ds rfl
        exact absurd rfl hc

/-- Only underscores are taken out. -/
theorem mem_of_withoutUnderscores
    {after : Bool}
    {cs ds : List Char}
    {c : Char}
    (h : withoutUnderscores after cs = some ds)
    (hmem : c ∈ cs)
    (hc : c ≠ '_') :
    c ∈ ds := by
  fun_induction withoutUnderscores after cs generalizing ds with
  | case1 => cases hmem
  | case2 after d rest hdigit ih =>
      obtain ⟨es, hes, rfl⟩ := Option.map_eq_some_iff.mp h
      rcases List.mem_cons.mp hmem with rfl | hmem
      · exact absurd rfl hc
      rcases List.mem_cons.mp hmem with rfl | hmem
      · exact List.mem_cons_self
      · exact List.mem_cons_of_mem _ (ih hes hmem)
  | case3 => cases h
  | case4 => cases h
  | case5 after d rest _ hd ih =>
      obtain ⟨es, hes, rfl⟩ := Option.map_eq_some_iff.mp h
      rcases List.mem_cons.mp hmem with rfl | hmem
      · exact List.mem_cons_self
      · exact List.mem_cons_of_mem _ (ih hes hmem)

end Text

end Blanks

section Numerals

open Text

/-- A character that a numeral may have. -/
def Numeral.isPart
    (c : Char) : Bool :=
  isDigitChar c || ['+', '-', '.', 'e', 'E'].contains c

theorem Text.isPart_of_signed
    {cs : List Char}
    (h : ∀ c ∈ (signed cs).2, Numeral.isPart c = true) :
    ∀ c ∈ cs, Numeral.isPart c = true := by
  unfold signed at h
  split at h
  · exact List.forall_mem_cons.mpr ⟨rfl, h⟩
  · exact List.forall_mem_cons.mpr ⟨rfl, h⟩
  · exact h

namespace Numeral

theorem isPart_of_isDigitChar
    {digits : List Char}
    (h : digits.all isDigitChar = true) :
    ∀ c ∈ digits, isPart c = true := by
  intro c hc
  rw [isPart, List.all_eq_true.mp h c hc, Bool.true_or]

theorem isPart_of_exponent?
    {cs : List Char}
    {exponent : Int}
    (h : exponent? cs = some exponent) :
    ∀ c ∈ cs, isPart c = true := by
  cases cs with
  | nil =>
      nofun
  | cons e rest =>
      simp only [exponent?] at h
      split at h
      · rename_i he
        split at h
        · cases h
        · rename_i hdigits
          simp only [Bool.or_eq_true, not_or, Bool.not_eq_true] at hdigits
          rw [List.forall_mem_cons]
          constructor
          · rcases Bool.or_eq_true_iff.mp he with he | he
            · rw [beq_iff_eq.mp he]
              rfl
            · rw [beq_iff_eq.mp he]
              rfl
          · exact isPart_of_signed (isPart_of_isDigitChar (by simpa using hdigits.2))
      · cases h

theorem isPart_of_takeWhile
    (cs : List Char) :
    ∀ c ∈ cs.takeWhile isDigitChar, isPart c = true :=
  isPart_of_isDigitChar (List.all_eq_true.mpr fun _ hc => List.mem_takeWhile_imp hc)

/-- A numeral is made of digits, signs, a point and the letter of the exponent. -/
theorem isPart_of_ofChars?
    {cs : List Char}
    {n : Numeral}
    (h : ofChars? cs = some n) :
    ∀ c ∈ cs, isPart c = true := by
  apply isPart_of_signed
  have hunsigned := List.takeWhile_append_dropWhile (p := isDigitChar) (l := (signed cs).2)
  have hwhole := isPart_of_takeWhile (signed cs).2
  suffices hrest : ∀ c ∈ (signed cs).2.dropWhile isDigitChar, isPart c = true by
    rw [← hunsigned]
    exact List.forall_mem_append.mpr ⟨hwhole, hrest⟩
  simp only [ofChars?] at h
  split at h
  · rename_i more hpoint
    rw [Option.ite_none_left_eq_some, Option.map_eq_some_iff] at h
    obtain ⟨-, exponent, hexponent, -⟩ := h
    have hfraction := List.takeWhile_append_dropWhile (p := isDigitChar) (l := more)
    rw [hpoint, List.forall_mem_cons, ← hfraction]
    exact ⟨rfl, List.forall_mem_append.mpr
      ⟨isPart_of_takeWhile more, isPart_of_exponent? hexponent⟩⟩
  · rw [Option.ite_none_left_eq_some, Option.map_eq_some_iff] at h
    obtain ⟨-, exponent, hexponent, -⟩ := h
    exact isPart_of_exponent? hexponent

/-- Neither separators nor underscores are parts of numerals. -/
theorem isSeparator_of_isPart
    {c : Char}
    (h : isPart c = true) :
    isSeparator c = false ∧ c ≠ '_' := by
  constructor
  · rw [Bool.eq_false_iff]
    intro hc
    rcases eq_of_isSeparator hc with rfl | rfl | rfl | rfl <;> cases h
  · rintro rfl
    cases h

end Numeral

namespace Double

/-- Words have no separators. -/
theorem ofWord?_of_isSeparator
    {cs : List Char}
    {c : Char}
    (hmem : c ∈ cs)
    (hc : isSeparator c = true) :
    ofWord? cs = none := by
  have hword : c.toLower ∈ (signed cs).2.map Char.toLower := by
    refine List.mem_map_of_mem ?_
    unfold signed
    split
    · exact List.mem_of_ne_of_mem (by rintro rfl; cases hc) hmem
    · exact List.mem_of_ne_of_mem (by rintro rfl; cases hc) hmem
    · exact hmem
  have hne : ∀ word : String, c.toLower ∉ word.toList →
      (String.ofList ((signed cs).2.map Char.toLower) == word) = false := by
    intro word hnot
    rw [beq_eq_false_iff_ne]
    rintro rfl
    exact hnot (by rwa [String.toList_ofList])
  simp only [ofWord?]
  rcases eq_of_isSeparator hc with rfl | rfl | rfl | rfl <;>
    rw [hne "inf" (by decide), hne "infinity" (by decide), hne "nan" (by decide)] <;> rfl

/-- A numeral converts unless there are separators around it. -/
theorem ofText?_of_read?
    {text : String}
    {n : Numeral}
    (h : Numeral.read? text = some n) :
    ofText? text = if text.toList.any isSeparator then none else some n.toDouble := by
  have hparts := Numeral.isPart_of_ofChars? h
  cases hany : text.toList.any isSeparator with
  | false =>
      have hnone : ∀ c ∈ text.toList, isSeparator c = false := by
        simpa using hany
      rw [ofText?, trimmedNumber_eq_trimmed hnone,
        withoutUnderscores_eq_self fun c hc => (Numeral.isSeparator_of_isPart (hparts c hc)).2]
      rw [Numeral.read?] at h
      simp only [h]
      rfl
  | true =>
      -- A separator outlasts the trimming, and is part of neither a numeral nor a word.
      obtain ⟨c, hmem, hc⟩ := List.any_eq_true.mp hany
      have hkept : c ∈ trimmedNumber text.toList := by
        apply mem_dropEndWhile_dropWhile hmem
        rw [isSeparator] at hc
        rw [isNumberBlank, hc, Bool.not_true, Bool.and_false]
      rw [ofText?, if_pos rfl]
      cases hplain : withoutUnderscores false (trimmedNumber text.toList) with
      | none =>
          rfl
      | some ds =>
          have hmem' : c ∈ ds := by
            apply mem_of_withoutUnderscores hplain hkept
            rintro rfl
            cases hc
          have hnumeral : Numeral.ofChars? ds = none := by
            rw [Option.eq_none_iff_forall_ne_some]
            intro m hm
            rw [(Numeral.isSeparator_of_isPart (Numeral.isPart_of_ofChars? hm c hmem')).1] at hc
            cases hc
          simp only [hnumeral]
          exact ofWord?_of_isSeparator hmem' hc

end Double

end Numerals

section Values

namespace Rule

/-- A numeric value that does not convert. -/
def resistsConversion : Json → Bool
  | .int n => Double.overflows n
  | .string s => s.toList.any Text.isSeparator && (Numeral.read? s).isSome
  | _ => false

theorem exists_withinRange_iff
    {x : Double} :
    (∃ y, withinRange x = .ok y) ↔ ¬ ∃ negative, x = .infinite negative := by
  cases x <;> simp [withinRange]

theorem eq_of_withinRange
    {x y : Double}
    (h : withinRange x = .ok y) :
    y = x := by
  cases x with
  | infinite negative => cases h
  | nan => exact (Except.ok.inj h).symm
  | finite negative units hunits => exact (Except.ok.inj h).symm

theorem exists_toDouble_int_iff
    (n : Int) :
    (∃ x, toDouble (.int n) = .ok x) ↔ Double.overflows n = false := by
  rw [toDouble, exists_withinRange_iff, Double.ofInt_eq_infinite_iff, Bool.not_eq_true]

/-- A numeral converts, or is unreadable for the separators around it. -/
theorem toDouble_string
    {s : String}
    {n : Numeral}
    (h : Numeral.read? s = some n) :
    toDouble (.string s) =
      if s.toList.any Text.isSeparator then .error .unreadableNumeral else .ok n.toDouble := by
  rw [toDouble, Double.ofText?_of_read? h]
  cases s.toList.any Text.isSeparator with
  | true => rfl
  | false => rfl

/-- A numeric value converts unless it is one of the two kinds that do not. -/
theorem exists_toDouble_iff
    {v : Json}
    (hnumeric : isNumeric v = true) :
    (∃ x, toDouble v = .ok x) ↔ resistsConversion v = false := by
  cases v with
  | int n =>
      exact exists_toDouble_int_iff n
  | float x =>
      simp only [toDouble, resistsConversion, Except.ok.injEq, exists_eq']
  | string s =>
      obtain ⟨n, hn⟩ := Option.isSome_iff_exists.mp hnumeric
      rw [toDouble_string hn, resistsConversion, hn]
      cases s.toList.any Text.isSeparator <;> simp
  | _ =>
      cases hnumeric

end Rule

end Values

end Turnstile
