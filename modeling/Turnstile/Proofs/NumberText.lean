import Mathlib.Data.List.TakeWhile
import Turnstile.Json.Reader
import Turnstile.Json.Writer
import Turnstile.Proofs.Decimals
import Turnstile.Proofs.Pieces

/-!
# Texts of numbers

The text of a number reads back as the number, whatever follows it, as long as that does
not continue the number.
-/

namespace Turnstile
namespace Json

section Digits

/-- All characters are decimal digits. -/
def AreDigits
    (cs : List Char) : Prop :=
  ∀ c ∈ cs, isDecimal c = true

/-- The text does not start with a decimal digit. -/
def StartsNoDigit : List Char → Prop
  | [] => True
  | c :: _ => isDecimal c = false

/-- The text does not continue a number. -/
def EndsNumber : List Char → Prop
  | [] => True
  | c :: _ => isDecimal c = false ∧ c ≠ '.' ∧ c ≠ 'e' ∧ c ≠ 'E'

theorem EndsNumber.startsNoDigit
    {cs : List Char}
    (h : EndsNumber cs) :
    StartsNoDigit cs := by
  cases cs with
  | nil => trivial
  | cons c rest => exact h.1

theorem StartsNoDigit.startsNo
    {cs : List Char}
    (h : StartsNoDigit cs) :
    Text.StartsNo isDecimal cs := by
  cases cs with
  | nil => nofun
  | cons c rest =>
      rintro d hd
      obtain rfl := Option.mem_some_iff.mp hd
      exact h

theorem takeWhile_digits
    {digits rest : List Char}
    (hdigits : AreDigits digits)
    (hrest : StartsNoDigit rest) :
    (digits ++ rest).takeWhile isDecimal = digits :=
  Text.takeWhile_append_of_startsNo hdigits hrest.startsNo

theorem dropWhile_digits
    {digits rest : List Char}
    (hdigits : AreDigits digits)
    (hrest : StartsNoDigit rest) :
    (digits ++ rest).dropWhile isDecimal = rest :=
  Text.dropWhile_append_of_startsNo hdigits hrest.startsNo

theorem digitsValue_eq_ofDigitChars
    (cs : List Char) :
    digitsValue cs = Nat.ofDigitChars 10 cs 0 :=
  rfl

theorem isDecimal_eq_isDigit
    (c : Char) :
    isDecimal c = c.isDigit := by
  rw [Bool.eq_iff_iff, isDecimal, Char.isDigit, Bool.and_eq_true, Bool.and_eq_true,
    decide_eq_true_iff, decide_eq_true_iff, decide_eq_true_iff, decide_eq_true_iff]
  exact Iff.rfl

theorem areDigits_toDigits
    (n : Nat) :
    AreDigits (Nat.toDigits 10 n) := by
  intro c hc
  rw [isDecimal_eq_isDigit]
  exact Nat.isDigit_of_mem_toDigits (by omega) (by omega) hc

theorem digitsValue_toDigits
    (n : Nat) :
    digitsValue (Nat.toDigits 10 n) = n := by
  rw [digitsValue_eq_ofDigitChars, Nat.ofDigitChars_ten_toDigits]

theorem digitsValue_append_zeros
    (cs : List Char)
    (zeros : Nat) :
    digitsValue (cs ++ List.replicate zeros '0') = digitsValue cs * Double.tenPower zeros := by
  rw [digitsValue_eq_ofDigitChars, Nat.ofDigitChars_append, Nat.ofDigitChars_replicate_zero,
    Nat.mul_comm]
  rfl

theorem digitsValue_zeros_append
    (zeros : Nat)
    (cs : List Char) :
    digitsValue (List.replicate zeros '0' ++ cs) = digitsValue cs := by
  rw [digitsValue_eq_ofDigitChars, Nat.ofDigitChars_append, Nat.ofDigitChars_replicate_zero,
    Nat.mul_zero]
  rfl

theorem foldl_digits_lt
    {cs : List Char}
    (hdigits : AreDigits cs)
    (n : Nat) :
    cs.foldl (fun n c => 10 * n + (c.toNat - 48)) n < (n + 1) * 10 ^ cs.length := by
  induction cs generalizing n with
  | nil =>
      simp
  | cons c rest ih =>
      have hc : c.toNat ≤ 57 := by
        have hdecimal := hdigits c List.mem_cons_self
        rw [isDecimal, Bool.and_eq_true, decide_eq_true_iff, decide_eq_true_iff] at hdecimal
        exact hdecimal.2
      have hrest := ih (fun d hd => hdigits d (List.mem_cons_of_mem c hd)) (10 * n + (c.toNat - 48))
      rw [List.foldl_cons, List.length_cons, Nat.pow_succ', ← Nat.mul_assoc]
      refine Nat.lt_of_lt_of_le hrest (Nat.mul_le_mul_right _ ?_)
      omega

theorem digitsValue_lt
    {cs : List Char}
    (hdigits : AreDigits cs) :
    digitsValue cs < 10 ^ cs.length := by
  simpa [digitsValue] using foldl_digits_lt hdigits 0

theorem digitsValue_cons
    (c : Char)
    (cs : List Char) :
    digitsValue (c :: cs) = 10 ^ cs.length * (c.toNat - 48) + digitsValue cs := by
  rw [digitsValue_eq_ofDigitChars, digitsValue_eq_ofDigitChars, Nat.ofDigitChars_cons,
    Nat.ofDigitChars_eq_ofDigitChars_zero, Nat.mul_zero, Nat.zero_add]
  rfl

/-- Digits write a number that needs no more digits. -/
theorem length_toDigits_digitsValue_le
    {cs : List Char}
    (hdigits : AreDigits cs)
    (hne : cs ≠ []) :
    (Nat.toDigits 10 (digitsValue cs)).length ≤ cs.length := by
  rw [Nat.length_toDigits_le_iff (by omega) (List.length_pos_iff.mpr hne)]
  exact digitsValue_lt hdigits

/-- The digits of a positive number do not start with zero. -/
theorem head?_toDigits_ne_zero
    {n : Nat}
    (hn : 0 < n) :
    (Nat.toDigits 10 n).head? ≠ some '0' := by
  induction n using Nat.strongRecOn with
  | ind n ih =>
      rw [Nat.toDigits_eq_if (by omega)]
      by_cases hsmall : n < 10
      · rw [if_pos hsmall]
        have hdigit : ∀ d, d < 10 → 0 < d → [d.digitChar].head? ≠ some '0' := by
          decide
        exact hdigit n hsmall hn
      · rw [if_neg hsmall]
        have hhead := ih (n / 10) (by omega) (by omega)
        cases hdigits : Nat.toDigits 10 (n / 10) with
        | nil => exact absurd hdigits Nat.toDigits_ne_nil
        | cons c rest => simpa [hdigits] using hhead

end Digits

section Unsigned

variable {whole fraction rest : List Char}

/-- The digits of an integer part: a lone zero, or digits that do not start with one. -/
structure IsWhole
    (whole : List Char) : Prop where
  digits : AreDigits whole
  ne_nil : whole ≠ []
  zero : whole.head? = some '0' → whole = ['0']

theorem isWhole_zero : IsWhole ['0'] := by
  refine ⟨?_, by decide, fun _ => rfl⟩
  intro c hc
  obtain rfl := List.mem_singleton.mp hc
  decide

theorem isWhole_toDigits
    (n : Nat) :
    IsWhole (Nat.toDigits 10 n) := by
  refine ⟨areDigits_toDigits n, Nat.toDigits_ne_nil, ?_⟩
  intro hzero
  by_cases hn : n = 0
  · rw [hn]
    rfl
  · exact absurd hzero (head?_toDigits_ne_zero (Nat.pos_of_ne_zero hn))

theorem readIntegerPart_append
    (hwhole : IsWhole whole)
    (hrest : StartsNoDigit rest) :
    readIntegerPart (whole ++ rest) = some (whole, rest) := by
  cases hcs : whole with
  | nil =>
      exact absurd hcs hwhole.ne_nil
  | cons c digits =>
      have hareDigits := hwhole.digits
      rw [hcs] at hareDigits
      by_cases hc : c = '0'
      · have hlone := hwhole.zero (by rw [hcs, hc]; rfl)
        rw [hcs, hc] at hlone
        obtain rfl : digits = [] := (List.cons.inj hlone).2
        rw [hc]
        rfl
      · have hdigits : AreDigits digits := fun d hd => hareDigits d (List.mem_cons_of_mem c hd)
        have hdecimal : isDecimal c = true := hareDigits c List.mem_cons_self
        rw [List.cons_append]
        unfold readIntegerPart
        split
        · rename_i heq
          exact absurd (List.cons.inj heq).1 hc
        · rename_i heq
          obtain ⟨rfl, rfl⟩ := List.cons.inj heq
          rw [if_pos hdecimal, takeWhile_digits hdigits hrest, dropWhile_digits hdigits hrest]
        · rename_i heq
          simp at heq

/-- What is read as an integer part has digits only. -/
theorem areDigits_of_readIntegerPart
    {cs : List Char}
    (h : readIntegerPart cs = some (whole, rest)) :
    AreDigits whole ∧ whole ≠ [] := by
  unfold readIntegerPart at h
  split at h
  · obtain ⟨rfl, -⟩ := Prod.mk.inj (Option.some.inj h)
    exact ⟨isWhole_zero.digits, List.cons_ne_nil _ _⟩
  · rename_i c more _
    by_cases hc : isDecimal c = true
    · rw [if_pos hc] at h
      obtain ⟨rfl, -⟩ := Prod.mk.inj (Option.some.inj h)
      refine ⟨?_, List.cons_ne_nil _ _⟩
      intro d hd
      rcases List.mem_cons.mp hd with rfl | hd
      · exact hc
      · exact List.mem_takeWhile_imp hd
    · rw [if_neg hc] at h
      simp at h
  · simp at h

/-- What follows a number has no exponent. -/
theorem readExponent_of_endsNumber
    (hrest : EndsNumber rest) :
    readExponent rest = none := by
  cases rest with
  | nil =>
      rfl
  | cons c rest =>
      obtain ⟨-, -, he, hE⟩ := hrest
      simp [readExponent, he, hE]

theorem readFraction_of_ne_point
    (hrest : ∀ c, rest.head? = some c → c ≠ '.') :
    readFraction rest = ([], rest) := by
  unfold readFraction
  split
  · rename_i heq
    simp at hrest
  · rfl

theorem readFraction_append
    (hfraction : AreDigits fraction)
    (hne : fraction ≠ [])
    (hrest : StartsNoDigit rest) :
    readFraction ('.' :: fraction ++ rest) = (fraction, rest) := by
  have hnotEmpty : fraction.isEmpty = false := by
    rw [List.isEmpty_eq_false_iff]
    exact hne
  simp only [List.cons_append, readFraction, takeWhile_digits hfraction hrest,
    dropWhile_digits hfraction hrest, hnotEmpty]
  rfl

/-- Digits alone are an integer, which reads back if it is not too long. -/
theorem readUnsigned_digits
    (negative : Bool)
    (hwhole : IsWhole whole)
    (hrest : EndsNumber rest) :
    readUnsigned negative (whole ++ rest) =
      if whole.length ≤ Text.maxIntegerDigits then
        some (.int (if negative then -(digitsValue whole : Int) else digitsValue whole), rest)
      else none := by
  have hpoint : ∀ c, rest.head? = some c → c ≠ '.' := by
    intro c hc
    cases rest with
    | nil => simp at hc
    | cons d rest =>
        obtain rfl : d = c := by simpa using hc
        exact hrest.2.1
  simp only [readUnsigned, readIntegerPart_append hwhole hrest.startsNoDigit,
    readFraction_of_ne_point hpoint, readExponent_of_endsNumber hrest, List.isEmpty_nil,
    if_true]

/-- A number with a fraction and no exponent reads as a double. -/
theorem readUnsigned_fraction
    (negative : Bool)
    (hwhole : IsWhole whole)
    (hfraction : AreDigits fraction)
    (hne : fraction ≠ [])
    (hrest : EndsNumber rest) :
    readUnsigned negative (whole ++ ('.' :: fraction ++ rest)) =
      some (.float (Double.ofDecimal negative (digitsValue (whole ++ fraction))
        (-(fraction.length : Int))), rest) := by
  have hnotEmpty : fraction.isEmpty = false := by
    rw [List.isEmpty_eq_false_iff]
    exact hne
  have hpoint : StartsNoDigit ('.' :: fraction ++ rest) := by
    change isDecimal '.' = false
    decide
  simp only [readUnsigned, readIntegerPart_append hwhole hpoint,
    readFraction_append hfraction hne hrest.startsNoDigit, readExponent_of_endsNumber hrest,
    hnotEmpty]
  rfl

/-- A fraction as it is written: nothing, if it has no digits. -/
def fractionText
    (fraction : List Char) : List Char :=
  if fraction.isEmpty then [] else '.' :: fraction

theorem readFraction_fractionText
    (hfraction : AreDigits fraction)
    (hrest : StartsNoDigit rest)
    (hpoint : ∀ c, rest.head? = some c → c ≠ '.') :
    readFraction (fractionText fraction ++ rest) = (fraction, rest) := by
  cases hcs : fraction with
  | nil =>
      exact readFraction_of_ne_point hpoint
  | cons c digits =>
      rw [hcs] at hfraction
      exact readFraction_append hfraction (List.cons_ne_nil c digits) hrest

theorem readExponent_append
    (down : Bool)
    {exponent : List Char}
    (hexponent : AreDigits exponent)
    (hne : exponent ≠ [])
    (hrest : StartsNoDigit rest) :
    readExponent ('e' :: (if down then '-' else '+') :: exponent ++ rest) =
      some (if down then -(digitsValue exponent : Int) else digitsValue exponent, rest) := by
  have hnotEmpty : exponent.isEmpty = false := by
    rw [List.isEmpty_eq_false_iff]
    exact hne
  cases down with
  | false =>
      simp [readExponent, takeWhile_digits hexponent hrest, dropWhile_digits hexponent hrest,
        hnotEmpty]
  | true =>
      simp [readExponent, takeWhile_digits hexponent hrest, dropWhile_digits hexponent hrest,
        hnotEmpty]

/-- A number with an exponent reads as a double. -/
theorem readUnsigned_exponent
    (negative : Bool)
    (hwhole : IsWhole whole)
    (hfraction : AreDigits fraction)
    (down : Bool)
    {exponent : List Char}
    (hexponent : AreDigits exponent)
    (hne : exponent ≠ [])
    (hrest : StartsNoDigit rest) :
    readUnsigned negative (whole ++ (fractionText fraction ++
        ('e' :: (if down then '-' else '+') :: exponent ++ rest))) =
      some (.float (Double.ofDecimal negative (digitsValue (whole ++ fraction))
        ((if down then -(digitsValue exponent : Int) else digitsValue exponent)
          - fraction.length)), rest) := by
  have hletter : StartsNoDigit ('e' :: (if down then '-' else '+') :: exponent ++ rest) := by
    change isDecimal 'e' = false
    decide
  have hafterWhole : StartsNoDigit (fractionText fraction ++
      ('e' :: (if down then '-' else '+') :: exponent ++ rest)) := by
    cases fraction with
    | nil =>
        exact hletter
    | cons c digits =>
        change isDecimal '.' = false
        decide
  have hpoint : ∀ c, ('e' :: (if down then '-' else '+') :: exponent ++ rest).head? = some c →
      c ≠ '.' := by
    intro c hc
    obtain rfl : 'e' = c := Option.some.inj hc
    decide
  simp only [readUnsigned, readIntegerPart_append hwhole hafterWhole,
    readFraction_fractionText hfraction hletter hpoint,
    readExponent_append down hexponent hne hrest]

end Unsigned

section Magnitudes

open Double

theorem exists_trimZeros
    (cs : List Char) :
    ∃ zeros, cs = trimZeros cs ++ List.replicate zeros '0' := by
  have hzeros : cs.reverse.takeWhile (· == '0') =
      List.replicate (cs.reverse.takeWhile (· == '0')).length '0' := by
    apply List.eq_replicate_of_mem
    intro c hc
    simpa using List.mem_takeWhile_imp hc
  refine ⟨(cs.reverse.takeWhile (· == '0')).length, ?_⟩
  calc cs = (cs.reverse.takeWhile (· == '0') ++ cs.reverse.dropWhile (· == '0')).reverse := by
        rw [List.takeWhile_append_dropWhile, List.reverse_reverse]
    _ = trimZeros cs ++ (cs.reverse.takeWhile (· == '0')).reverse := List.reverse_append
    _ = trimZeros cs ++ List.replicate _ '0' := by
        apply congrArg (trimZeros cs ++ ·)
        conv_lhs => rw [hzeros, List.reverse_replicate]

/-- The digits of a decimal without the zeros at their end, and the number of those. -/
structure Trimmed
    (n : Nat)
    (digits : List Char)
    (zeros : Nat) : Prop where
  text : Nat.toDigits 10 n = digits ++ List.replicate zeros '0'
  whole : IsWhole digits
  head : digits.head? ≠ some '0'
  value : n = digitsValue digits * tenPower zeros
  pos : 0 < digitsValue digits

theorem exists_trimmed
    {n : Nat}
    (hn : 0 < n) :
    ∃ zeros, Trimmed n (trimZeros (Nat.toDigits 10 n)) zeros := by
  obtain ⟨zeros, htext⟩ := exists_trimZeros (Nat.toDigits 10 n)
  generalize trimZeros (Nat.toDigits 10 n) = digits at *
  have hvalue : n = digitsValue digits * tenPower zeros := by
    rw [← digitsValue_append_zeros, ← htext, digitsValue_toDigits]
  have hpos : 0 < digitsValue digits := by
    by_contra hzero
    have heq : digitsValue digits = 0 := by omega
    rw [heq, Nat.zero_mul] at hvalue
    omega
  have hne : digits ≠ [] := by
    rintro rfl
    exact absurd hpos (by decide)
  have hhead : digits.head? ≠ some '0' := by
    have hfirst := head?_toDigits_ne_zero hn
    cases digits with
    | nil => exact absurd rfl hne
    | cons c rest => simpa [htext] using hfirst
  have hareDigits : AreDigits digits := by
    intro c hc
    apply areDigits_toDigits n
    rw [htext]
    exact List.mem_append_left _ hc
  exact ⟨zeros, htext, ⟨hareDigits, hne, fun h => absurd h hhead⟩, hhead, hvalue, hpos⟩

/-- The digits of a positive number keep to be such before a point. -/
theorem isWhole_of_head
    {digits : List Char}
    (hdigits : AreDigits digits)
    (hne : digits ≠ [])
    (hhead : digits.head? ≠ some '0') :
    IsWhole digits :=
  ⟨hdigits, hne, fun h => absurd h hhead⟩

theorem digitsValue_zero_cons
    (cs : List Char) :
    digitsValue ('0' :: cs) = digitsValue cs :=
  digitsValue_zeros_append 1 cs

theorem areDigits_append
    {left right : List Char}
    (hleft : AreDigits left)
    (hright : AreDigits right) :
    AreDigits (left ++ right) := by
  intro c hc
  rcases List.mem_append.mp hc with hc | hc
  · exact hleft c hc
  · exact hright c hc

theorem areDigits_zeros
    (zeros : Nat) :
    AreDigits (List.replicate zeros '0') := by
  intro c hc
  rw [List.eq_of_mem_replicate hc]
  decide

/-- The digits of an exponent. -/
theorem exponentText_spec
    (e : Nat) :
    AreDigits (exponentText e).toList ∧ (exponentText e).toList ≠ [] ∧
      digitsValue (exponentText e).toList = e := by
  unfold exponentText
  by_cases hsmall : e < 10
  · have htext : ("0" ++ toString e).toList = '0' :: Nat.toDigits 10 e := by
      simp
    rw [if_pos hsmall, htext, digitsValue_zero_cons, digitsValue_toDigits]
    exact ⟨areDigits_append (areDigits_zeros 1) (areDigits_toDigits e), List.cons_ne_nil _ _, rfl⟩
  · have htext : (toString e).toList = Nat.toDigits 10 e := by
      simp
    rw [if_neg hsmall, htext, digitsValue_toDigits]
    exact ⟨areDigits_toDigits e, Nat.toDigits_ne_nil, rfl⟩

section Layout

variable (negative : Bool) {digits : List Char} {point : Int} {rest : List Char}

/-- The text of a decimal less than one. -/
theorem readUnsigned_small
    (hdigits : IsWhole digits)
    (hpoint : point ≤ 0)
    (hrest : EndsNumber rest) :
    readUnsigned negative
        (("0." ++ String.ofList (List.replicate (-point).toNat '0' ++ digits)).toList ++ rest) =
      some (.float (ofDecimal negative (digitsValue digits) (point - digits.length)), rest) := by
  have hfraction := areDigits_append (areDigits_zeros (-point).toNat) hdigits.digits
  have hne : List.replicate (-point).toNat '0' ++ digits ≠ [] := by
    simp [hdigits.ne_nil]
  have htext : ("0." ++ String.ofList (List.replicate (-point).toNat '0' ++ digits)).toList ++ rest =
      ['0'] ++ ('.' :: (List.replicate (-point).toNat '0' ++ digits) ++ rest) := by
    simp
  have hexponent : -((List.replicate (-point).toNat '0' ++ digits).length : Int) =
      point - digits.length := by
    simp only [List.length_append, List.length_replicate]
    omega
  rw [htext, readUnsigned_fraction negative isWhole_zero hfraction hne hrest, List.singleton_append,
    digitsValue_zero_cons, digitsValue_zeros_append, hexponent]

/-- The text of a decimal that is a whole number. -/
theorem readUnsigned_whole
    (hdigits : IsWhole digits)
    (hhead : digits.head? ≠ some '0')
    (hpos : 0 < digitsValue digits)
    (hpoint : (digits.length : Int) ≤ point)
    (hhigh : point - digits.length < 310)
    (hrest : EndsNumber rest) :
    readUnsigned negative
        ((String.ofList (digits ++ List.replicate (point - digits.length).toNat '0')
          ++ ".0").toList ++ rest) =
      some (.float (ofDecimal negative (digitsValue digits) (point - digits.length)), rest) := by
  generalize hzeros : (point - digits.length).toNat = zeros
  have hwhole : IsWhole (digits ++ List.replicate zeros '0') := by
    refine isWhole_of_head (areDigits_append hdigits.digits (areDigits_zeros zeros)) ?_ ?_
    · simp [hdigits.ne_nil]
    · cases hcs : digits with
      | nil => exact absurd hcs hdigits.ne_nil
      | cons c more => simpa [hcs] using hhead
  have htext : (String.ofList (digits ++ List.replicate zeros '0') ++ ".0").toList ++ rest =
      (digits ++ List.replicate zeros '0') ++ ('.' :: ['0'] ++ rest) := by
    simp
  have hone : AreDigits ['0'] := areDigits_zeros 1
  have hread := readUnsigned_fraction negative hwhole hone (by decide) hrest
  have hvalue : digitsValue (digits ++ List.replicate zeros '0' ++ ['0']) =
      digitsValue digits * tenPower (zeros + 1) := by
    rw [← digitsValue_append_zeros, List.replicate_succ', List.append_assoc]
  have hexponent : -(([ '0' ] : List Char).length : Int) + (zeros + 1 : Nat) =
      point - digits.length := by
    simp only [List.length_singleton]
    omega
  rw [hvalue, ofDecimal_mul_tenPower negative hpos (zeros + 1) (by decide) (by omega),
    hexponent] at hread
  rw [htext]
  exact hread

/-- The text of a decimal with digits on both sides of the point. -/
theorem readUnsigned_middle
    (hdigits : IsWhole digits)
    (hhead : digits.head? ≠ some '0')
    (hpoint : 0 < point)
    (hlength : point < digits.length)
    (hrest : EndsNumber rest) :
    readUnsigned negative
        ((String.ofList (digits.take point.toNat) ++ "." ++
          String.ofList (digits.drop point.toNat)).toList ++ rest) =
      some (.float (ofDecimal negative (digitsValue digits) (point - digits.length)), rest) := by
  have hwhole : IsWhole (digits.take point.toNat) := by
    refine isWhole_of_head (fun c hc => hdigits.digits c (List.mem_of_mem_take hc)) ?_ ?_
    · rw [ne_eq, List.take_eq_nil_iff, not_or]
      exact ⟨by omega, hdigits.ne_nil⟩
    · rw [List.head?_take, if_neg (by omega)]
      exact hhead
  have hfraction : AreDigits (digits.drop point.toNat) := fun c hc =>
    hdigits.digits c (List.mem_of_mem_drop hc)
  have hne : digits.drop point.toNat ≠ [] := by
    rw [ne_eq, List.drop_eq_nil_iff]
    omega
  have htext : (String.ofList (digits.take point.toNat) ++ "." ++
        String.ofList (digits.drop point.toNat)).toList ++ rest =
      digits.take point.toNat ++ ('.' :: digits.drop point.toNat ++ rest) := by
    simp
  have hexponent : -((digits.drop point.toNat).length : Int) = point - digits.length := by
    rw [List.length_drop]
    omega
  rw [htext, readUnsigned_fraction negative hwhole hfraction hne hrest, List.take_append_drop,
    hexponent]

/-- The text of a decimal with an exponent. -/
theorem readUnsigned_scientific
    (hdigits : IsWhole digits)
    (hhead : digits.head? ≠ some '0')
    (hrest : EndsNumber rest) :
    readUnsigned negative
        ((String.ofList (digits.take 1) ++
          (if digits.length ≤ 1 then "" else "." ++ String.ofList (digits.drop 1)) ++ "e" ++
          (if point - 1 < 0 then "-" else "+") ++ exponentText (point - 1).natAbs).toList ++ rest) =
      some (.float (ofDecimal negative (digitsValue digits) (point - digits.length)), rest) := by
  obtain ⟨hexponent, hne, hvalue⟩ := exponentText_spec (point - 1).natAbs
  cases hcs : digits with
  | nil =>
      exact absurd hcs hdigits.ne_nil
  | cons c more =>
      rw [hcs] at hhead hdigits
      have hwhole : IsWhole [c] := by
        refine isWhole_of_head (fun d hd => hdigits.digits d ?_) (List.cons_ne_nil c []) hhead
        rw [List.mem_singleton.mp hd]
        exact List.mem_cons_self
      have hfraction : AreDigits more := fun d hd =>
        hdigits.digits d (List.mem_cons_of_mem c hd)
      have hread := readUnsigned_exponent negative hwhole hfraction (decide (point - 1 < 0))
        hexponent hne hrest.startsNoDigit
      have hsum : ((if decide (point - 1 < 0) = true
            then -(digitsValue (exponentText (point - 1).natAbs).toList : Int)
            else digitsValue (exponentText (point - 1).natAbs).toList) - more.length) =
          point - (c :: more).length := by
        rw [hvalue, List.length_cons]
        by_cases hnegative : point - 1 < 0
        · rw [decide_eq_true hnegative, if_pos rfl]
          omega
        · rw [decide_eq_false hnegative, if_neg Bool.false_ne_true]
          omega
      have htext : (String.ofList ((c :: more).take 1) ++
            (if (c :: more).length ≤ 1 then "" else "." ++ String.ofList ((c :: more).drop 1)) ++
            "e" ++ (if point - 1 < 0 then "-" else "+") ++
            exponentText (point - 1).natAbs).toList ++ rest =
          [c] ++ (fractionText more ++ ('e' :: (if decide (point - 1 < 0) then '-' else '+') ::
            (exponentText (point - 1).natAbs).toList ++ rest)) := by
        cases more with
        | nil =>
            by_cases hnegative : point - 1 < 0
            · simp [fractionText, hnegative]
            · simp [fractionText, hnegative]
        | cons d more =>
            by_cases hnegative : point - 1 < 0
            · simp [fractionText, hnegative]
            · simp [fractionText, hnegative]
      rw [hsum] at hread
      rw [htext]
      exact hread

end Layout

/-- A text of a decimal reads as the double nearest to it. -/
theorem readUnsigned_layout
    (negative : Bool)
    {digits : List Char}
    (hdigits : IsWhole digits)
    (hhead : digits.head? ≠ some '0')
    (hpos : 0 < digitsValue digits)
    {point : Int}
    (hhigh : point - digits.length < 310)
    {rest : List Char}
    (hrest : EndsNumber rest) :
    readUnsigned negative ((layout digits point).toList ++ rest) =
      some (.float (ofDecimal negative (digitsValue digits) (point - digits.length)), rest) := by
  unfold layout
  dsimp only
  by_cases hpositional : (decide (-4 < point) && decide (point ≤ 16)) = true
  · rw [if_pos hpositional]
    by_cases hsmall : point ≤ 0
    · rw [if_pos hsmall]
      exact readUnsigned_small negative hdigits hsmall hrest
    · rw [if_neg hsmall]
      by_cases hwhole : (digits.length : Int) ≤ point
      · rw [if_pos hwhole]
        exact readUnsigned_whole negative hdigits hhead hpos hwhole hhigh hrest
      · rw [if_neg hwhole]
        exact readUnsigned_middle negative hdigits hhead (by omega) (by omega) hrest
  · rw [if_neg hpositional]
    exact readUnsigned_scientific negative hdigits hhead hrest

/-- The text of a double without its sign reads as the double. -/
theorem readUnsigned_magnitudeText
    (negative : Bool)
    {u : Nat}
    (h : representable u = true)
    {rest : List Char}
    (hrest : EndsNumber rest) :
    readUnsigned negative ((magnitudeText u).toList ++ rest) =
      some (.float (.finite negative u h), rest) := by
  unfold magnitudeText
  by_cases hzero : u = 0
  · subst hzero
    have hone : AreDigits ['0'] := areDigits_zeros 1
    exact readUnsigned_fraction negative isWhole_zero hone (by decide) hrest
  · have hu : 0 < u := Nat.pos_of_ne_zero hzero
    have hshort := shortest_shortened hu h
    have hlimit := lt_unitLimit_of_representable h
    have hreads : ofDecimal negative (shortest u).digits (shortest u).exponent =
        .finite negative u h := by
      rw [ofDecimal_withSign, (readsBack_iff h _).mp hshort.readsBack]
      rfl
    rw [if_neg hzero]
    dsimp only
    have hpositive : 0 < (shortest u).digits := by
      by_contra hnone
      have heq : (shortest u).digits = 0 := by omega
      rw [heq] at hreads
      exact absurd (Double.finite.inj hreads).2 (Ne.symm hzero)
    obtain ⟨zeros, htrimmed⟩ := exists_trimmed hpositive
    have hall : (toString (shortest u).digits).toList = Nat.toDigits 10 (shortest u).digits := by
      simp
    rw [hall]
    generalize trimZeros (Nat.toDigits 10 (shortest u).digits) = digits at htrimmed
    have hzeros : tenPower zeros ≤ (shortest u).digits := by
      rw [htrimmed.value]
      exact Nat.le_mul_of_pos_left _ htrimmed.pos
    have hhigh := hshort.exponent_add_lt hu hlimit hzeros
    have hlow : -400 ≤ (shortest u).exponent := by
      have hbounds := decimalExponent_bounds hu hlimit
      have := hshort.low
      omega
    have hpoint : ((Nat.toDigits 10 (shortest u).digits).length : Int) + (shortest u).exponent -
        digits.length = (shortest u).exponent + zeros := by
      rw [htrimmed.text, List.length_append, List.length_replicate]
      omega
    rw [readUnsigned_layout negative htrimmed.whole htrimmed.head htrimmed.pos
      (by rw [hpoint]; exact hhigh) hrest, hpoint,
      ← ofDecimal_mul_tenPower negative htrimmed.pos zeros hlow hhigh, ← htrimmed.value, hreads]

end Magnitudes

section Numbers

variable {rest : List Char}

/-- A sign as it is written: nothing, if it is no minus. -/
def signText
    (negative : Bool) : List Char :=
  if negative then ['-'] else []

/-- What is read as a number starts with a digit. -/
theorem exists_digit_of_readUnsigned
    {negative : Bool}
    {cs : List Char}
    {read : Json × List Char}
    (h : readUnsigned negative cs = some read) :
    ∃ c more, cs = c :: more ∧ isDecimal c = true := by
  unfold readUnsigned at h
  cases cs with
  | nil =>
      simp [readIntegerPart] at h
  | cons c more =>
      refine ⟨c, more, rfl, ?_⟩
      by_contra hdecimal
      have hnone : readIntegerPart (c :: more) = none := by
        unfold readIntegerPart
        split
        · rename_i heq
          obtain ⟨rfl, -⟩ := List.cons.inj heq
          exact absurd rfl hdecimal
        · rename_i heq
          obtain ⟨rfl, rfl⟩ := List.cons.inj heq
          rw [if_neg hdecimal]
        · rfl
      simp [hnone] at h

/-- A digit after a sign starts a number. -/
theorem readScalar_signText_cons
    (negative : Bool)
    {c : Char}
    (hc : isDecimal c = true)
    (more : List Char) :
    readScalar (signText negative ++ c :: more) = readUnsigned negative (c :: more) := by
  have hword : ∀ letter, isDecimal letter = false → c ≠ letter := by
    rintro letter hletter rfl
    rw [hc] at hletter
    simp at hletter
  cases negative with
  | false =>
      have hn := hword 'n' (by decide)
      have ht := hword 't' (by decide)
      have hf := hword 'f' (by decide)
      have hN := hword 'N' (by decide)
      have hI := hword 'I' (by decide)
      have hminus := hword '-' (by decide)
      change readScalar (c :: more) = readUnsigned false (c :: more)
      unfold readScalar
      split
      all_goals simp_all
  | true =>
      have hI := hword 'I' (by decide)
      have hexpect : ∀ letters, expect? ('I' :: letters) (c :: more) = none := by
        intro letters
        have hhead : ('I' == c) = false := beq_eq_false_iff_ne.mpr hI.symm
        rw [expect?, List.isPrefixOf, hhead]
        rfl
      have hletters : "Infinity".toList = 'I' :: "nfinity".toList := by
        decide
      have hinfinite : expect? "Infinity".toList (c :: more) = none := by
        rw [hletters, hexpect]
      rw [signText, if_pos rfl, List.cons_append, List.nil_append, readScalar, hinfinite]

/-- A number after its sign reads as a scalar. -/
theorem readScalar_signText
    {negative : Bool}
    {cs : List Char}
    {read : Json × List Char}
    (h : readUnsigned negative cs = some read) :
    readScalar (signText negative ++ cs) = some read := by
  obtain ⟨c, more, rfl, hc⟩ := exists_digit_of_readUnsigned h
  rw [readScalar_signText_cons negative hc, h]

theorem toList_toString_int
    (n : Int) :
    (toString n).toList = signText (n < 0) ++ Nat.toDigits 10 n.natAbs := by
  rw [Int.toString_eq_repr, Int.repr_eq_if]
  by_cases hn : 0 ≤ n
  · have habs : n.toNat = n.natAbs := by omega
    rw [if_pos hn, decide_eq_false (Int.not_lt.mpr hn), Nat.toList_repr, habs]
    rfl
  · have habs : (-n).toNat = n.natAbs := by omega
    rw [if_neg hn, decide_eq_true (Int.not_le.mp hn), String.toList_append, Nat.toList_repr, habs]
    rfl

/-- An integer reads back, unless it is too long to be read. -/
theorem readScalar_int_eq
    (n : Int)
    (hrest : EndsNumber rest) :
    readScalar ((toString n).toList ++ rest) =
      if (Nat.toDigits 10 n.natAbs).length ≤ Text.maxIntegerDigits then some (.int n, rest)
      else none := by
  have hwhole := isWhole_toDigits n.natAbs
  have hread := readUnsigned_digits (n < 0) hwhole hrest
  have hsigned : (if decide (n < 0) = true then -(n.natAbs : Int) else n.natAbs) = n := by
    by_cases hnegative : n < 0
    · rw [decide_eq_true hnegative, if_pos rfl]
      omega
    · rw [decide_eq_false hnegative, if_neg Bool.false_ne_true]
      omega
  rw [digitsValue_toDigits, hsigned] at hread
  rw [toList_toString_int, List.append_assoc, ← hread]
  obtain ⟨c, more, hdigits⟩ := List.exists_cons_of_ne_nil hwhole.ne_nil
  have hc : isDecimal c = true := hwhole.digits c (by rw [hdigits]; exact List.mem_cons_self)
  rw [hdigits, List.cons_append]
  exact readScalar_signText_cons _ hc _

/-- An integer reads back, if it is not too long. -/
theorem readScalar_int
    {n : Int}
    (hlength : (Nat.toDigits 10 n.natAbs).length ≤ Text.maxIntegerDigits)
    (hrest : EndsNumber rest) :
    readScalar ((toString n).toList ++ rest) = some (.int n, rest) := by
  rw [readScalar_int_eq n hrest, if_pos hlength]

theorem toList_numberText_finite
    (negative : Bool)
    {units : Nat}
    (h : Double.representable units = true) :
    (numberText (.finite negative units h)).toList =
      signText negative ++ (Double.magnitudeText units).toList := by
  cases negative with
  | false => rfl
  | true => simp [numberText, Double.text, signText]

/-- A double reads back. -/
theorem readScalar_double
    (x : Double)
    (hrest : EndsNumber rest) :
    readScalar ((numberText x).toList ++ rest) = some (.float x, rest) := by
  cases x with
  | nan =>
      rfl
  | infinite negative =>
      cases negative with
      | false => rfl
      | true => rfl
  | finite negative units h =>
      rw [toList_numberText_finite, List.append_assoc]
      exact readScalar_signText (readUnsigned_magnitudeText negative h hrest)

end Numbers

end Json
end Turnstile
