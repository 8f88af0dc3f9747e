import Mathlib.Algebra.Order.Field.Rat
import Mathlib.Tactic.FieldSimp
import Mathlib.Tactic.Ring
import Turnstile.Proofs.Conversion
import Turnstile.Proofs.Pieces

/-!
# How numerals are spelled

A numeral is spelled by a sign, which may be left out, digits of any script before and
after a point, of which there is at least one, and an exponent, which may be left out.
Blanks may stand around it.  The rational that a spelling denotes is told here by its
parts; the numeral that is read denotes the same.

**Results.**
* `Spelling.ofChars?_text`, `exists_spelling`: the spellings are what is read.
* `Spelling.value_numeral`: what is read has the value of its spelling.
* `read?_eq_some_iff`: the same with blanks around.
-/

namespace Turnstile

namespace Text

section Digits

/-- No digit of any script is a blank. -/
theorem isBlank_of_isDigitChar
    {c : Char}
    (h : isDigitChar c = true) :
    isBlank c = false := by
  have htable : ∀ first ∈ digitZeros, ∀ d < 10, isBlankCode (first + d) = false := by
    decide +kernel
  rw [isDigitChar, isDigit] at h
  rw [isBlank]
  generalize c.toNat = code at *
  unfold digitValue? at h
  split at h
  · split at h
    · simp only [Bool.and_eq_true, decide_eq_true_eq] at *
      have hascii := htable 48 (by decide +kernel) (code - 48) (by omega)
      rwa [show 48 + (code - 48) = code by omega] at hascii
    · cases h
  · obtain ⟨value, hvalue⟩ := Option.isSome_iff_exists.mp h
    obtain ⟨first, hfirst, -⟩ := Option.map_eq_some_iff.mp hvalue
    have hrange := Array.find?_some hfirst
    simp only [Bool.and_eq_true, decide_eq_true_eq] at hrange
    have hdigit := htable first (Array.mem_of_find?_eq_some hfirst) (code - first) (by omega)
    rwa [show first + (code - first) = code by omega] at hdigit

theorem foldl_decimalValue
    (ds : List Char)
    (n : Nat) :
    ds.foldl (fun n c => 10 * n + (digitValue? c.toNat).getD 0) n =
      n * 10 ^ ds.length + decimalValue ds := by
  rw [decimalValue]
  induction ds generalizing n with
  | nil =>
      simp
  | cons d ds ih =>
      rw [List.foldl_cons, List.foldl_cons, ih, ih (10 * 0 + _), List.length_cons]
      ring

/-- Digits before others count as many times more. -/
theorem decimalValue_append
    (cs ds : List Char) :
    decimalValue (cs ++ ds) = decimalValue cs * 10 ^ ds.length + decimalValue ds := by
  rw [decimalValue, List.foldl_append]
  exact foldl_decimalValue ds _

end Digits

end Text

namespace Numeral

open Text

section Spellings

/-- A sign as it is written, if it is. -/
inductive Sign where
  | omitted
  | plus
  | minus

namespace Sign

def text : Sign → List Char
  | omitted => []
  | plus => ['+']
  | minus => ['-']

def isMinus : Sign → Bool
  | minus => true
  | _ => false

/-- What a sign multiplies by. -/
def factor : Sign → Int
  | minus => -1
  | _ => 1

end Sign

/-- Digits of any script in a row, possibly none. -/
structure Digits where
  chars : List Char
  areDigits : chars.all isDigitChar = true

namespace Digits

/-- The number that digits write. -/
def value
    (d : Digits) : Nat :=
  decimalValue d.chars

end Digits

/-- An exponent: its letter, its sign and its digits. -/
structure Exponent where
  capital : Bool
  sign : Sign
  digits : Digits
  isWritten : digits.chars ≠ []

namespace Exponent

def text
    (e : Exponent) : List Char :=
  (if e.capital then 'E' else 'e') :: (e.sign.text ++ e.digits.chars)

def value
    (e : Exponent) : Int :=
  e.sign.factor * e.digits.value

end Exponent

/-- A numeral as it is written, without blanks around it. -/
structure Spelling where
  sign : Sign
  whole : Digits
  fraction : Option Digits
  exponent : Option Exponent
  isWritten : whole.chars ≠ [] ∨ ∃ digits, fraction = some digits ∧ digits.chars ≠ []

namespace Spelling

variable (s : Spelling)

/-- The digits after the point. -/
def places : List Char :=
  (s.fraction.map (·.chars)).getD []

/-- The point and the digits after it. -/
def fractionText : List Char :=
  match s.fraction with
  | none => []
  | some digits => '.' :: digits.chars

def exponentText : List Char :=
  (s.exponent.map (·.text)).getD []

def exponentValue : Int :=
  (s.exponent.map (·.value)).getD 0

def text : List Char :=
  s.sign.text ++ (s.whole.chars ++ (s.fractionText ++ s.exponentText))

/-- The rational that is spelled. -/
def value : ℚ :=
  s.sign.factor * (s.whole.value + decimalValue s.places / 10 ^ s.places.length) *
    10 ^ s.exponentValue

/-- The numeral that is spelled. -/
def numeral : Numeral :=
  ⟨s.sign.isMinus, decimalValue (s.whole.chars ++ s.places), s.exponentValue - s.places.length⟩

end Spelling

/-- The rational that a numeral stands for. -/
def value
    (n : Numeral) : ℚ :=
  (if n.negative then -1 else 1) * n.digits * 10 ^ n.exponent

/-- The numeral of a spelling stands for what is spelled. -/
theorem Spelling.value_numeral
    (s : Spelling) :
    s.numeral.value = s.value := by
  have hten : (10 : ℚ) ≠ 0 := by norm_num
  have hsign : (if s.sign.isMinus then -1 else 1 : ℚ) = s.sign.factor := by
    cases s.sign <;> simp [Sign.isMinus, Sign.factor]
  rw [Numeral.value, numeral, value, hsign, decimalValue_append, zpow_sub₀ hten, zpow_natCast,
    Digits.value]
  push_cast
  field_simp

end Spellings

section Reading

/-- A sign is read as it is written. -/
theorem signed_append
    (sign : Sign)
    {rest : List Char}
    (hrest : ∀ c ∈ rest.head?, c ≠ '-' ∧ c ≠ '+') :
    signed (sign.text ++ rest) = (sign.isMinus, rest) := by
  cases sign with
  | omitted =>
      cases rest with
      | nil => rfl
      | cons c rest =>
          obtain ⟨hminus, hplus⟩ := hrest c rfl
          simp only [Sign.text, List.nil_append]
          unfold signed
          split
          · rename_i heq
            exact absurd (List.cons.inj heq).1 hminus
          · rename_i heq
            exact absurd (List.cons.inj heq).1 hplus
          · rfl
  | plus => rfl
  | minus => rfl

/-- What is read comes after some sign. -/
theorem exists_signed_eq
    (cs : List Char) :
    ∃ sign : Sign, cs = sign.text ++ (signed cs).2 := by
  unfold signed
  split
  · exact ⟨.minus, rfl⟩
  · exact ⟨.plus, rfl⟩
  · exact ⟨.omitted, rfl⟩

theorem head?_ne_of_digits
    {cs : List Char}
    (hcs : ∀ c ∈ cs.head?, isDigitChar c = true ∨ c = '.') :
    ∀ c ∈ cs.head?, c ≠ '-' ∧ c ≠ '+' := by
  intro c hc
  constructor
  · rintro rfl
    rcases hcs _ hc with h | h <;> revert h <;> decide
  · rintro rfl
    rcases hcs _ hc with h | h <;> revert h <;> decide

theorem exponent?_text
    (e : Exponent) :
    exponent? e.text = some e.value := by
  have hsigned : signed (e.sign.text ++ e.digits.chars) = (e.sign.isMinus, e.digits.chars) := by
    apply signed_append
    apply head?_ne_of_digits
    intro c hc
    exact .inl (List.all_eq_true.mp e.digits.areDigits c (List.mem_of_mem_head? hc))
  have hletter : ((if e.capital then 'E' else 'e') == 'e' ||
      (if e.capital then 'E' else 'e') == 'E') = true := by
    cases e.capital <;> rfl
  have hempty : e.digits.chars.isEmpty = false := by
    simpa using e.isWritten
  rw [Exponent.text, exponent?]
  simp only [hletter, hsigned, hempty, e.digits.areDigits, if_true, Bool.not_true, Bool.or_false,
    Bool.false_eq_true, if_false, Exponent.value, Digits.value]
  cases e.sign <;> simp [Sign.isMinus, Sign.factor]

theorem exists_exponent
    {cs : List Char}
    {value : Int}
    (h : exponent? cs = some value) :
    ∃ exponent : Option Exponent, cs = (exponent.map (·.text)).getD [] := by
  cases cs with
  | nil => exact ⟨none, rfl⟩
  | cons letter rest =>
      obtain ⟨sign, hrest⟩ := exists_signed_eq rest
      simp only [exponent?] at h
      split at h
      · rename_i hletter
        split at h
        · cases h
        · rename_i hdigits
          simp only [Bool.or_eq_true, not_or, Bool.not_eq_true, Bool.not_eq_false',
            List.isEmpty_eq_false_iff] at hdigits
          refine ⟨some ⟨letter == 'E', sign, ⟨(signed rest).2, hdigits.2⟩, hdigits.1⟩, ?_⟩
          rw [Option.map_some, Option.getD_some, Exponent.text, ← hrest]
          rcases Bool.or_eq_true_iff.mp hletter with he | he
          · rw [beq_iff_eq.mp he]
            rfl
          · rw [beq_iff_eq.mp he]
            rfl
      · cases h

/-- The digits at the start of a text. -/
def Digits.atStart
    (cs : List Char) : Digits :=
  ⟨cs.takeWhile isDigitChar, List.all_eq_true.mpr fun _ hc => List.mem_takeWhile_imp hc⟩

theorem Digits.takeWhile_append
    (d : Digits)
    {rest : List Char}
    (hrest : StartsNo isDigitChar rest) :
    (d.chars ++ rest).takeWhile isDigitChar = d.chars :=
  takeWhile_append_of_startsNo (List.all_eq_true.mp d.areDigits) hrest

theorem Digits.dropWhile_append
    (d : Digits)
    {rest : List Char}
    (hrest : StartsNo isDigitChar rest) :
    (d.chars ++ rest).dropWhile isDigitChar = rest :=
  dropWhile_append_of_startsNo (List.all_eq_true.mp d.areDigits) hrest

namespace Spelling

variable (s : Spelling)

theorem exponent?_exponentText :
    exponent? s.exponentText = some s.exponentValue := by
  rw [exponentText, exponentValue]
  cases s.exponent with
  | none => rfl
  | some e => exact exponent?_text e

/-- An exponent starts with its letter. -/
theorem head?_exponentText :
    ∀ c ∈ s.exponentText.head?, isDigitChar c = false ∧ c ≠ '.' := by
  rw [exponentText]
  cases s.exponent with
  | none => nofun
  | some e =>
      rintro c hc
      obtain rfl := Option.mem_some_iff.mp hc
      cases e.capital <;> exact ⟨by decide, by decide⟩

/-- A fraction starts with its point. -/
theorem startsNo_fractionText :
    StartsNo isDigitChar (s.fractionText ++ s.exponentText) := by
  have hexponent := s.head?_exponentText
  rw [fractionText]
  cases s.fraction with
  | none => exact fun c hc => (hexponent c hc).1
  | some digits =>
      rintro c hc
      obtain rfl := Option.mem_some_iff.mp hc
      decide

/-- A numeral starts with its sign, a digit or its point. -/
theorem head?_unsigned :
    ∀ c ∈ (s.whole.chars ++ (s.fractionText ++ s.exponentText)).head?,
      isDigitChar c = true ∨ c = '.' := by
  intro c hc
  cases hwhole : s.whole.chars with
  | cons d ds =>
      rw [hwhole] at hc
      obtain rfl := Option.mem_some_iff.mp hc
      exact .inl (List.all_eq_true.mp s.whole.areDigits d (hwhole ▸ List.mem_cons_self))
  | nil =>
      obtain ⟨digits, hdigits, -⟩ := s.isWritten.resolve_left (not_not_intro hwhole)
      rw [hwhole, fractionText, hdigits] at hc
      exact .inr (Option.mem_some_iff.mp hc).symm

theorem isWritten_iff :
    (s.whole.chars.isEmpty && s.places.isEmpty) = false := by
  rw [Bool.and_eq_false_iff, List.isEmpty_eq_false_iff, List.isEmpty_eq_false_iff]
  refine s.isWritten.imp_right ?_
  rintro ⟨digits, hdigits, hne⟩
  rwa [places, hdigits]

/-- A spelling is read as its numeral. -/
theorem ofChars?_text :
    ofChars? s.text = some s.numeral := by
  have hsigned := signed_append s.sign (head?_ne_of_digits s.head?_unsigned)
  have hfraction := s.startsNo_fractionText
  have hexponent : StartsNo isDigitChar s.exponentText := fun c hc => (s.head?_exponentText c hc).1
  have hwritten := s.isWritten_iff
  simp only [ofChars?, text, hsigned, s.whole.takeWhile_append hfraction,
    s.whole.dropWhile_append hfraction]
  cases hdigits : s.fraction with
  | none =>
      have htext : s.fractionText = [] := by
        rw [fractionText, hdigits]
      have hplaces : s.places = [] := by
        rw [places, hdigits]
        rfl
      rw [hplaces] at hwritten
      rw [htext, List.nil_append, numeral, hplaces]
      split
      · rename_i more heq
        exact absurd rfl (s.head?_exponentText '.' (by rw [heq]; rfl)).2
      · simp only [hwritten, Bool.false_eq_true, if_false, s.exponent?_exponentText,
          Option.map_some]
  | some digits =>
      have htext : s.fractionText = '.' :: digits.chars := by
        rw [fractionText, hdigits]
      have hplaces : s.places = digits.chars := by
        rw [places, hdigits]
        rfl
      rw [hplaces] at hwritten
      rw [htext, List.cons_append, numeral, hplaces]
      simp only [digits.takeWhile_append hexponent, digits.dropWhile_append hexponent, hwritten,
        Bool.false_eq_true, if_false, s.exponent?_exponentText, Option.map_some]

end Spelling

/-- What is read is a spelling. -/
theorem exists_spelling
    {cs : List Char}
    {n : Numeral}
    (h : ofChars? cs = some n) :
    ∃ s : Spelling, s.text = cs := by
  obtain ⟨sign, hsign⟩ := exists_signed_eq cs
  have hwhole := List.takeWhile_append_dropWhile (p := isDigitChar) (l := (signed cs).2)
  simp only [ofChars?] at h
  split at h
  · rename_i more hpoint
    rw [Option.ite_none_left_eq_some, Option.map_eq_some_iff] at h
    obtain ⟨hwritten, value, hvalue, -⟩ := h
    dsimp only at hwritten hvalue
    obtain ⟨exponent, hexponent⟩ := exists_exponent hvalue
    have hfraction := List.takeWhile_append_dropWhile (p := isDigitChar) (l := more)
    have hdigits : (signed cs).2.takeWhile isDigitChar ≠ [] ∨
        more.takeWhile isDigitChar ≠ [] := by
      simpa [Classical.or_iff_not_imp_left] using hwritten
    refine ⟨⟨sign, .atStart (signed cs).2, some (.atStart more), exponent,
      hdigits.imp_right fun hne => ⟨_, rfl, hne⟩⟩, ?_⟩
    rw [hexponent] at hfraction
    rw [hpoint, ← hfraction] at hwhole
    conv_rhs => rw [hsign, ← hwhole]
    rfl
  · rw [Option.ite_none_left_eq_some, Option.map_eq_some_iff] at h
    obtain ⟨hwritten, value, hvalue, -⟩ := h
    dsimp only at hwritten hvalue
    obtain ⟨exponent, hexponent⟩ := exists_exponent hvalue
    have hdigits : (signed cs).2.takeWhile isDigitChar ≠ [] := by
      simpa using hwritten
    refine ⟨⟨sign, .atStart (signed cs).2, none, exponent, .inl hdigits⟩, ?_⟩
    rw [hexponent] at hwhole
    conv_rhs => rw [hsign, ← hwhole]
    rfl

end Reading

section Blanks

/-- The text of a spelling between blanks. -/
def IsSpelled
    (s : Spelling)
    (text : String) : Prop :=
  ∃ before after,
    (∀ c ∈ before, isBlank c = true) ∧
    (∀ c ∈ after, isBlank c = true) ∧
    text.toList = before ++ s.text ++ after

theorem isBlank_of_isPart
    {c : Char}
    (h : isPart c = true) :
    isBlank c = false := by
  rcases Bool.or_eq_true_iff.mp h with hdigit | hmark
  · exact isBlank_of_isDigitChar hdigit
  · simp only [List.contains_cons, List.contains_nil, Bool.or_eq_true, beq_iff_eq,
      Bool.false_eq_true, or_false] at hmark
    rcases hmark with rfl | rfl | rfl | rfl | rfl <;> decide

/-- The texts that are read are spellings between blanks. -/
theorem read?_eq_some_iff
    {text : String}
    {n : Numeral} :
    read? text = some n ↔ ∃ s, IsSpelled s text ∧ s.numeral = n := by
  constructor
  · intro h
    obtain ⟨s, hs⟩ := exists_spelling h
    obtain ⟨before, after, hbefore, hafter, htext⟩ := exists_trimmed_eq text.toList
    refine ⟨s, ⟨before, after, hbefore, hafter, hs ▸ htext⟩, ?_⟩
    rw [read?, ← hs, s.ofChars?_text] at h
    exact Option.some.inj h
  · rintro ⟨s, ⟨before, after, hbefore, hafter, htext⟩, rfl⟩
    have hread := s.ofChars?_text
    have hne : s.text ≠ [] := by
      intro hempty
      rw [hempty] at hread
      cases hread
    have htrimmed : IsTrimmed s.text :=
      isTrimmed_of_forall fun c hc => isBlank_of_isPart (isPart_of_ofChars? hread c hc)
    rw [read?, htext, trimmed_append hbefore hafter htrimmed hne, hread]

end Blanks

end Numeral

end Turnstile
