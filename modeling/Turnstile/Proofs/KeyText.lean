import Turnstile.Crypto.Base64

/-!
# Texts of keys

A key is decoded if its text consists of whole groups of four, the last filled up with padding.
Digits that are whole groups already may also be followed by padding: such padding completes
nothing and is passed over, however much of it there is.

**Results.**
* `exists_decodeFrom_iff`: which texts complete an open group.
* `exists_decode_iff`: which texts are decoded.
-/

namespace Turnstile
namespace Base64

section Groups

/-- All characters are digits. -/
def AreDigits
    (cs : List Char) : Prop :=
  ∀ c ∈ cs, (digit? c).isSome = true

/-- The text is digits and padding after them, in such numbers. -/
def IsPadded
    (allowed : Nat → Nat → Prop)
    (cs : List Char) : Prop :=
  ∃ digits padding, cs = digits ++ List.replicate padding '=' ∧ AreDigits digits ∧
    allowed digits.length padding

variable {allowed : Nat → Nat → Prop} {c : Char} {rest : List Char}

theorem exists_padding_cons_iff
    {p : Nat → Prop} :
    (∃ padding, c :: rest = List.replicate padding '=' ∧ p padding) ↔
      c = '=' ∧ ∃ padding, rest = List.replicate padding '=' ∧ p (padding + 1) := by
  constructor
  · rintro ⟨padding, hcs, h⟩
    cases padding with
    | zero => cases hcs
    | succ padding =>
        obtain ⟨rfl, hrest⟩ := List.cons.inj hcs
        exact ⟨rfl, padding, hrest, h⟩
  · rintro ⟨rfl, padding, rfl, h⟩
    exact ⟨padding + 1, rfl, h⟩

theorem isPadded_nil :
    IsPadded allowed [] ↔ allowed 0 0 := by
  constructor
  · rintro ⟨digits, padding, hcs, -, h⟩
    obtain ⟨rfl, hpadding⟩ := List.append_eq_nil_iff.mp hcs.symm
    obtain rfl := List.replicate_eq_nil_iff '=' |>.mp hpadding
    exact h
  · intro h
    exact ⟨[], 0, rfl, List.forall_mem_nil _, h⟩

/-- After padding comes nothing but padding. -/
theorem isPadded_padding :
    IsPadded allowed ('=' :: rest) ↔
      ∃ padding, '=' :: rest = List.replicate padding '=' ∧ allowed 0 padding := by
  constructor
  · rintro ⟨digits, padding, hcs, hdigits, h⟩
    cases digits with
    | nil => exact ⟨padding, hcs, h⟩
    | cons d digits =>
        obtain ⟨rfl, -⟩ := List.cons.inj hcs
        exact absurd (hdigits '=' List.mem_cons_self) (by decide)
  · rintro ⟨padding, hcs, h⟩
    exact ⟨[], padding, hcs, List.forall_mem_nil _, h⟩

/-- A digit counts for the digits. -/
theorem isPadded_digit
    (hc : c ≠ '=') :
    IsPadded allowed (c :: rest) ↔
      (digit? c).isSome = true ∧ IsPadded (fun digits => allowed (digits + 1)) rest := by
  constructor
  · rintro ⟨digits, padding, hcs, hdigits, h⟩
    cases digits with
    | nil =>
        cases padding with
        | zero => cases hcs
        | succ padding => exact absurd (List.cons.inj hcs).1 hc
    | cons d digits =>
        obtain ⟨rfl, rfl⟩ := List.cons.inj hcs
        rw [AreDigits, List.forall_mem_cons] at hdigits
        exact ⟨hdigits.1, digits, padding, rfl, hdigits.2, h⟩
  · rintro ⟨hdigit, digits, padding, rfl, hdigits, h⟩
    exact ⟨c :: digits, padding, rfl, List.forall_mem_cons.mpr ⟨hdigit, hdigits⟩, h⟩

theorem isPadded_congr
    {allowed' : Nat → Nat → Prop}
    (h : ∀ digits padding, allowed digits padding ↔ allowed' digits padding)
    {cs : List Char} :
    IsPadded allowed cs ↔ IsPadded allowed' cs := by
  simp only [IsPadded, h]

theorem isPadded_or
    {allowed' : Nat → Nat → Prop}
    {cs : List Char} :
    IsPadded allowed cs ∨ IsPadded allowed' cs ↔
      IsPadded (fun digits padding => allowed digits padding ∨ allowed' digits padding) cs := by
  constructor
  · rintro (⟨digits, padding, hcs, hdigits, h⟩ | ⟨digits, padding, hcs, hdigits, h⟩)
    · exact ⟨digits, padding, hcs, hdigits, .inl h⟩
    · exact ⟨digits, padding, hcs, hdigits, .inr h⟩
  · rintro ⟨digits, padding, hcs, hdigits, h | h⟩
    · exact .inl ⟨digits, padding, hcs, hdigits, h⟩
    · exact .inr ⟨digits, padding, hcs, hdigits, h⟩

/-- A text that does not start with padding has none without digits. -/
theorem head?_ne_and_isPadded
    {cs : List Char} :
    cs.head? ≠ some '=' ∧ IsPadded allowed cs ↔
      IsPadded (fun digits padding => (digits = 0 → padding = 0) ∧ allowed digits padding) cs := by
  constructor
  · rintro ⟨hhead, digits, padding, rfl, hdigits, h⟩
    refine ⟨digits, padding, rfl, hdigits, ?_, h⟩
    intro hnone
    obtain rfl := List.length_eq_zero_iff.mp hnone
    cases padding with
    | zero => rfl
    | succ padding => exact absurd rfl hhead
  · rintro ⟨digits, padding, rfl, hdigits, hnone, h⟩
    refine ⟨?_, digits, padding, rfl, hdigits, h⟩
    cases digits with
    | nil =>
        rw [hnone rfl]
        nofun
    | cons d digits =>
        intro hhead
        obtain rfl := Option.some.inj hhead
        exact absurd (hdigits '=' List.mem_cons_self) (by decide)

theorem toNat_le_of_isSome_digit?
    (h : (digit? c).isSome = true) :
    c.toNat ≤ 127 := by
  refine Nat.le_of_not_lt fun hlarge => ?_
  have hnone : digit? c = none := by
    simp only [digit?, Bool.and_eq_true, decide_eq_true_eq]
    rw [if_neg (by omega), if_neg (by omega), if_neg (by omega), if_neg (by omega),
      if_neg (by omega)]
  rw [hnone] at h
  cases h

/-- Digits and padding are ASCII. -/
theorem any_eq_false_of_isPadded
    {cs : List Char}
    (h : IsPadded allowed cs) :
    (cs.any fun c => decide (127 < c.toNat)) = false := by
  obtain ⟨digits, padding, rfl, hdigits, -⟩ := h
  rw [List.any_eq_false]
  intro c hc
  rw [decide_eq_true_iff, Nat.not_lt]
  rcases List.mem_append.mp hc with hdigit | hpadding
  · exact toNat_le_of_isSome_digit? (hdigits c hdigit)
  · rw [List.eq_of_mem_replicate hpadding]
    decide

end Groups

section Decoding

variable {group : List Nat} {fill : Nat}

/--
Digits, and padding after them, make whole groups: the padding completes the last group, or
the digits are whole groups themselves.
-/
def Completes
    (digits padding : Nat) : Prop :=
  digits % 4 = 0 ∨ 2 ≤ digits % 4 ∧ digits % 4 + padding = 4

theorem completes_congr
    {digits digits' : Nat}
    (h : digits % 4 = digits' % 4) :
    Completes digits = Completes digits' := by
  funext padding
  rw [Completes, Completes, h]

/-- An open group is complete at the end if it is empty. -/
theorem exists_decodeFrom_nil_iff
    (hgroup : group.length + fill < 4)
    (whole : Nat)
    (padded : Bool) :
    (∃ bytes, decodeFrom whole group padded fill [] = .ok bytes) ↔
      Completes group.length fill := by
  match group, hgroup with
  | [], _ => simp [decodeFrom, Completes]
  | [_], _ => simp [decodeFrom, Completes]
  | a :: b :: more, hgroup =>
      simp only [List.length_cons] at hgroup
      simp only [decodeFrom, Completes, List.length_cons, reduceCtorEq, exists_false, false_iff]
      omega

/-- After padding only padding is read, until it completes the group. -/
theorem exists_decodeFrom_padded_iff
    (hgroup : group.length + fill < 4)
    (whole : Nat)
    (cs : List Char) :
    (∃ bytes, decodeFrom whole group true fill cs = .ok bytes) ↔
      ∃ padding, cs = List.replicate padding '=' ∧ Completes group.length (fill + padding) := by
  induction cs generalizing fill with
  | nil =>
      rw [exists_decodeFrom_nil_iff hgroup]
      constructor
      · intro h
        exact ⟨0, rfl, h⟩
      · rintro ⟨padding, hcs, h⟩
        obtain rfl := (List.replicate_eq_nil_iff '=').mp hcs.symm
        exact h
  | cons c rest ih =>
      rw [exists_padding_cons_iff, decodeFrom]
      by_cases hc : c = '='
      · rw [if_pos hc]
        simp only [hc, true_and]
        by_cases hshort : group.length < 2
        · -- Padding completes nothing before two digits, so that the group must be empty.
          have hsame : ∀ padding, Completes group.length (fill + (padding + 1)) ↔
              Completes group.length (fill + padding) := by
            intro padding
            rw [Completes, Completes]
            omega
          simp only [hsame]
          rw [if_pos hshort, ih hgroup]
        · rw [if_neg hshort]
          by_cases hopen : group.length + fill + 1 < 4
          · have hcounts : ∀ padding, Completes group.length (fill + (padding + 1)) ↔
                Completes group.length (fill + 1 + padding) := by
              intro padding
              rw [Nat.add_comm padding 1, Nat.add_assoc]
            simp only [hcounts]
            rw [if_pos hopen, ih hopen]
          · have hlast : ∀ padding, Completes group.length (fill + (padding + 1)) ↔
                padding = 0 := by
              intro padding
              rw [Completes]
              omega
            rw [if_neg hopen]
            simp only [hlast]
            cases rest with
            | nil => simp
            | cons d rest => simp
      · rw [if_neg hc]
        cases hdigit : digit? c with
        | none => simp [hc]
        | some v => simp [hc]

/-- Which texts complete an open group. -/
theorem exists_decodeFrom_iff
    (hgroup : group.length < 4)
    (whole : Nat)
    (cs : List Char) :
    (∃ bytes, decodeFrom whole group false 0 cs = .ok bytes) ↔
      IsPadded (fun digits => Completes (group.length + digits)) cs := by
  induction cs generalizing whole group with
  | nil => rw [exists_decodeFrom_nil_iff hgroup, isPadded_nil, Nat.add_zero]
  | cons c rest ih =>
      by_cases hc : c = '='
      · have hpadded := @exists_decodeFrom_padded_iff group 0 hgroup whole ('=' :: rest)
        have hsame : decodeFrom whole group false 0 ('=' :: rest) =
            decodeFrom whole group true 0 ('=' :: rest) := by
          rw [decodeFrom, decodeFrom, if_pos rfl, if_pos rfl]
        simp only [Nat.zero_add] at hpadded
        rw [hc, hsame, hpadded, isPadded_padding, Nat.add_zero]
      · rw [decodeFrom, if_neg hc, isPadded_digit hc]
        cases hdigit : digit? c with
        | none => simp
        | some v =>
            simp only [Option.isSome_some, true_and, Bool.false_eq_true, if_false]
            by_cases hopen : group.length < 3
            · have hadd : ∀ digits, group.length + (digits + 1) =
                  (group ++ [v]).length + digits := by
                intro digits
                rw [List.length_append, List.length_singleton]
                omega
              simp only [hadd]
              rw [if_pos hopen, ih (by simpa using Nat.succ_lt_succ hopen)]
            · -- The digit completes the group, and the next one starts with no digit.
              have hnext : ∀ digits,
                  Completes (group.length + (digits + 1)) =
                    Completes (([] : List Nat).length + digits) :=
                fun digits => completes_congr (by rw [List.length_nil]; omega)
              have hrest := @ih [] (by decide) (whole + 4)
              simp only [hnext]
              rw [if_neg hopen, ← hrest]
              cases decodeFrom (whole + 4) [] false 0 rest with
              | error flaw => simp [Except.map]
              | ok more => simp [Except.map]

end Decoding

section Keys

variable {text : String}

/-- Strict base64: digits and at most two characters of padding, in whole groups of four. -/
def IsStrict
    (text : String) : Prop :=
  IsPadded (fun digits padding => padding ≤ 2 ∧ (digits + padding) % 4 = 0) text.toList

/-- Whole groups of four digits, at least one, and padding that they do not need. -/
def IsOverpadded
    (text : String) : Prop :=
  IsPadded (fun digits padding => 0 < digits ∧ 0 < padding ∧ digits % 4 = 0) text.toList

theorem length_of_isStrict
    (h : IsStrict text) :
    text.toList.length % 4 = 0 := by
  obtain ⟨digits, padding, htext, -, -, hwhole⟩ := h
  rwa [htext, List.length_append, List.length_replicate]

/-- Texts that are decoded are strict base64, but for padding after whole groups. -/
theorem exists_decode_iff :
    (∃ bytes, decode text = .ok bytes) ↔ IsStrict text ∨ IsOverpadded text := by
  have hallowed : IsStrict text ∨ IsOverpadded text ↔
      text.toList.head? ≠ some '=' ∧ IsPadded Completes text.toList := by
    rw [IsStrict, IsOverpadded, isPadded_or, head?_ne_and_isPadded]
    apply isPadded_congr
    intro digits padding
    rw [Completes]
    omega
  rw [hallowed, decode]
  by_cases hascii : (text.toList.any fun c => decide (127 < c.toNat)) = true
  · have hnot : ¬ IsPadded Completes text.toList := by
      intro h
      rw [any_eq_false_of_isPadded h] at hascii
      cases hascii
    simp [hascii, hnot]
  · rw [if_neg hascii]
    by_cases hhead : text.toList.head? = some '='
    · simp [hhead]
    · rw [if_neg hhead, exists_decodeFrom_iff (by decide)]
      simp [hhead]

end Keys

end Base64
end Turnstile
