import Turnstile.Proofs.Containment
import Turnstile.Proofs.Pieces

/-!
# Lowercase texts are kept

Lowercase is not changed by taking it again: a character that comes out of it has no lowercase
form but itself, is no capital sigma, whose form would depend on its neighbours, and no
dotted capital.  Blanks come out of blanks only, so that a text without blanks around it has
none in lowercase.

**Results.**
* `shifted_eq_or_mem`: a search in a table of runs gives the code itself or one of a run.
* `lowerForm_spec`: what comes out of a character.
* `lowerAfter_of_isLowered`: lowercase of lowercase.
* `isTrimmed_lowerAfter`: lowercase brings no blanks to the ends of a text.
-/

namespace Turnstile
namespace Text

section Runs

/-- The codes that a run of a table gives, in order. -/
def runImages
    (run : Nat × Nat × Nat × Int) : List Nat :=
  (List.range ((run.2.1 - run.1) / run.2.2.1 + 1)).map fun place =>
    (((run.1 + run.2.2.1 * place : Nat) : Int) + run.2.2.2).toNat

/-- A code that lies in a run has its image among those of the run. -/
theorem mem_runImages
    {first last stride code : Nat}
    (hfirst : first ≤ code)
    (hlast : code ≤ last)
    (hstride : (code - first) % stride = 0)
    (shift : Int) :
    ((code : Int) + shift).toNat ∈ runImages (first, last, stride, shift) := by
  have hplace := Nat.div_add_mod (code - first) stride
  have hcode : first + stride * ((code - first) / stride) = code := by omega
  refine List.mem_map.mpr ⟨(code - first) / stride, ?_, ?_⟩
  · have hplaces : (code - first) / stride ≤ (last - first) / stride :=
      Nat.div_le_div_right (by omega)
    exact List.mem_range.mpr (Nat.lt_succ_of_le hplaces)
  · simp only [hcode]

/-- The search in a table gives the code itself, or one that a run gives. -/
theorem shifted_eq_or_mem
    (runs : Array (Nat × Nat × Nat × Int))
    (code steps low high : Nat) :
    shifted runs code steps low high = code ∨
      ∃ run ∈ runs.toList, shifted runs code steps low high ∈ runImages run := by
  induction steps generalizing low high with
  | zero =>
      exact .inl rfl
  | succ steps ih =>
      simp only [shifted]
      by_cases hempty : high ≤ low
      · rw [if_pos hempty]
        exact .inl rfl
      rw [if_neg hempty]
      cases hrun : runs[(low + high) / 2]? with
      | none =>
          exact .inl rfl
      | some run =>
          obtain ⟨first, last, stride, shift⟩ := run
          simp only
          by_cases hfirst : code < first
          · rw [if_pos hfirst]
            exact ih _ _
          by_cases hlast : last < code
          · rw [if_neg hfirst, if_pos hlast]
            exact ih _ _
          rw [if_neg hfirst, if_neg hlast]
          by_cases hstride : (code - first) % stride = 0
          · rw [if_pos hstride]
            refine .inr ⟨_, Array.mem_toList_iff.mpr (Array.mem_of_getElem? hrun), ?_⟩
            exact mem_runImages (by omega) (by omega) hstride shift
          · rw [if_neg hstride]
            exact .inl rfl

/-- A code that is its own lowercase and stands for no character that is treated apart. -/
def isSettledCode
    (code : Nat) : Bool :=
  simpleLower code == code && code != 931 && code != 304 && code != 95 && !isBlankCode code

/-- The runs of the lowercase table give settled codes only. -/
theorem isSettledCode_of_mem_runImages : ∀ run ∈ lowerRuns.toList, ∀ code ∈ runImages run,
    isSettledCode code = true := by
  have hall : (lowerRuns.toList.all fun run => (runImages run).all isSettledCode) = true := by
    decide +kernel
  intro run hrun code hcode
  exact List.all_eq_true.mp (List.all_eq_true.mp hall run hrun) code hcode

theorem isSettledCode_asciiLower : ∀ code < 128,
    asciiLower code = code ∨ isSettledCode (asciiLower code) = true := by
  decide +kernel

/-- The lowercase of a code is the code itself or a settled one. -/
theorem simpleLower_eq_or_isSettledCode
    (code : Nat) :
    simpleLower code = code ∨ isSettledCode (simpleLower code) = true := by
  rw [simpleLower]
  split
  · rename_i hascii
    exact isSettledCode_asciiLower code hascii
  · split
    · exact .inr (by decide)
    · rcases shifted_eq_or_mem lowerRuns code _ _ _ with hsame | ⟨run, hrun, hcode⟩
      · exact .inl hsame
      · exact .inr (isSettledCode_of_mem_runImages run hrun _ hcode)

end Runs

section Characters

variable {c d : Char} {before after cs : List Char}

/-- A character that is its own lowercase form wherever it stands. -/
structure IsLowered
    (c : Char) : Prop where
  ne_sigma : c ≠ 'Σ'
  ne_dotted : c ≠ 'İ'
  settled : Char.ofNat (simpleLower c.toNat) = c

theorem lowerForm_of_isLowered
    (h : IsLowered c)
    (before after : List Char) :
    lowerForm before c after = [c] := by
  rw [lowerForm, if_neg h.ne_sigma, if_neg h.ne_dotted, h.settled]

/-- The character of a settled code is its own lowercase form, no blank and no underscore. -/
theorem isLowered_ofNat
    {code : Nat}
    (h : isSettledCode code = true) :
    IsLowered (Char.ofNat code) ∧ isBlank (Char.ofNat code) = false ∧ Char.ofNat code ≠ '_' := by
  simp only [isSettledCode, Bool.and_eq_true, beq_iff_eq, bne_iff_ne, ne_eq, Bool.not_eq_true'] at h
  obtain ⟨⟨⟨⟨hlower, hsigma⟩, hdotted⟩, hdash⟩, hblank⟩ := h
  by_cases hvalid : code.isValidChar
  · have hcode : (Char.ofNat code).toNat = code := by
      rw [Char.ofNat, dif_pos hvalid]
      rfl
    have hne : ∀ c : Char, code ≠ c.toNat → Char.ofNat code ≠ c := by
      rintro c hc rfl
      exact hc hcode.symm
    refine ⟨⟨hne 'Σ' hsigma, hne 'İ' hdotted, by rw [hcode, hlower]⟩, ?_, hne '_' hdash⟩
    rw [isBlank, hcode, hblank]
  · have hzero : Char.ofNat code = Char.ofNat 0 := by
      rw [Char.ofNat, dif_neg hvalid]
      rfl
    rw [hzero]
    exact ⟨⟨by decide, by decide, by decide⟩, by decide, by decide⟩

/--
What comes out of a character is lowered.  It is the character itself, or no blank and no
underscore.
-/
theorem lowerForm_spec
    (h : d ∈ lowerForm before c after) :
    IsLowered d ∧ (d = c ∨ isBlank d = false ∧ d ≠ '_') := by
  have hcode : ∀ code, isSettledCode code = true →
      IsLowered (Char.ofNat code) ∧
        (Char.ofNat code = c ∨ isBlank (Char.ofNat code) = false ∧ Char.ofNat code ≠ '_') :=
    fun code hsettled => (isLowered_ofNat hsettled).imp_right .inr
  rw [lowerForm] at h
  split at h
  · rw [List.mem_singleton] at h
    split at h
    · exact h ▸ hcode 962 (by decide +kernel)
    · exact h ▸ hcode 963 (by decide +kernel)
  · rename_i hsigma
    split at h
    · rw [List.mem_pair] at h
      rcases h with rfl | rfl
      · exact hcode 105 (by decide +kernel)
      · exact hcode 775 (by decide +kernel)
    · rename_i hdotted
      rw [List.mem_singleton] at h
      rcases simpleLower_eq_or_isSettledCode c.toNat with hsame | hsettled
      · have hc : Char.ofNat (simpleLower c.toNat) = c := by rw [hsame, Char.ofNat_toNat]
        obtain rfl : d = c := h.trans hc
        exact ⟨⟨hsigma, hdotted, hc⟩, .inl rfl⟩
      · exact h ▸ hcode _ hsettled

theorem lowerForm_ne_nil
    (before : List Char)
    (c : Char)
    (after : List Char) :
    lowerForm before c after ≠ [] := by
  unfold lowerForm
  split_ifs <;> simp

/-- Blanks come out of blanks only. -/
theorem isBlank_of_mem_lowerForm
    (h : d ∈ lowerForm before c after)
    (hc : isBlank c = false) :
    isBlank d = false := by
  obtain ⟨-, rfl | ⟨hd, -⟩⟩ := lowerForm_spec h
  · exact hc
  · exact hd

end Characters

section Lowercase

variable {before cs : List Char}

theorem isLowered_of_mem_lowerAfter
    {d : Char}
    (h : d ∈ lowerAfter before cs) :
    IsLowered d := by
  induction cs generalizing before with
  | nil =>
      cases h
  | cons c rest ih =>
      rcases List.mem_append.mp h with hform | hmore
      · exact (lowerForm_spec hform).1
      · exact ih hmore

theorem lowerAfter_of_isLowered
    (h : ∀ c ∈ cs, IsLowered c)
    (before : List Char) :
    lowerAfter before cs = cs := by
  induction cs generalizing before with
  | nil =>
      rfl
  | cons c rest ih =>
      rw [List.forall_mem_cons] at h
      rw [lowerAfter, lowerForm_of_isLowered h.1, ih h.2, List.singleton_append]

/-- Lowercase brings no blanks to the ends of a text. -/
theorem isTrimmed_lowerAfter
    (h : IsTrimmed cs)
    (before : List Char) :
    IsTrimmed (lowerAfter before cs) where
  start := by
    cases cs with
    | nil =>
        exact h.start
    | cons c rest =>
        intro d hd
        rw [lowerAfter, List.head?_append_of_ne_nil _ (lowerForm_ne_nil _ _ _)] at hd
        exact isBlank_of_mem_lowerForm (List.mem_of_mem_head? hd) (h.start c rfl)
  finish := by
    rcases List.eq_nil_or_concat cs with rfl | ⟨front, c, rfl⟩
    · exact h.start
    · intro d hd
      have hc : isBlank c = false := h.finish c (by simp)
      rw [List.concat_eq_append, lowerAfter_append, lowerAfter, lowerAfter, List.append_nil,
        List.reverse_append, List.head?_append_of_ne_nil _ (by simpa using lowerForm_ne_nil _ _ _)]
        at hd
      exact isBlank_of_mem_lowerForm (List.mem_reverse.mp (List.mem_of_mem_head? hd)) hc

end Lowercase
end Text
end Turnstile
