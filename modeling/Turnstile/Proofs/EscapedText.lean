import Mathlib.Data.List.Basic
import Turnstile.Net.Percent
import Turnstile.Proofs.Pieces
import Turnstile.Proofs.QuotedText

/-!
# Escaped texts

An escaped text reads back as the text, whichever characters it has: the bytes of a
character are read as that character, an escape as its byte, and all of an escaped text
is one stretch of ASCII characters.  What an escaped text consists of is none of the
characters that divide a URL.

**Results.**
* `Utf8.decodeLossy_encode`, `Utf8.decode?_encode`: the bytes of characters read back.
* `Percent.decode_encodeChars`: so do escaped texts, also with separators between them
  (`Percent.decode_intercalate`).
* `Percent.isEscapedChar_of_mem_encodeChars`: the characters of an escaped text.
-/

namespace Turnstile

section Bytes

namespace Utf8

/-- The bytes of a character are read as the character, whatever follows them. -/
theorem step_encodeChar
    (c : Char) :
    ∃ first more, encodeChar c = first :: more ∧
      ∀ rest, step first (more ++ rest) = (some c, rest) := by
  have hvalid := Json.isValidChar_toNat c
  have hcode : ∀ n, c.toNat = n → Char.ofNat n = c :=
    fun n hn => (Json.eq_ofNat_of_toNat_eq hn).symm
  unfold encodeChar
  simp only
  -- One case for each number of bytes; surrogates, which no character has, are ruled out.
  by_cases hone : c.toNat < 0x80
  · rw [if_pos hone]
    refine ⟨_, _, rfl, fun rest => ?_⟩
    unfold step
    rw [if_pos hone, hcode _ rfl, List.nil_append]
  rw [if_neg hone]
  by_cases htwo : c.toNat < 0x800
  · rw [if_pos htwo]
    refine ⟨_, _, rfl, fun rest => ?_⟩
    have hsecond : isSecond (0xC0 + c.toNat / 64) (0x80 + c.toNat % 64) = true := by
      simp [isSecond, isTail]
      omega
    unfold step
    rw [if_neg (by omega), if_pos (by simp; omega)]
    simp only [List.cons_append, List.nil_append, hsecond, if_true]
    rw [hcode _ (by omega)]
  rw [if_neg htwo]
  by_cases hthree : c.toNat < 0x10000
  · rw [if_pos hthree]
    refine ⟨_, _, rfl, fun rest => ?_⟩
    have hsecond : isSecond (0xE0 + c.toNat / 4096) (0x80 + c.toNat / 64 % 64) = true := by
      simp [isSecond, isTail]
      omega
    have htail : isTail (0x80 + c.toNat % 64) = true := by
      simp [isTail]
      omega
    unfold step
    rw [if_neg (by omega), if_neg (by simp), if_pos (by simp; omega)]
    simp only [List.cons_append, List.nil_append, hsecond, htail, if_true]
    rw [hcode _ (by omega)]
  · rw [if_neg hthree]
    refine ⟨_, _, rfl, fun rest => ?_⟩
    have hsecond : isSecond (0xF0 + c.toNat / 262144) (0x80 + c.toNat / 4096 % 64) = true := by
      simp [isSecond, isTail]
      omega
    have hthird : isTail (0x80 + c.toNat / 64 % 64) = true := by
      simp [isTail]
      omega
    have hfourth : isTail (0x80 + c.toNat % 64) = true := by
      simp [isTail]
      omega
    unfold step
    rw [if_neg (by omega), if_neg (by simp; omega), if_neg (by simp),
      if_pos (by simp; omega)]
    simp only [List.cons_append, List.nil_append, hsecond, hthird, hfourth, if_true]
    rw [hcode _ (by omega)]

theorem pieces_encodeChar_append
    (c : Char)
    (rest : List Nat) :
    pieces (encodeChar c ++ rest) = some c :: pieces rest := by
  obtain ⟨first, more, hencoded, hstep⟩ := step_encodeChar c
  rw [hencoded, List.cons_append, pieces, hstep]

theorem pieces_encode
    (cs : List Char) :
    pieces (encode cs) = cs.map some := by
  induction cs with
  | nil =>
      rw [encode, List.flatMap_nil, pieces, List.map_nil]
  | cons c rest ih =>
      rw [encode] at ih ⊢
      rw [List.flatMap_cons, pieces_encodeChar_append, ih, List.map_cons]

/-- The bytes of characters read back. -/
theorem decodeLossy_encode
    (cs : List Char) :
    decodeLossy (encode cs) = cs := by
  rw [decodeLossy, pieces_encode, List.map_map]
  simp [Function.comp_def]

theorem decode?_encode
    (cs : List Char) :
    decode? (encode cs) = some cs := by
  rw [decode?, pieces_encode]
  induction cs with
  | nil => rfl
  | cons c rest ih => rw [List.map_cons, List.mapM_cons, ih]; rfl

theorem lt_of_mem_encode
    {b : Nat}
    {cs : List Char}
    (h : b ∈ encode cs) :
    b < 256 := by
  obtain ⟨c, -, hb⟩ := List.mem_flatMap.mp h
  have hvalid := Json.isValidChar_toNat c
  unfold encodeChar at hb
  simp only at hb
  split at hb
  · simp at hb
    omega
  split at hb
  · simp at hb
    omega
  split at hb
  · simp at hb
    omega
  · simp at hb
    omega

end Utf8

end Bytes

namespace Percent

section Escapes

theorem hexDigit?_hexChar :
    ∀ n < 16, Json.hexDigit? (hexChar n) = some n := by
  decide

theorem bytes_cons_of_ne
    {c : Char}
    (h : c ≠ '%')
    (rest : List Char) :
    bytes (c :: rest) = c.toNat :: bytes rest := by
  rw [bytes.eq_def]
  split
  · rename_i heq
    exact absurd (List.cons.inj heq).1 h
  · rename_i heq
    obtain ⟨rfl, rfl⟩ := List.cons.inj heq
    rfl
  · rename_i heq
    cases heq

theorem toNat_ofNat
    {b : Nat}
    (hbound : b < 256) :
    (Char.ofNat b).toNat = b := by
  unfold Char.ofNat
  rw [dif_pos (.inl (by omega))]
  rfl

/-- A byte that is kept is not the sign of an escape. -/
theorem ofNat_ne_of_isKept
    {b : Nat}
    (hbound : b < 256)
    (h : isKept b = true) :
    Char.ofNat b ≠ '%' := by
  intro heq
  have hcode := toNat_ofNat hbound
  rw [heq] at hcode
  subst hcode
  cases h

/-- An escape is read as its byte. -/
theorem bytes_encodeByte_append
    {b : Nat}
    (hbound : b < 256)
    (rest : List Char) :
    bytes (encodeByte b ++ rest) = b :: bytes rest := by
  unfold encodeByte
  cases hkept : isKept b with
  | true =>
      rw [if_pos rfl, List.singleton_append, bytes_cons_of_ne (ofNat_ne_of_isKept hbound hkept),
        toNat_ofNat hbound]
  | false =>
      simp only [Bool.false_eq_true, if_false, List.cons_append, List.nil_append]
      rw [bytes]
      simp only [hexDigit?_hexChar _ (by omega : b / 16 < 16),
        hexDigit?_hexChar _ (by omega : b % 16 < 16), Nat.div_add_mod]

/-- So are escapes one after another, whatever follows them. -/
theorem bytes_flatMap_encodeByte_append
    {bs : List Nat}
    (h : ∀ b ∈ bs, b < 256)
    (rest : List Char) :
    bytes (bs.flatMap encodeByte ++ rest) = bs ++ bytes rest := by
  induction bs with
  | nil =>
      rfl
  | cons b more ih =>
      rw [List.forall_mem_cons] at h
      rw [List.flatMap_cons, List.append_assoc, bytes_encodeByte_append h.1, ih h.2,
        List.cons_append]

theorem bytes_encodeChars_append
    (cs rest : List Char) :
    bytes (encodeChars cs ++ rest) = Utf8.encode cs ++ bytes rest :=
  bytes_flatMap_encodeByte_append (fun _ hb => Utf8.lt_of_mem_encode hb) rest

end Escapes

section Texts

/-- A character that an escaped text may have. -/
def isEscapedChar
    (c : Char) : Bool :=
  isKept c.toNat || c == '%'

theorem isKept_hexChar :
    ∀ n < 16, isKept (hexChar n).toNat = true := by
  decide

theorem isEscapedChar_of_mem_encodeByte
    {b : Nat}
    {c : Char}
    (hbound : b < 256)
    (h : c ∈ encodeByte b) :
    isEscapedChar c = true := by
  unfold encodeByte at h
  rw [isEscapedChar, Bool.or_eq_true, beq_iff_eq]
  cases hkept : isKept b with
  | true =>
      rw [hkept, if_pos rfl, List.mem_singleton] at h
      subst h
      rw [toNat_ofNat hbound]
      exact .inl hkept
  | false =>
      simp only [hkept, Bool.false_eq_true, if_false, List.mem_cons, List.not_mem_nil,
        or_false] at h
      rcases h with rfl | rfl | rfl
      · exact .inr rfl
      · exact .inl (isKept_hexChar _ (by omega))
      · exact .inl (isKept_hexChar _ (by omega))

/-- The characters of an escaped text. -/
theorem isEscapedChar_of_mem_encodeChars
    {c : Char}
    {cs : List Char}
    (h : c ∈ encodeChars cs) :
    isEscapedChar c = true := by
  obtain ⟨b, hb, hc⟩ := List.mem_flatMap.mp h
  exact isEscapedChar_of_mem_encodeByte (Utf8.lt_of_mem_encode hb) hc

/-- Characters that divide a URL are not in an escaped text. -/
theorem not_mem_encodeChars
    {c : Char}
    (h : isEscapedChar c = false)
    (cs : List Char) :
    c ∉ encodeChars cs := by
  intro hmem
  rw [isEscapedChar_of_mem_encodeChars hmem] at h
  cases h

theorem length_encodeByte_pos
    (b : Nat) :
    0 < (encodeByte b).length := by
  unfold encodeByte
  split
  · exact Nat.one_pos
  · exact Nat.succ_pos 2

/-- Escaping makes no text shorter. -/
theorem length_le_length_encodeChars
    (cs : List Char) :
    cs.length ≤ (encodeChars cs).length := by
  have hbytes : ∀ bs : List Nat, bs.length ≤ (bs.flatMap encodeByte).length := by
    intro bs
    induction bs with
    | nil =>
        exact Nat.zero_le _
    | cons b rest ih =>
        have hpos := length_encodeByte_pos b
        rw [List.flatMap_cons, List.length_append, List.length_cons]
        omega
  have hchars : cs.length ≤ (Utf8.encode cs).length := by
    induction cs with
    | nil =>
        exact Nat.zero_le _
    | cons c rest ih =>
        obtain ⟨first, more, hencoded, -⟩ := Utf8.step_encodeChar c
        rw [Utf8.encode] at ih ⊢
        rw [List.flatMap_cons, hencoded, List.length_append, List.length_cons, List.length_cons]
        omega
  exact Nat.le_trans hchars (hbytes _)

theorem isAscii_of_isEscapedChar
    {c : Char}
    (h : isEscapedChar c = true) :
    isAscii c = true := by
  simp only [isEscapedChar, Bool.or_eq_true, beq_iff_eq] at h
  rcases h with h | rfl
  · simp only [isKept, Bool.or_eq_true, Bool.and_eq_true, decide_eq_true_eq, beq_iff_eq] at h
    simp only [isAscii, decide_eq_true_eq]
    omega
  · rfl

/-- Text in ASCII is one stretch. -/
theorem decode_of_isAscii
    {cs : List Char}
    (h : ∀ c ∈ cs, isAscii c = true) :
    decode cs = Utf8.decodeLossy (bytes cs) := by
  suffices hafter : ∀ stretch,
      decodeAfter stretch cs = Utf8.decodeLossy (bytes (stretch.reverse ++ cs)) from hafter []
  induction cs with
  | nil =>
      intro stretch
      rw [decodeAfter, List.append_nil]
  | cons c rest ih =>
      rw [List.forall_mem_cons] at h
      intro stretch
      rw [decodeAfter, if_pos h.1, ih h.2, List.reverse_cons, List.append_assoc,
        List.singleton_append]

/-- Escaped texts with ASCII separators between them read as the texts with these between them. -/
theorem decode_intercalate
    {separator : Char}
    (hascii : isAscii separator = true)
    (hescape : separator ≠ '%')
    (texts : List (List Char)) :
    decode ([separator].intercalate (texts.map encodeChars)) = [separator].intercalate texts := by
  have hbytes : bytes ([separator].intercalate (texts.map encodeChars)) =
      Utf8.encode ([separator].intercalate texts) := by
    induction texts with
    | nil =>
        rfl
    | cons first others ih =>
        cases others with
        | nil =>
            have hfirst := bytes_encodeChars_append first []
            simpa [bytes] using hfirst
        | cons second more =>
            have hseparator : Utf8.encodeChar separator = [separator.toNat] := by
              rw [isAscii, decide_eq_true_eq] at hascii
              simp [Utf8.encodeChar, hascii]
            rw [List.map_cons] at ih ⊢
            rw [List.map_cons, List.intercalate_cons_cons, List.intercalate_cons_cons,
              List.append_assoc, List.append_assoc, List.singleton_append, List.singleton_append,
              bytes_encodeChars_append, bytes_cons_of_ne hescape, ih, Utf8.encode, Utf8.encode,
              Utf8.encode, List.flatMap_append, List.flatMap_cons, hseparator,
              List.singleton_append]
  rw [decode_of_isAscii, hbytes, Utf8.decodeLossy_encode]
  intro c hc
  rcases Text.eq_or_mem_of_mem_intercalate hc with rfl | ⟨part, hpart, hmem⟩
  · exact hascii
  · obtain ⟨text, -, rfl⟩ := List.mem_map.mp hpart
    exact isAscii_of_isEscapedChar (isEscapedChar_of_mem_encodeChars hmem)

/-- **Escaped texts read back.** -/
theorem decode_encodeChars
    (cs : List Char) :
    decode (encodeChars cs) = cs := by
  have h : decode (['/'].intercalate ([cs].map encodeChars)) = ['/'].intercalate [cs] :=
    decode_intercalate rfl (by decide) [cs]
  simpa using h

end Texts

end Percent

end Turnstile
