import Turnstile.Net.Address
import Turnstile.Proofs.Pieces

/-!
# Local and public addresses

Whether an address is local and whether it is public are decided apart, of texts and with
lists of networks of their own: a local address may have blanks around it, a public one may
not.  Still no text is both.  Blanks around a version 4 address leave nothing that can be
read; a version 6 address keeps its colons when blanks are dropped, so that what remains is
not of version 4, and only version 4 addresses are local, but for one.

**Results.**
* `isTrimmed_of_number4?`, `colon_mem_of_read?`: what texts of both versions look like.
* `isPublic_of_isLocal`: an address of a local network is not public.
* `not_isPublicText_of_isLocalText`: so it is with texts.
-/

namespace Turnstile
namespace Address

section Texts

variable {cs : List Char} {n : Nat}

theorem isDecimal_of_octet?
    (h : octet? cs = some n) :
    ∀ c ∈ cs, Json.isDecimal c = true := by
  unfold octet? at h
  split at h
  · cases h
  · rename_i hform
    simp only [Bool.or_eq_true, not_or, Bool.not_eq_true, Bool.not_eq_false'] at hform
    exact List.all_eq_true.mp hform.2

/-- The text of a version 4 address holds digits and points only. -/
theorem isPointOrDecimal_of_number4?
    (h : number4? cs = some n) :
    ∀ c ∈ cs, c = '.' ∨ Json.isDecimal c = true := by
  have hoctets : ∀ piece ∈ Text.pieces '.' cs, ∃ value, octet? piece = some value := by
    unfold number4? at h
    split at h
    · rename_i a b c d hvalues
      intro piece hpiece
      have hmem := List.mem_map_of_mem (f := octet?) hpiece
      rw [hvalues] at hmem
      simp only [List.mem_cons, List.not_mem_nil, or_false] at hmem
      rcases hmem with hvalue | hvalue | hvalue | hvalue
      all_goals exact ⟨_, hvalue⟩
    · cases h
  intro c hc
  rw [← Text.intercalate_pieces '.' cs] at hc
  rcases Text.eq_or_mem_of_mem_intercalate hc with hpoint | ⟨piece, hpiece, hmem⟩
  · exact .inl hpoint
  · obtain ⟨value, hvalue⟩ := hoctets piece hpiece
    exact .inr (isDecimal_of_octet? hvalue c hmem)

theorem isBlank_of_isDecimal
    {c : Char}
    (h : Json.isDecimal c = true) :
    Text.isBlank c = false := by
  simp only [Json.isDecimal, Bool.and_eq_true, decide_eq_true_eq] at h
  have hlow : 48 ≤ c.toNat := h.1
  have hhigh : c.toNat ≤ 57 := h.2
  simp [Text.isBlank, Text.isBlankCode]
  omega

/-- There are no blanks around the text of a version 4 address. -/
theorem isTrimmed_of_number4?
    (h : number4? cs = some n) :
    Text.IsTrimmed cs := by
  apply Text.isTrimmed_of_forall
  intro c hc
  rcases isPointOrDecimal_of_number4? h c hc with rfl | hdecimal
  · rfl
  · exact isBlank_of_isDecimal hdecimal

theorem number4?_of_read?
    (h : read? cs = some (.v4 n)) :
    number4? cs = some n := by
  unfold read? at h
  split at h
  · rename_i m hm
    obtain rfl : m = n := by simpa using h
    exact hm
  · split at h
    · cases h
    · obtain ⟨m, -, hm⟩ := Option.map_eq_some_iff.mp h
      cases hm

theorem colon_mem_of_number6?
    (h : number6? cs = some n) :
    ':' ∈ cs := by
  by_contra hcolon
  have hone : Text.pieces ':' cs = [cs] := Text.pieces_of_not_mem hcolon
  have hparts : parts? cs = none := by
    simp [parts?, hone]
  simp [number6?, hparts] at h

theorem mem_of_mem_withoutScope?
    {address : List Char}
    (h : withoutScope? cs = some address)
    {c : Char}
    (hc : c ∈ address) :
    c ∈ cs := by
  have hbefore : address = (Text.cut '%' cs).1 := by
    unfold withoutScope? at h
    split at h
    · simp_all
    · split at h
      · cases h
      · simp_all
  rw [hbefore, Text.fst_cut] at hc
  exact (List.takeWhile_subset _) hc

/-- There are colons in the text of a version 6 address. -/
theorem colon_mem_of_read?
    (h : read? cs = some (.v6 n)) :
    ':' ∈ cs := by
  unfold read? at h
  split at h
  · simp at h
  · split at h
    · cases h
    · obtain ⟨m, hm, -⟩ := Option.map_eq_some_iff.mp h
      obtain ⟨address, haddress, hnumber⟩ := Option.bind_eq_some_iff.mp hm
      exact mem_of_mem_withoutScope? haddress (colon_mem_of_number6? hnumber)

end Texts

section Networks

variable {n : Nat}

/-- An address of a local network is private and no exception from that. -/
theorem isPublic_of_isLocal
    (h : inSome localNetworks n = true) :
    isPublic (.v4 n) = false := by
  have hprivate : inSome private4 n = true := by
    rw [inSome, List.any_eq_true] at h ⊢
    obtain ⟨net, hnet, hn⟩ := h
    have hsub : ∀ net ∈ localNetworks, net ∈ private4 := by
      simp [localNetworks, private4]
    exact ⟨net, hsub net hnet, hn⟩
  have hordinary : inSome privateExceptions4 n = false := by
    simp only [inSome, localNetworks, privateExceptions4, net4, quad, Network.contains,
      List.any_cons, List.any_nil, Bool.or_false, Bool.or_eq_true, beq_iff_eq,
      Bool.or_eq_false_iff, beq_eq_false_iff_ne, ne_eq, Nat.pow_eq, Nat.reduceSub, Nat.reducePow,
      Nat.reduceMul, Nat.reduceAdd, Nat.reduceDiv] at h ⊢
    omega
  simp [isPublic, hprivate, hordinary]

end Networks

section Classes

/-- **No text is both local and public.** -/
theorem not_isPublicText_of_isLocalText
    {s : String}
    (h : isLocalText s = true) :
    isPublicText s = false := by
  rw [isLocalText, Bool.or_eq_true, Bool.or_eq_true, beq_iff_eq, beq_iff_eq] at h
  rcases h with (rfl | rfl) | h
  · decide
  · decide
  · split at h
    · rename_i n hread
      have hfour := number4?_of_read? hread
      rw [isPublicText, Option.any_eq_false]
      intro address haddress
      cases address with
      | v4 m =>
          have hown := number4?_of_read? haddress
          rw [Text.trimmed_eq_self (isTrimmed_of_number4? hown), hown] at hfour
          rw [Option.some.inj hfour]
          exact isPublic_of_isLocal h
      | v6 m =>
          -- dropping blanks leaves the colons, which a version 4 address does not have
          have hcolon := Text.mem_trimmed (colon_mem_of_read? haddress) (by decide)
          exact absurd (isPointOrDecimal_of_number4? hfour ':' hcolon) (by decide)
    · cases h

end Classes

end Address
end Turnstile
