import Turnstile.Intel.Resolver
import Turnstile.Proofs.EscapedText

/-!
# Requested URLs

Of the URL that is requested for an address, only the last segment depends on the address.
That segment consists of unreserved characters and escapes, whatever characters the address
has, and reads back as the address.  So an address adds one segment to the path and nothing
else that a URL is divided into, and no two addresses have one URL.

**Results.**
* `Percent.isSegment_encodeChars`: escaped texts are segments.
* `LookupApi.exists_url_eq`: the base is the URL of the service without its closing slashes.
* `Resolver.calls_resolve`: the requests that are made.
* `requests_differ_in_one_segment`: what an address changes in a request.
-/

namespace Turnstile

namespace Percent

section Segments

/-- A character that a URL holds as it is and that divides nothing. -/
def isUnreserved
    (c : Char) : Bool :=
  ('a' ≤ c && c ≤ 'z') || ('A' ≤ c && c ≤ 'Z') || ('0' ≤ c && c ≤ '9')
    || c == '_' || c == '.' || c == '-' || c == '~'

/-- A digit of an escape. -/
def isEscapeDigit
    (c : Char) : Bool :=
  ('0' ≤ c && c ≤ '9') || ('A' ≤ c && c ≤ 'F')

/-- Texts of unreserved characters and escapes. -/
inductive IsSegment : List Char → Prop where
  | nil : IsSegment []
  | kept {c : Char} {rest : List Char} (hc : isUnreserved c = true) (hrest : IsSegment rest) :
      IsSegment (c :: rest)
  | escaped {high low : Char} {rest : List Char} (hhigh : isEscapeDigit high = true)
      (hlow : isEscapeDigit low = true) (hrest : IsSegment rest) :
      IsSegment ('%' :: high :: low :: rest)

/-- A byte that is kept is that of an unreserved character. -/
theorem isUnreserved_ofNat
    {b : Nat}
    (hbound : b < 256)
    (hkept : isKept b = true) :
    isUnreserved (Char.ofNat b) = true := by
  have hcode : (Char.ofNat b).val.toNat = b := toNat_ofNat hbound
  simp only [isKept, Bool.or_eq_true, Bool.and_eq_true, decide_eq_true_eq, beq_iff_eq] at hkept
  rcases hkept with (((hletter | rfl) | rfl) | rfl) | rfl
  · simp only [isUnreserved, Char.le_def, UInt32.le_iff_toNat_le, hcode, Bool.or_eq_true,
      Bool.and_eq_true, decide_eq_true_eq]
    simp
    omega
  all_goals rfl

theorem isEscapeDigit_hexChar :
    ∀ n < 16, isEscapeDigit (hexChar n) = true := by
  decide

theorem isUnreserved_of_isEscapeDigit
    {c : Char}
    (h : isEscapeDigit c = true) :
    isUnreserved c = true := by
  have hletter : ('A' ≤ c && c ≤ 'F') = true → ('A' ≤ c && c ≤ 'Z') = true := by
    simp only [Bool.and_eq_true, decide_eq_true_eq, Char.le_def]
    intro hc
    exact ⟨hc.1, UInt32.le_trans hc.2 (by decide)⟩
  rw [isEscapeDigit, Bool.or_eq_true] at h
  rcases h with h | h
  · rw [isUnreserved, h]
    simp
  · rw [isUnreserved, hletter h]
    simp

theorem isSegment_encodeByte_append
    {b : Nat}
    (hbound : b < 256)
    {rest : List Char}
    (hrest : IsSegment rest) :
    IsSegment (encodeByte b ++ rest) := by
  unfold encodeByte
  by_cases hkept : isKept b = true
  · rw [if_pos hkept]
    exact .kept (isUnreserved_ofNat hbound hkept) hrest
  · rw [if_neg hkept]
    exact .escaped (isEscapeDigit_hexChar _ (by omega)) (isEscapeDigit_hexChar _ (by omega)) hrest

/-- Escaped texts are segments. -/
theorem isSegment_encodeChars
    (cs : List Char) :
    IsSegment (encodeChars cs) := by
  suffices h : ∀ bs : List Nat, (∀ b ∈ bs, b < 256) → IsSegment (bs.flatMap encodeByte) from
    h _ fun _ hb => Utf8.lt_of_mem_encode hb
  intro bs hbs
  induction bs with
  | nil =>
      exact .nil
  | cons b rest ih =>
      rw [List.forall_mem_cons] at hbs
      rw [List.flatMap_cons]
      exact isSegment_encodeByte_append hbs.1 (ih hbs.2)

/-- What divides a URL is not in a segment. -/
theorem IsSegment.not_mem
    {cs : List Char}
    (h : IsSegment cs)
    {divider : Char}
    (hdivider : isUnreserved divider = false)
    (hescape : divider ≠ '%') :
    divider ∉ cs := by
  have hne : ∀ {c : Char}, isUnreserved c = true → divider ≠ c := by
    rintro c hc rfl
    rw [hc] at hdivider
    cases hdivider
  induction h with
  | nil =>
      exact List.not_mem_nil
  | kept hc _ ih =>
      rw [List.mem_cons, not_or]
      exact ⟨hne hc, ih⟩
  | escaped hhigh hlow _ ih =>
      simp only [List.mem_cons, not_or]
      exact ⟨hescape, hne (isUnreserved_of_isEscapeDigit hhigh),
        hne (isUnreserved_of_isEscapeDigit hlow), ih⟩

end Segments

end Percent

namespace LookupApi

section Base

variable (api : LookupApi)

/-- The base is the URL of the service without its closing slashes. -/
theorem exists_url_eq :
    ∃ count, api.url.toList = api.base.toList ++ List.replicate count '/' := by
  have hslashes : ∀ c ∈ api.url.toList.reverse.takeWhile (· = '/'), c = '/' := by
    intro c hc
    simpa using List.mem_takeWhile_imp hc
  refine ⟨(api.url.toList.reverse.takeWhile (· = '/')).length, ?_⟩
  rw [base, Text.dropEndWhile, String.toList_ofList, ← List.reverse_replicate,
    ← List.eq_replicate_of_mem hslashes, ← List.reverse_append, List.takeWhile_append_dropWhile,
    List.reverse_reverse]

theorem getLast?_base_ne :
    api.base.toList.getLast? ≠ some '/' := by
  intro h
  rw [base, Text.dropEndWhile, String.toList_ofList, List.getLast?_reverse] at h
  have hfirst := Text.startsNo_dropWhile (· = '/') api.url.toList.reverse '/' h
  simp at hfirst

/-- The segment of an address in the URL that is requested for it. -/
theorem toList_urlFor
    (address : String) :
    (api.urlFor address).toList =
      api.base.toList ++ '/' :: Percent.encodeChars address.toList := by
  simp [urlFor, Percent.encode]

/-- Addresses with one URL are one. -/
theorem urlFor_inj
    {address address' : String} :
    api.urlFor address = api.urlFor address' ↔ address = address' := by
  constructor
  · intro h
    have hchars := congrArg String.toList h
    rw [toList_urlFor, toList_urlFor, List.append_cancel_left_eq, List.cons.injEq] at hchars
    have hdecoded := congrArg Percent.decode hchars.2
    rw [Percent.decode_encodeChars, Percent.decode_encodeChars] at hdecoded
    exact String.toList_injective hdecoded
  · rintro rfl
    rfl

end Base

end LookupApi

namespace Resolver

/-- An address that is not empty and that the cache does not know is asked for once. -/
theorem calls_resolve
    (api : LookupApi)
    (lookup : String → LookupOutcome)
    (cache : Cache)
    (address : String) :
    (resolve api lookup cache address).calls =
      if address = "" ∨ (cached? cache address).isSome = true then [] else [api.call address] := by
  unfold resolve
  by_cases hempty : address = ""
  · simp [hempty]
  · cases hcached : cached? cache address with
    | some record => simp [hempty]
    | none =>
        simp only [hempty, if_false, Option.isSome_none, Bool.false_eq_true, or_self]
        simp only [lookUp]
        cases looked? address (lookup address) <;> rfl

end Resolver

section Requests

/--
**An address does not alter the request.**  What is requested for an address, if anything, is
the URL of the service without closing slashes, a slash, and one segment that reads back as the
address; the parameters and the time limit are those of the service.  The address adds one
segment to the path and no other divider of URLs, and it can be told from the URL.
-/
theorem requests_differ_in_one_segment
    (api : LookupApi)
    (lookup : String → LookupOutcome)
    (cache : Cache)
    (address : String) :
    (∃ count, api.url.toList = api.base.toList ++ List.replicate count '/') ∧
    api.base.toList.getLast? ≠ some '/' ∧
    (address ≠ "" → Resolver.cached? cache address = none →
      ∃ call, (Resolver.resolve api lookup cache address).calls = [call]) ∧
    (∀ call ∈ (Resolver.resolve api lookup cache address).calls,
      call.parameters = api.parameters ∧ call.timeout = api.timeout ∧
      (∃ segment, Percent.IsSegment segment ∧ Percent.decode segment = address.toList ∧
        call.url.toList = api.base.toList ++ '/' :: segment ∧
        Text.pieces '/' call.url.toList = Text.pieces '/' api.base.toList ++ [segment]) ∧
      (∀ divider, Percent.isUnreserved divider = false → divider ≠ '%' →
        call.url.toList.count divider = (api.base.toList ++ ['/']).count divider) ∧
      ∀ lookup' cache' address',
        ∀ call' ∈ (Resolver.resolve api lookup' cache' address').calls,
          call'.url = call.url → address' = address) := by
  have hcall : ∀ {lookup cache address call},
      call ∈ (Resolver.resolve api lookup cache address).calls → call = api.call address := by
    intro lookup cache address call hmem
    rw [Resolver.calls_resolve] at hmem
    split at hmem
    · cases hmem
    · exact List.mem_singleton.mp hmem
  have hsegment := Percent.isSegment_encodeChars address.toList
  refine ⟨api.exists_url_eq, api.getLast?_base_ne, ?_, ?_⟩
  · intro hne hcached
    refine ⟨api.call address, ?_⟩
    rw [Resolver.calls_resolve, if_neg (by simp [hne, hcached])]
  · intro call hmem
    obtain rfl := hcall hmem
    refine ⟨rfl, rfl, ⟨_, hsegment, Percent.decode_encodeChars _, api.toList_urlFor address, ?_⟩,
      ?_, ?_⟩
    · have hslash := hsegment.not_mem (show Percent.isUnreserved '/' = false from rfl) (by decide)
      rw [LookupApi.call, api.toList_urlFor, Text.pieces_append_separator,
        Text.pieces_of_not_mem hslash]
    · intro divider hdivider hescape
      have hnone := List.count_eq_zero.mpr (hsegment.not_mem hdivider hescape)
      rw [LookupApi.call, api.toList_urlFor, List.count_append, List.count_append,
        List.count_cons, hnone, List.count_cons, List.count_nil]
    · intro lookup' cache' address' call' hmem' hurl
      obtain rfl := hcall hmem'
      exact api.urlFor_inj.mp hurl

end Requests

end Turnstile
