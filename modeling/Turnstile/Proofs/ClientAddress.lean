import Turnstile.Proofs.AddressClasses
import Turnstile.Proofs.Overlay
import Turnstile.Visit.Context

/-!
# The address of a visitor

Seven headers may name the visitor's address, in a fixed order of trust.  Of the headers
spelled like one of them the last counts, and its text is a list of parts between commas.
The visitor's address is the first part, in this order, that writes a public address with
blanks around it; without such a part it is the address of the socket peer.  As no text is
both public and local, nothing that a header says makes a visitor local.

**Results.**
* `get?_normalize_eq_some_iff`: the text under a name is that of the last header spelled so.
* `forwardedAddress?_eq_some_iff`, `forwardedAddress?_eq_none_iff`: what headers name.
* `first_public_part_is_taken`: the visitor's address.
-/

namespace Turnstile
namespace Headers

section Texts

variable {headers : Members Json} {name : String}

/-- The header that counts for a name is spelled like it, and no header after it is. -/
def Counts
    (headers : Members Json)
    (name : String)
    (value : Json) : Prop :=
  ∃ before spelled after,
    headers = before ++ (spelled, value) :: after ∧
    normalName spelled = name ∧
    ∀ later ∈ after, normalName later.1 ≠ name

theorem get?_normalize_eq_some_iff
    {text : String} :
    (normalize headers).get? name = some text ↔
      ∃ value, Counts headers name value ∧ valueText value = text := by
  rw [normalize, Members.get?_ofList, Members.last?_eq_some_iff]
  constructor
  · rintro ⟨before, after, hheaders, hafter⟩
    obtain ⟨front, back, rfl, rfl, hback⟩ := List.map_eq_append_iff.mp hheaders
    obtain ⟨⟨spelled, value⟩, later, rfl, hheader, rfl⟩ := List.map_eq_cons_iff.mp hback
    obtain ⟨hname, htext⟩ := Prod.mk.inj hheader
    refine ⟨value, ⟨front, spelled, later, rfl, hname, ?_⟩, htext⟩
    intro header hheader heq
    apply hafter
    rw [List.map_map]
    exact List.mem_map.mpr ⟨header, hheader, heq⟩
  · rintro ⟨value, ⟨before, spelled, after, rfl, rfl, hafter⟩, rfl⟩
    refine ⟨_, _, by rw [List.map_append, List.map_cons], ?_⟩
    rw [List.map_map]
    intro hmem
    obtain ⟨header, hheader, heq⟩ := List.mem_map.mp hmem
    exact hafter header hheader heq

/-- The parts of the header that counts for a name: what its text holds between commas. -/
def Offers
    (headers : Members Json)
    (name : String)
    (parts : List String) : Prop :=
  parts ≠ [] ∧
  (∀ part ∈ parts, ',' ∉ part.toList) ∧
  ∃ value, Counts headers name value ∧ valueText value = Text.joined "," parts

/-- The part writes a public address, with blanks around it. -/
def isPublicPart
    (part : String) : Bool :=
  Address.isPublicText (Text.trim part)

theorem candidates_joined
    {parts : List String}
    (hparts : parts ≠ [])
    (hfree : ∀ part ∈ parts, ',' ∉ part.toList) :
    candidates (Text.joined "," parts) = parts.map Text.trim := by
  rw [candidates, Text.pieces_joined rfl hparts hfree, List.map_map]
  rfl

/-- Every text is that of some parts. -/
theorem exists_joined
    (text : String) :
    ∃ parts, parts ≠ [] ∧ (∀ part ∈ parts, ',' ∉ part.toList) ∧
      text = Text.joined "," parts := by
  refine ⟨(Text.pieces ',' text.toList).map String.ofList, ?_, ?_, ?_⟩
  · rw [Text.pieces_eq_splitOn, ne_eq, List.map_eq_nil_iff]
    exact List.splitOn_ne_nil ',' text.toList
  · intro part hpart
    obtain ⟨piece, hpiece, rfl⟩ := List.mem_map.mp hpart
    rw [String.toList_ofList]
    exact Text.not_mem_of_mem_pieces hpiece
  · exact (Text.joined_pieces rfl text).symm

end Texts

section Search

variable {headers : Members Json} {address name : String}

/-- What the header of a name offers, if there is one, is searched for a public address. -/
def publicOf?
    (headers : Members Json)
    (name : String) : Option String :=
  (candidates (((normalize headers).get? name).getD "")).find? Address.isPublicText

theorem publicOf?_of_offers
    {parts : List String}
    (h : Offers headers name parts) :
    publicOf? headers name = (parts.find? isPublicPart).map Text.trim := by
  obtain ⟨hparts, hfree, value, hcounts, htext⟩ := h
  have hget := get?_normalize_eq_some_iff.mpr ⟨value, hcounts, htext⟩
  have hpublic : Address.isPublicText ∘ Text.trim = isPublicPart := by
    funext part
    rw [Function.comp_apply, isPublicPart]
  rw [publicOf?, hget, Option.getD_some, candidates_joined hparts hfree, List.find?_map, hpublic]

/-- A header that is not there offers nothing. -/
theorem offers_or_publicOf?_eq_none
    (headers : Members Json)
    (name : String) :
    (∃ parts, Offers headers name parts) ∨ publicOf? headers name = none := by
  cases hget : (normalize headers).get? name with
  | none =>
      refine .inr ?_
      rw [publicOf?, hget]
      decide
  | some text =>
      obtain ⟨value, hcounts, rfl⟩ := get?_normalize_eq_some_iff.mp hget
      obtain ⟨parts, hparts, hfree, htext⟩ := exists_joined (valueText value)
      exact .inl ⟨parts, hparts, hfree, value, hcounts, htext⟩

theorem forwardedAddress?_normalize
    (headers : Members Json) :
    forwardedAddress? (normalize headers) = forwarding.findSome? (publicOf? headers) :=
  List.find?_flatMap

theorem publicOf?_eq_none_iff :
    publicOf? headers name = none ↔
      ∀ parts, Offers headers name parts → ∀ part ∈ parts, isPublicPart part = false := by
  constructor
  · intro h parts hparts
    rw [publicOf?_of_offers hparts, Option.map_eq_none_iff, List.find?_eq_none] at h
    exact fun part hpart => Bool.eq_false_iff.mpr (h part hpart)
  · intro h
    rcases offers_or_publicOf?_eq_none headers name with ⟨parts, hparts⟩ | hnone
    · rw [publicOf?_of_offers hparts, Option.map_eq_none_iff, List.find?_eq_none]
      exact fun part hpart => Bool.eq_false_iff.mp (h parts hparts part hpart)
    · exact hnone

theorem publicOf?_eq_some_iff :
    publicOf? headers name = some address ↔
      ∃ before part after,
        Offers headers name (before ++ part :: after) ∧
        Text.trim part = address ∧
        isPublicPart part = true ∧
        ∀ other ∈ before, isPublicPart other = false := by
  constructor
  · intro h
    rcases offers_or_publicOf?_eq_none headers name with ⟨parts, hparts⟩ | hnone
    · rw [publicOf?_of_offers hparts, Option.map_eq_some_iff] at h
      obtain ⟨part, hpart, rfl⟩ := h
      obtain ⟨hpublic, before, after, rfl, hbefore⟩ := List.find?_eq_some_iff_append.mp hpart
      exact ⟨before, part, after, hparts, rfl, hpublic, by simpa using hbefore⟩
    · rw [hnone] at h
      cases h
  · rintro ⟨before, part, after, hparts, rfl, hpublic, hbefore⟩
    rw [publicOf?_of_offers hparts, Option.map_eq_some_iff]
    refine ⟨part, List.find?_eq_some_iff_append.mpr ⟨hpublic, before, after, rfl, ?_⟩, rfl⟩
    simpa using hbefore

/--
The first part that writes a public address: it stands in the header of a name in the order
of trust, no part before it in that header is public, and none in the headers of the names
before.
-/
structure IsFirstPublic
    (headers : Members Json)
    (part : String) : Prop where
  isPublic : isPublicPart part = true
  place : ∃ earlier name later before after,
    forwarding = earlier ++ name :: later ∧
    Offers headers name (before ++ part :: after) ∧
    (∀ other ∈ before, isPublicPart other = false) ∧
    ∀ name' ∈ earlier, ∀ parts, Offers headers name' parts →
      ∀ other ∈ parts, isPublicPart other = false

/-- No header that may name the address has a public part. -/
def NonePublic
    (headers : Members Json) : Prop :=
  ∀ name ∈ forwarding, ∀ parts, Offers headers name parts →
    ∀ part ∈ parts, isPublicPart part = false

theorem forwardedAddress?_eq_some_iff :
    forwardedAddress? (normalize headers) = some address ↔
      ∃ part, IsFirstPublic headers part ∧ Text.trim part = address := by
  rw [forwardedAddress?_normalize, List.findSome?_eq_some_iff]
  constructor
  · rintro ⟨earlier, name, later, hnames, hname, hearlier⟩
    obtain ⟨before, part, after, hparts, htrim, hpublic, hbefore⟩ := publicOf?_eq_some_iff.mp hname
    have hnone : ∀ name' ∈ earlier, ∀ parts, Offers headers name' parts →
        ∀ other ∈ parts, isPublicPart other = false :=
      fun name' hname' => publicOf?_eq_none_iff.mp (hearlier name' hname')
    exact ⟨part, ⟨hpublic, earlier, name, later, before, after, hnames, hparts, hbefore, hnone⟩,
      htrim⟩
  · rintro ⟨part, ⟨hpublic, earlier, name, later, before, after, hnames, hparts, hbefore,
      hearlier⟩, htrim⟩
    refine ⟨earlier, name, later, hnames, ?_, ?_⟩
    · exact publicOf?_eq_some_iff.mpr ⟨before, part, after, hparts, htrim, hpublic, hbefore⟩
    · exact fun name' hname' => publicOf?_eq_none_iff.mpr (hearlier name' hname')

theorem forwardedAddress?_eq_none_iff :
    forwardedAddress? (normalize headers) = none ↔ NonePublic headers := by
  rw [forwardedAddress?_normalize, List.findSome?_eq_none_iff]
  exact forall₂_congr fun name _ => publicOf?_eq_none_iff

/-- A forwarded address is public. -/
theorem isPublicText_of_forwardedAddress?
    {headers : Members String}
    (h : forwardedAddress? headers = some address) :
    Address.isPublicText address = true :=
  List.find?_some h

/-- A header cannot make a visitor local. -/
theorem clientAddress_of_isLocalText
    {headers : Members String}
    {remote : String}
    (h : Address.isLocalText (clientAddress headers remote) = true) :
    clientAddress headers remote = remote := by
  cases hforwarded : forwardedAddress? headers with
  | none => rw [clientAddress, hforwarded, Option.getD_none]
  | some address =>
      rw [clientAddress, hforwarded, Option.getD_some] at h
      have hpublic := isPublicText_of_forwardedAddress? hforwarded
      rw [Address.not_isPublicText_of_isLocalText h] at hpublic
      cases hpublic

end Search

section Choice

/-- Headers whose values are texts are headers like any other. -/
theorem normalizeTexts_eq_normalize
    (headers : Members String) :
    normalizeTexts headers = normalize (Observed.valuesOf headers) := by
  rw [normalizeTexts, normalize, Observed.valuesOf, List.map_map]
  rfl

/--
**The first public part that a header names is the visitor's address.**  Without one it is the
address of the socket peer, and so it is whenever the visitor is local: no text is both
local and public.  The address of the visitor of a request is chosen in this way.
-/
theorem first_public_part_is_taken
    (headers : Members Json)
    (remote : String) :
    (∀ address, clientAddress (normalize headers) remote = address ↔
      (∃ part, IsFirstPublic headers part ∧ Text.trim part = address) ∨
        NonePublic headers ∧ remote = address) ∧
    (Address.isLocalText (clientAddress (normalize headers) remote) = true →
      clientAddress (normalize headers) remote = remote) ∧
    (∀ s, ¬ (Address.isLocalText s = true ∧ Address.isPublicText s = true)) ∧
    ∀ request, Context.addressOf request =
      clientAddress (normalize (Observed.valuesOf request.headers)) request.remoteAddress := by
  refine ⟨?_, clientAddress_of_isLocalText, ?_, ?_⟩
  · intro address
    rw [← forwardedAddress?_eq_some_iff, ← forwardedAddress?_eq_none_iff, clientAddress]
    cases forwardedAddress? (normalize headers) with
    | none => simp
    | some found => simp
  · rintro s ⟨hlocal, hpublic⟩
    rw [Address.not_isPublicText_of_isLocalText hlocal] at hpublic
    cases hpublic
  · intro request
    rw [Context.addressOf, normalizeTexts_eq_normalize]

/-- Headers that claim local addresses; the last one counts in place of a public address. -/
def forgedHeaders : Members Json :=
  [("X_Forwarded_For", .string "8.8.8.8"), ("X-Real-IP", .string "10.0.0.1 ,\t192.168.1.1"),
    (" x-forwarded-for", .string "127.0.0.1, ::1,172.16.0.9")]

theorem normalize_forgedHeaders :
    normalize forgedHeaders =
      [("x-forwarded-for", "127.0.0.1, ::1,172.16.0.9"),
        ("x-real-ip", "10.0.0.1 ,\t192.168.1.1")] := by
  have hfirst : normalName "X_Forwarded_For" = "x-forwarded-for" := by decide +kernel
  have hsecond : normalName "X-Real-IP" = "x-real-ip" := by decide +kernel
  have hthird : normalName " x-forwarded-for" = "x-forwarded-for" := by decide +kernel
  simp [normalize, forgedHeaders, Members.ofList, Members.set, hfirst, hsecond, hthird, valueText,
    Json.display]

/-- A visitor behind forged headers is local because the socket peer is. -/
theorem forged_headers_leave_the_peer :
    NonePublic forgedHeaders ∧
      Address.isLocalText (clientAddress (normalize forgedHeaders) "10.1.2.3") = true ∧
      clientAddress (normalize forgedHeaders) "10.1.2.3" = "10.1.2.3" := by
  have hnone : forwardedAddress? (normalize forgedHeaders) = none := by
    rw [normalize_forgedHeaders]
    decide +kernel
  have hlocal :
      Address.isLocalText (clientAddress (normalize forgedHeaders) "10.1.2.3") = true := by
    rw [clientAddress, hnone]
    decide +kernel
  obtain ⟨-, hremote, -⟩ := first_public_part_is_taken forgedHeaders "10.1.2.3"
  exact ⟨forwardedAddress?_eq_none_iff.mp hnone, hlocal, hremote hlocal⟩

end Choice

end Headers
end Turnstile
