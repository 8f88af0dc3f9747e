import Turnstile.Proofs.EscapedText
import Turnstile.Proofs.Permanence

/-!
# What resolving an address gives

Resolving gives one of four records: the bare one for the empty address, the cached one,
the one that was looked up, or the fallback.  What is wrong with the cache does not
matter, neither when it is read nor when it is written, and each way in which a lookup
fails leads to the fallback.  The one way to get no record is a client that refuses to
request the URL of an address that is not cached.

**Results.**
* `fails_iff`: a lookup that is not refused fails iff it brings no record.
* `Resolver.Gives`, `Resolver.gives_iff`: what comes of resolving, case by case.
* `Resolver.record_given_unless_refused`: when a record is given, and which.
* `Resolver.overlong_address_gives_nothing`: an address whose URL is refused for its length.
-/

namespace Turnstile

section Failures

/-- A document that says of success gives a record that does. -/
theorem Record.isSuccess_of_get?_status
    {ms : Members Json}
    {r : Record}
    (h : ofMembers ms = .ok r)
    (hstatus : ms.get? "status" = some (.string success)) :
    r.isSuccess = true := by
  obtain ⟨-, rfl⟩ := Checked.result_eq_ok_iff.mp h
  have hvalue : (Checked.field ms ["status"] (.whole failure) Checked.wording).value =
      .whole success := by
    rw [Checked.field_of_get? hstatus]
    rfl
  exact beq_iff_eq.mpr hvalue

/-- The ways to fail are all the ways to bring no record, but for a refusal. -/
theorem LookupOutcome.fails_iff
    {outcome : LookupOutcome} :
    outcome.Fails ↔ outcome ≠ .refused ∧ outcome.record? = none := by
  constructor
  · intro h
    refine ⟨?_, record?_of_fails h⟩
    rintro rfl
    cases h
  · rintro ⟨hrefused, hnone⟩
    cases outcome with
    | failed =>
        exact .transport
    | refused =>
        exact absurd rfl hrefused
    | response status body =>
        by_cases hstatus : status = 200
        · subst hstatus
          cases hbody : (Encoding.decode? body).bind Json.readChars with
          | none =>
              exact .malformed hbody
          | some v =>
              by_cases hv : ∃ ms, v = .object ms
              · obtain ⟨ms, rfl⟩ := hv
                cases hrecord : Record.ofMembers ms with
                | error flaws =>
                    exact .invalid hbody hrecord
                | ok r =>
                    refine .unsuccessful hbody fun hsaid => ?_
                    have hsuccess := Record.isSuccess_of_get?_status hrecord hsaid
                    simp [record?, hbody, hrecord, hsuccess] at hnone
              · exact .noObject hbody fun ms hms => hv ⟨ms, hms⟩
        · exact .status hstatus

end Failures

namespace Resolver

section Given

variable {api : LookupApi} {lookup : String → LookupOutcome} {cache : Cache} {address : String}

/-- No valid record is read from a cache: it faults, has no document, or one that is invalid. -/
def Uncached
    (cache : Cache)
    (address : String) : Prop :=
  ∀ document r, cache.get address = .ok (some document) → Record.ofMembers document ≠ .ok r

theorem cached?_eq_some_iff
    {r : Record} :
    cached? cache address = some r ↔
      ∃ document, cache.get address = .ok (some document) ∧ Record.ofMembers document = .ok r := by
  unfold cached?
  constructor
  · intro h
    split at h
    next document hget =>
      cases hrecord : Record.ofMembers document with
      | error flaws =>
          rw [hrecord] at h
          cases h
      | ok r' =>
          rw [hrecord] at h
          obtain rfl := Option.some.inj h
          exact ⟨document, hget, hrecord⟩
    next =>
      cases h
  · rintro ⟨document, hget, hrecord⟩
    simp only [hget, hrecord, Except.toOption]

theorem cached?_eq_none_iff :
    cached? cache address = none ↔ Uncached cache address := by
  rw [Option.eq_none_iff_forall_ne_some]
  constructor
  · intro h document r hget hrecord
    exact h r (cached?_eq_some_iff.mpr ⟨document, hget, hrecord⟩)
  · intro h r hcached
    obtain ⟨document, hget, hrecord⟩ := cached?_eq_some_iff.mp hcached
    exact h document r hget hrecord

/-- The records that resolving an address may give. -/
inductive Gives
    (lookup : String → LookupOutcome)
    (cache : Cache)
    (address : String) : Record → Prop where
  | bare
      (haddress : address = "") :
      Gives lookup cache address (Record.fallback "" none)
  | cached {document : Members Json} {r : Record}
      (haddress : address ≠ "")
      (hget : cache.get address = .ok (some document))
      (hrecord : Record.ofMembers document = .ok r) :
      Gives lookup cache address r
  | looked {r : Record}
      (haddress : address ≠ "")
      (hcache : Uncached cache address)
      (hrecord : (lookup address).record? = some r) :
      Gives lookup cache address r
  | fallback
      (haddress : address ≠ "")
      (hcache : Uncached cache address)
      (hfails : (lookup address).Fails) :
      Gives lookup cache address (fallback address)

theorem record_lookUp :
    (lookUp api lookup cache address).record = looked? address (lookup address) := by
  unfold lookUp
  cases hlooked : looked? address (lookup address) with
  | none => simp only [hlooked]
  | some r => simp only [hlooked]

theorem looked?_eq_none_iff
    {outcome : LookupOutcome} :
    looked? address outcome = none ↔ outcome = .refused := by
  cases outcome <;> simp [looked?]

/-- The record of resolving depends on what is read and looked up, not on what is written. -/
theorem gives_iff
    {r : Record} :
    (resolve api lookup cache address).record = some r ↔ Gives lookup cache address r := by
  unfold resolve
  by_cases haddress : address = ""
  · rw [if_pos haddress]
    constructor
    · intro h
      obtain rfl := Option.some.inj h
      exact .bare haddress
    · intro h
      cases h with
      | bare => rfl
      | cached hne | looked hne | fallback hne => exact absurd haddress hne
  rw [if_neg haddress]
  cases hcached : cached? cache address with
  | some r' =>
      obtain ⟨document, hget, hrecord⟩ := cached?_eq_some_iff.mp hcached
      constructor
      · intro h
        obtain rfl := Option.some.inj h
        exact .cached haddress hget hrecord
      · intro h
        cases h with
        | bare hempty => exact absurd hempty haddress
        | cached _ hget' hrecord' =>
            have hcached' := cached?_eq_some_iff.mpr ⟨_, hget', hrecord'⟩
            exact hcached.symm.trans hcached'
        | looked _ hcache | fallback _ hcache => exact absurd hrecord (hcache document r' hget)
  | none =>
      have huncached := cached?_eq_none_iff.mp hcached
      simp only [record_lookUp, Record.looked?_eq_some_iff]
      constructor
      · rintro ⟨hrefused, rfl⟩
        cases hrecord : (lookup address).record? with
        | some r' => exact .looked haddress huncached hrecord
        | none =>
            exact .fallback haddress huncached (LookupOutcome.fails_iff.mpr ⟨hrefused, hrecord⟩)
      · intro h
        cases h with
        | bare hempty => exact absurd hempty haddress
        | cached _ hget hrecord => exact absurd hrecord (huncached _ _ hget)
        | looked _ _ hrecord =>
            refine ⟨fun hrefused => ?_, by rw [hrecord]; rfl⟩
            rw [hrefused] at hrecord
            cases hrecord
        | fallback _ _ hfails =>
            obtain ⟨hrefused, hrecord⟩ := LookupOutcome.fails_iff.mp hfails
            exact ⟨hrefused, by rw [hrecord]; rfl⟩

theorem record_eq_none_iff :
    (resolve api lookup cache address).record = none ↔
      address ≠ "" ∧ Uncached cache address ∧ lookup address = .refused := by
  unfold resolve
  by_cases haddress : address = ""
  · simp [haddress]
  rw [if_neg haddress, ← cached?_eq_none_iff]
  cases hcached : cached? cache address with
  | some r => simp
  | none => simp [haddress, record_lookUp, looked?_eq_none_iff]

/--
**A record is given unless the client refuses.**  For every address, cache and answer,
there is no record only if the address is not empty, the cache has no valid record of it,
and the client refuses to request its URL.  Otherwise the record is the bare one, the
cached one, the one that was looked up, or the fallback, as the case may be.
-/
theorem record_given_unless_refused
    (api : LookupApi)
    (lookup : String → LookupOutcome)
    (cache : Cache)
    (address : String) :
    ((resolve api lookup cache address).record = none ↔
      address ≠ "" ∧ Uncached cache address ∧ lookup address = .refused) ∧
    ∀ r, (resolve api lookup cache address).record = some r ↔ Gives lookup cache address r :=
  ⟨record_eq_none_iff, fun _ => gives_iff⟩

/-- A service that is reached by a client which refuses URLs that are longer than a limit. -/
def limitedLookup
    (api : LookupApi)
    (limit : Nat)
    (address : String) : LookupOutcome :=
  if limit < (api.urlFor address).toList.length then .refused else .failed

theorem limitedLookup_eq_refused
    {limit : Nat}
    (h : limit ≤ address.toList.length) :
    limitedLookup api limit address = .refused := by
  have hlength := Percent.length_le_length_encodeChars address.toList
  rw [limitedLookup, if_pos]
  simp only [LookupApi.urlFor, Percent.encode, String.toList_append, String.toList_ofList,
    List.length_append]
  have hslash : "/".toList.length = 1 := rfl
  omega

/-- An address that is one digit many times. -/
def repeatedDigit (count : Nat) : String := String.ofList (List.replicate count '1')

theorem length_repeatedDigit
    (count : Nat) :
    (repeatedDigit count).toList.length = count := by
  rw [repeatedDigit, String.toList_ofList, List.length_replicate]

theorem record_repeatedDigit
    {count : Nat}
    (hcount : 0 < count) :
    (resolve plainApi (limitedLookup plainApi count) (.folder .initial)
        (repeatedDigit count)).record = none ∧
      (resolve plainApi (fun _ => .failed) (.folder .initial) (repeatedDigit count)).record =
        some (fallback (repeatedDigit count)) := by
  have hne : repeatedDigit count ≠ "" := by
    intro h
    have hlength := length_repeatedDigit count
    rw [h] at hlength
    exact absurd hlength hcount.ne
  have huncached : Uncached (.folder .initial) (repeatedDigit count) := by
    intro document r hget
    cases hget
  have hrefused : limitedLookup plainApi count (repeatedDigit count) = .refused :=
    limitedLookup_eq_refused (Nat.le_of_eq (length_repeatedDigit count).symm)
  exact ⟨record_eq_none_iff.mpr ⟨hne, huncached, hrefused⟩,
    gives_iff.mpr (.fallback hne huncached .transport)⟩

/-- No record is given for an address whose URL is too long for the client. -/
theorem overlong_address_gives_nothing :
    (resolve plainApi (limitedLookup plainApi 65536) (.folder .initial)
        (repeatedDigit 65536)).record = none ∧
      (resolve plainApi (fun _ => .failed) (.folder .initial) (repeatedDigit 65536)).record =
        some (fallback (repeatedDigit 65536)) :=
  record_repeatedDigit (by omega)

end Given

end Resolver
end Turnstile
