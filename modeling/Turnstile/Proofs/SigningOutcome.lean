import Turnstile.Proofs.KeyText
import Turnstile.Proofs.Privilege
import Turnstile.Proofs.Stamps

/-!
# What signing comes to

A configuration gives a URL, or none, or a failure, and which of the three depends on four
things: an account, a key, a window within the years that clocks have, and a key that can be
decoded.  The window starts a minute before the present and ends when the lifetime is over.

**Halves of surrogate pairs.**  With all four things there, a text that UTF-8 has no form for
makes signing break off without a failure.

**Redirects.**  A failure stays within the redirect: its target is then empty, as without an
account or a key.  A redirect has a descriptor iff there is a target.  Redirects that the server
makes have a directive iff there is a target, those that are left to the browser have none.
Where signing breaks off, so does the redirect.

**Keys.**  Padding after whole groups of digits completes nothing and is passed over, so that
some keys are decoded that are no strict base64.

**Results.**
* `url_cases`: there is no URL, or one, or a failure, or signing breaks off.
* `exists_isWindow`: the stamps of the window.
* `target_cases`: the same of the target of a redirect.
* `signing_outcome_and_window`: all this for a configuration and a redirect.
* `halved_account_breaks_redirect`: an account that is half of a surrogate pair.
-/

namespace Turnstile
namespace SharedAccess

section Outcome

variable {access : SharedAccess} {address : String} {now : Moment}

/-- The key can be decoded: strict base64, or padding that whole groups do not need. -/
def HasReadableKey
    (access : SharedAccess) : Prop :=
  Base64.IsStrict access.key ∨ Base64.IsOverpadded access.key

/-- All is there that it takes to sign a URL at a moment. -/
structure IsComplete
    (access : SharedAccess)
    (now : Moment) : Prop where
  account : access.account ≠ ""
  key : access.key ≠ ""
  window : access.HasWindow now
  readable : access.HasReadableKey

/-- A URL can be signed at a moment. -/
def CanSign
    (access : SharedAccess)
    (now : Moment) : Prop :=
  access.IsComplete now ∧ access.isUnicode = true

/-- All is there, but some text has halves of surrogate pairs. -/
def BreaksOff
    (access : SharedAccess)
    (now : Moment) : Prop :=
  access.IsComplete now ∧ access.isUnicode = false

theorem lifetime_bounds
    (v : Json) :
    1 ≤ lifetime v ∧ lifetime v ≤ maxSeconds := by
  unfold lifetime
  split
  · decide
  · rw [maxSeconds]
    omega

/-- Two stamps are the window of a moment: they write the seconds where it starts and ends. -/
structure IsWindow
    (access : SharedAccess)
    (now : Moment)
    (start expiry : String)
    (first last : Nat) : Prop where
  start_writes : stampSeconds? start = some first
  expiry_writes : stampSeconds? expiry = some last
  first_eq : (first : Int) = now.instant / microsPerSecond - 60
  last_eq : last = first + access.seconds + 60
  /-- Years before 1000 have fewer digits than later ones. -/
  ordered : Date.daysBeforeYear 1000 * 86400 ≤ first → start < expiry

/-- The stamps of the window. -/
theorem exists_isWindow
    {start expiry : String}
    (hstart : stampAfter? now (-skewSeconds) = some start)
    (hexpiry : stampAfter? now access.seconds = some expiry) :
    ∃ first last, access.IsWindow now start expiry first last := by
  obtain ⟨opening, hopening, rfl⟩ := stampAfter?_eq_some hstart
  obtain ⟨closing, hclosing, rfl⟩ := stampAfter?_eq_some hexpiry
  have hfirst : ((opening.wall / microsPerSecond : Nat) : Int) =
      now.instant / microsPerSecond - 60 := by
    simp only [microsPerSecond, skewSeconds] at hopening hclosing ⊢
    omega
  have hlast : closing.wall / microsPerSecond =
      opening.wall / microsPerSecond + access.seconds + 60 := by
    simp only [microsPerSecond, skewSeconds] at hopening hclosing ⊢
    omega
  refine ⟨opening.wall / microsPerSecond, closing.wall / microsPerSecond,
    stampSeconds?_stamp opening, stampSeconds?_stamp closing, hfirst, hlast, ?_⟩
  intro hyear
  have hday : Date.daysBeforeYear 1000 ≤ opening.wall / microsPerDay := by
    rw [microsPerSecond] at hyear
    rw [microsPerDay]
    generalize Date.daysBeforeYear 1000 = days at hyear ⊢
    omega
  exact stamp_lt (Date.le_year_ofDay_iff.mpr hday) (by omega)

/-- A URL that can be signed is signed, with the window among its parameters. -/
theorem exists_url_of_canSign
    (h : access.CanSign now)
    (address : String) :
    ∃ ps start expiry first last,
      access.url address now =
        .ok ("https://" ++ access.host ++ "/" ++ access.path ++ "?" ++ parameterText ps) ∧
      ps.get? "st" = some start ∧ ps.get? "se" = some expiry ∧
      access.IsWindow now start expiry first last := by
  obtain ⟨hcomplete, hunicode⟩ := h
  obtain ⟨bytes, hdecoded⟩ := Base64.exists_decode_iff.mpr hcomplete.readable
  obtain ⟨fields, hfields⟩ := (@exists_fieldsAt?_iff access address now).mpr hcomplete.window
  obtain ⟨signature, hsignature⟩ := exists_sign hdecoded fields.message
  obtain ⟨start, expiry, hstart, hexpiry, hsigned⟩ := fieldsAt?_eq_some_iff.mp hfields
  obtain ⟨first, last, hwindow⟩ := exists_isWindow hstart hexpiry
  refine ⟨parameters fields signature, start, expiry, first, last,
    url_eq hcomplete.account hcomplete.key hfields hsignature hunicode, ?_, ?_, hwindow⟩
  · rw [hsigned]
    rfl
  · rw [hsigned]
    rfl

/-- Without a window there is an error. -/
theorem url_of_not_hasWindow
    (haccount : access.account ≠ "")
    (hkey : access.key ≠ "")
    (hwindow : ¬ access.HasWindow now) :
    access.url address now = .error .windowOutOfRange := by
  have hfields : access.fieldsAt? address now = none := by
    rw [Option.eq_none_iff_forall_ne_some]
    intro fields hfields
    exact hwindow (exists_fieldsAt?_iff.mp ⟨fields, hfields⟩)
  rw [url, if_neg (present_of_ne haccount hkey), hfields]

/-- With a window but a key that cannot be decoded there is an error of the key. -/
theorem url_of_not_hasReadableKey
    (haccount : access.account ≠ "")
    (hkey : access.key ≠ "")
    (hwindow : access.HasWindow now)
    (hreadable : ¬ access.HasReadableKey) :
    ∃ flaw, access.url address now = .error (.key flaw) := by
  obtain ⟨fields, hfields⟩ := (@exists_fieldsAt?_iff access address now).mpr hwindow
  cases hdecoded : Base64.decode access.key with
  | ok bytes => exact absurd (Base64.exists_decode_iff.mp ⟨bytes, hdecoded⟩) hreadable
  | error flaw =>
      refine ⟨flaw, ?_⟩
      rw [url, if_neg (present_of_ne haccount hkey), hfields]
      simp only [sign, hdecoded, bind, Except.bind]

/-- With halves of surrogate pairs signing breaks off. -/
theorem url_of_breaksOff
    (h : access.BreaksOff now) :
    access.url address now = .error .notUnicode := by
  obtain ⟨hcomplete, hunicode⟩ := h
  obtain ⟨bytes, hdecoded⟩ := Base64.exists_decode_iff.mpr hcomplete.readable
  obtain ⟨fields, hfields⟩ := (@exists_fieldsAt?_iff access address now).mpr hcomplete.window
  obtain ⟨signature, hsignature⟩ := exists_sign hdecoded fields.message
  rw [url, if_neg (present_of_ne hcomplete.account hcomplete.key), hfields]
  simp only [hsignature, hunicode, Bool.false_eq_true, if_false]

/-- There is no URL, or one, or a failure, or signing breaks off. -/
theorem url_cases
    (access : SharedAccess)
    (address : String)
    (now : Moment) :
    ((access.account = "" ∨ access.key = "") ∧ access.url address now = .ok "") ∨
    (access.CanSign now ∧ ∃ url, access.url address now = .ok url ∧ url ≠ "") ∨
    ((access.account ≠ "" ∧ access.key ≠ "" ∧ ¬(access.HasWindow now ∧ access.HasReadableKey)) ∧
      ∃ flaw failure, access.url address now = .error flaw ∧ flaw.failure? = some failure) ∨
    (access.BreaksOff now ∧ access.url address now = .error .notUnicode) := by
  by_cases hempty : access.account = "" ∨ access.key = ""
  · refine .inl ⟨hempty, ?_⟩
    rw [url, if_pos (by simpa using hempty)]
  obtain ⟨haccount, hkey⟩ := not_or.mp hempty
  by_cases hwindow : access.HasWindow now
  · by_cases hreadable : access.HasReadableKey
    · have hcomplete : access.IsComplete now := ⟨haccount, hkey, hwindow, hreadable⟩
      cases hunicode : access.isUnicode with
      | true =>
          have hsign : access.CanSign now := ⟨hcomplete, hunicode⟩
          obtain ⟨ps, -, -, -, -, hurl, -⟩ := exists_url_of_canSign hsign address
          exact .inr (.inl ⟨hsign, _, hurl, by simp [← String.toList_eq_nil_iff]⟩)
      | false =>
          have hbreaks : access.BreaksOff now := ⟨hcomplete, hunicode⟩
          exact .inr (.inr (.inr ⟨hbreaks, url_of_breaksOff hbreaks⟩))
    · obtain ⟨flaw, hflaw⟩ := url_of_not_hasReadableKey haccount hkey hwindow hreadable
      exact .inr (.inr (.inl ⟨⟨haccount, hkey, fun h => hreadable h.2⟩, _, _, hflaw, rfl⟩))
  · exact .inr (.inr (.inl ⟨⟨haccount, hkey, fun h => hwindow h.1⟩, _, _,
      url_of_not_hasWindow haccount hkey hwindow, rfl⟩))

theorem url_eq_empty_iff :
    access.url address now = .ok "" ↔ access.account = "" ∨ access.key = "" := by
  rcases url_cases access address now with
    ⟨hempty, hurl⟩ | ⟨hsign, url, hurl, hne⟩ | ⟨hmissing, flaw, failure, hflaw, -⟩ | ⟨hbreaks, hurl⟩
  · simp [hurl, hempty]
  · simp [hurl, hne, hsign.1.account, hsign.1.key]
  · simp [hflaw, hmissing.1, hmissing.2.1]
  · simp [hurl, hbreaks.1.account, hbreaks.1.key]

/-- When signing fails. -/
theorem exists_failure_iff :
    (∃ flaw failure, access.url address now = .error flaw ∧ flaw.failure? = some failure) ↔
      access.account ≠ "" ∧ access.key ≠ "" ∧ ¬(access.HasWindow now ∧ access.HasReadableKey) := by
  rcases url_cases access address now with
    ⟨hempty, hurl⟩ | ⟨hsign, url, hurl, -⟩ | ⟨hmissing, hfailure⟩ | ⟨hbreaks, hurl⟩
  · simp only [hurl, reduceCtorEq, false_and, exists_false, false_iff]
    tauto
  · simp [hurl, hsign.1.window, hsign.1.readable]
  · exact iff_of_true hfailure hmissing
  · simp [hurl, Flaw.failure?, hbreaks.1.window, hbreaks.1.readable]

/-- When signing breaks off without a failure. -/
theorem exists_fault_iff :
    (∃ flaw, access.url address now = .error flaw ∧ flaw.failure? = none) ↔
      access.BreaksOff now := by
  rcases url_cases access address now with
    ⟨hempty, hurl⟩ | ⟨hsign, url, hurl, -⟩ | ⟨hmissing, flaw, failure, hflaw, hfailure⟩ |
    ⟨hbreaks, hurl⟩
  · have hnot : ¬ access.BreaksOff now := fun h => hempty.elim h.1.account h.1.key
    simp [hurl, hnot]
  · simp [hurl, BreaksOff, hsign.2]
  · have hnot : ¬ access.BreaksOff now := fun h => hmissing.2.2 ⟨h.1.window, h.1.readable⟩
    simp [hflaw, hfailure, hnot]
  · exact iff_of_true ⟨_, hurl, rfl⟩ hbreaks

/-- What signing comes to. -/
structure SigningOutcome
    (access : SharedAccess)
    (address : String)
    (now : Moment) : Prop where
  empty_iff : access.url address now = .ok "" ↔ access.account = "" ∨ access.key = ""
  failure_iff :
    (∃ flaw failure, access.url address now = .error flaw ∧ flaw.failure? = some failure) ↔
      access.account ≠ "" ∧ access.key ≠ "" ∧ ¬(access.HasWindow now ∧ access.HasReadableKey)
  failure_kind : ∀ flaw failure, access.url address now = .error flaw →
    flaw.failure? = some failure → failure.kind = .signing
  fault_iff : (∃ flaw, access.url address now = .error flaw ∧ flaw.failure? = none) ↔
    access.BreaksOff now
  /-- In all other cases there is a URL, with the window among its parameters. -/
  signed : access.CanSign now → ∃ ps start expiry first last,
    access.url address now =
      .ok ("https://" ++ access.host ++ "/" ++ access.path ++ "?" ++ parameterText ps) ∧
    ps.get? "st" = some start ∧ ps.get? "se" = some expiry ∧
    access.IsWindow now start expiry first last

theorem signingOutcome
    (access : SharedAccess)
    (address : String)
    (now : Moment) :
    access.SigningOutcome address now where
  empty_iff := url_eq_empty_iff
  failure_iff := exists_failure_iff
  failure_kind := by
    intro flaw failure _ hfailure
    cases flaw with
    | notUnicode => cases hfailure
    | windowOutOfRange | key =>
        obtain rfl := Option.some.inj hfailure
        rfl
  fault_iff := exists_fault_iff
  signed := fun h => exists_url_of_canSign h address

end Outcome

end SharedAccess

section Redirects

variable {a : Action} {address : String} {now : Moment}

namespace Action

/-- A target can be made for a redirect at a moment. -/
def HasTarget
    (a : Action)
    (now : Moment) : Prop :=
  if a.isSigned then
    ∃ config, a.datum "azure" = .object config ∧ (SharedAccess.ofMembers config).CanSign now
  else a.plainUrl ≠ ""

/-- Making a target for the redirect breaks off at a moment. -/
def BreaksOff
    (a : Action)
    (now : Moment) : Prop :=
  a.isSigned = true ∧
    ∃ config, a.datum "azure" = .object config ∧ (SharedAccess.ofMembers config).BreaksOff now

/-- A redirect has no target, or one, or making one breaks off. -/
theorem target_cases
    (a : Action)
    (address : String)
    (now : Moment) :
    (¬ a.HasTarget now ∧ ¬ a.BreaksOff now ∧ a.target address now = .ok "") ∨
    (a.HasTarget now ∧ ¬ a.BreaksOff now ∧ ∃ url, url ≠ "" ∧ a.target address now = .ok url) ∨
    (¬ a.HasTarget now ∧ a.BreaksOff now ∧ a.target address now = .error .notUnicode) := by
  unfold HasTarget BreaksOff target
  cases a.isSigned with
  | false =>
      by_cases hurl : a.plainUrl = "" <;> simp [hurl]
  | true =>
      unfold signedUrl
      cases a.datum "azure" with
      | object config =>
          simp only [if_true, true_and, Json.object.injEq, exists_eq_left']
          rcases (SharedAccess.ofMembers config).url_cases address now with
            ⟨hempty, hurl⟩ | ⟨hsign, url, hurl, hne⟩ |
            ⟨hmissing, flaw, failure, hflaw, hfailure⟩ | ⟨hbreaks, hurl⟩
          · refine .inl ⟨fun h => hempty.elim h.1.account h.1.key,
              fun h => hempty.elim h.1.account h.1.key, ?_⟩
            rw [hurl]
            rfl
          · refine .inr (.inl ⟨hsign, fun h => ?_, url, hne, ?_⟩)
            · exact Bool.false_ne_true (h.2.symm.trans hsign.2)
            · rw [hurl]
              rfl
          · refine .inl ⟨fun h => hmissing.2.2 ⟨h.1.window, h.1.readable⟩,
              fun h => hmissing.2.2 ⟨h.1.window, h.1.readable⟩, ?_⟩
            rw [hflaw]
            cases flaw with
            | notUnicode => cases hfailure
            | windowOutOfRange | key => rfl
          · refine .inr (.inr ⟨fun h => ?_, hbreaks, ?_⟩)
            · exact Bool.false_ne_true (hbreaks.2.symm.trans h.2)
            · rw [hurl]
              rfl
      | _ => simp

/-- When a redirect has a target. -/
theorem exists_target_iff :
    (∃ url, url ≠ "" ∧ a.target address now = .ok url) ↔ a.HasTarget now := by
  rcases target_cases a address now with
    ⟨hnone, -, htarget⟩ | ⟨hsome, -, htarget⟩ | ⟨hnone, -, htarget⟩
  · simp [htarget, hnone]
  · exact iff_of_true htarget hsome
  · simp [htarget, hnone]

/-- When making a target breaks off. -/
theorem exists_target_fault_iff :
    (∃ fault, a.target address now = .error fault) ↔ a.BreaksOff now := by
  rcases target_cases a address now with
    ⟨-, hnot, htarget⟩ | ⟨-, hnot, url, -, htarget⟩ | ⟨-, hbreaks, htarget⟩
  · simp [htarget, hnot]
  · simp [htarget, hnot]
  · exact iff_of_true ⟨_, htarget⟩ hbreaks

/-- A redirect is at fault iff its target is. -/
theorem exists_redirect_fault_iff
    {α : Type}
    {of : String → α} :
    (∃ fault, (do
        let url ← a.target address now
        return if url = "" then none else some (of url)) = .error fault) ↔
      ∃ fault, a.target address now = .error fault := by
  cases a.target address now with
  | error fault => simp [bind, Except.bind]
  | ok url => simp [bind, Except.bind, pure, Except.pure]

/-- Redirects that are not left to the browser are made by the server. -/
theorem exists_serverStatus
    (hkind : a.kind ∈ redirectKinds)
    (hbrowser : a.kind ≠ "js-redirect") :
    ∃ status, (a.kind, status) ∈ serverStatuses := by
  simp only [redirectKinds, List.mem_cons, List.not_mem_nil, or_false] at hkind
  rcases hkind with hkind | hkind | hkind
  · exact absurd hkind hbrowser
  · exact ⟨301, by rw [hkind]; decide⟩
  · exact ⟨302, by rw [hkind]; decide⟩

end Action

namespace Rule

variable {r : Rule}

/-- What a redirect comes to. -/
structure RedirectOutcome
    (r : Rule)
    (a : Action)
    (root : Option IncludeRoot)
    (address : String)
    (now : Moment) : Prop where
  target_iff : (∃ url, url ≠ "" ∧ a.target address now = .ok url) ↔ a.HasTarget now
  target_fault_iff : (∃ fault, a.target address now = .error fault) ↔ a.BreaksOff now
  descriptor_iff : (∃ d, r.descriptor address now = .ok (some d)) ↔ a.HasTarget now
  descriptor_fault_iff : (∃ fault, r.descriptor address now = .error fault) ↔ a.BreaksOff now
  /-- There is no directive for redirects left to the browser. -/
  directive_iff : (∃ d, r.directive root address now = .ok (some d)) ↔
    a.kind ≠ "js-redirect" ∧ a.HasTarget now
  directive_fault_iff : (∃ fault, r.directive root address now = .error fault) ↔
    a.kind ≠ "js-redirect" ∧ a.BreaksOff now

/-- Nothing is directed for redirects left to the browser. -/
theorem directive_of_browserRedirect
    (haction : r.action = some a)
    (hbrowser : a.kind = "js-redirect")
    (root : Option IncludeRoot)
    (address : String)
    (now : Moment) :
    r.directive root address now = .ok none := by
  simp only [Rule.directive, haction]
  rw [Action.directive, hbrowser]
  rfl

theorem redirectOutcome
    (haction : r.action = some a)
    (hkind : a.kind ∈ Action.redirectKinds)
    (root : Option IncludeRoot)
    (address : String)
    (now : Moment) :
    r.RedirectOutcome a root address now := by
  have hdescriptor : r.descriptor address now = a.descriptor r.id address now := by
    rw [descriptor, haction]
  rw [Action.descriptor_of_redirect hkind] at hdescriptor
  refine ⟨Action.exists_target_iff, Action.exists_target_fault_iff, ?_, ?_, ?_, ?_⟩
  · rw [hdescriptor, Action.exists_redirect_iff, Action.exists_target_iff]
  · rw [hdescriptor, Action.exists_redirect_fault_iff, Action.exists_target_fault_iff]
  all_goals
    by_cases hbrowser : a.kind = "js-redirect"
    · simp [directive_of_browserRedirect haction hbrowser, hbrowser]
    obtain ⟨status, hstatus⟩ := Action.exists_serverStatus hkind hbrowser
    simp only [Rule.directive, haction, Action.directive_of_serverRedirect hstatus,
      Action.redirectDirective, ne_eq, hbrowser, not_false_eq_true, true_and]
  · rw [Action.exists_redirect_iff, Action.exists_target_iff]
  · rw [Action.exists_redirect_fault_iff, Action.exists_target_fault_iff]

end Rule

/--
**What signing and redirects come to.**  The lifetime of any configuration is one second to a
week.  Signing gives no URL iff there is no account or no key, and a failure iff there are both
but the window leaves the years that clocks have, or the key cannot be decoded.  Else the URL
tells a window from a minute before the present to the end of the lifetime, unless some text has
half of a surrogate pair: then, and only then, signing breaks off without a failure.

A redirect has a descriptor iff there is a target for it, and a directive iff besides it is the
server that redirects.  It breaks off iff its URL is to be signed and signing breaks off.
-/
theorem signing_outcome_and_window
    (config : Members Json)
    {r : Rule}
    (haction : r.action = some a)
    (hkind : a.kind ∈ Action.redirectKinds)
    (root : Option IncludeRoot)
    (address : String)
    (now : Moment) :
    (1 ≤ (SharedAccess.ofMembers config).seconds ∧
      (SharedAccess.ofMembers config).seconds ≤ 604800) ∧
    (SharedAccess.ofMembers config).SigningOutcome address now ∧
    r.RedirectOutcome a root address now :=
  ⟨SharedAccess.lifetime_bounds _, SharedAccess.signingOutcome _ address now,
    Rule.redirectOutcome haction hkind root address now⟩

/-- A rule with a redirect. -/
def redirectRule
    (a : Action) : Rule :=
  ⟨some "r1", true, Rule.defaultPriority, none, none, [], [.whole Rule.serverSide], some a, .null,
    []⟩

/-- A redirect of the server to the URL that is signed by a configuration. -/
def signedServerRedirect
    (config : Members Json) : Action :=
  ⟨"server-301-redirect", [("mode", .string "azure"), ("azure", .object config)]⟩

/-- All is there to sign at the start of 2024 with an account and a key that is decoded. -/
theorem isComplete_of_decode
    {config : Members Json}
    (haccount : (SharedAccess.ofMembers config).account ≠ "")
    (hkey : (SharedAccess.ofMembers config).key ≠ "")
    (hseconds : (SharedAccess.ofMembers config).seconds = 15)
    {bytes : List Nat}
    (hdecoded : Base64.decode (SharedAccess.ofMembers config).key = .ok bytes) :
    (SharedAccess.ofMembers config).IsComplete SharedAccess.newYearNoon where
  account := haccount
  key := hkey
  window := by
    rw [SharedAccess.HasWindow, hseconds]
    decide
  readable := Base64.exists_decode_iff.mp ⟨bytes, hdecoded⟩

/-- A redirect of the server with a key that is decoded has a descriptor and a directive. -/
theorem keyed_redirect_has_descriptor_and_directive :
    (∃ descriptor, (redirectRule (signedServerRedirect (keyedConfig "YQ=="))).descriptor
      "8.8.8.8" SharedAccess.newYearNoon = .ok (some descriptor)) ∧
    ∃ directive, (redirectRule (signedServerRedirect (keyedConfig "YQ=="))).directive none
      "8.8.8.8" SharedAccess.newYearNoon = .ok (some directive) := by
  have hdecoded : Base64.decode "YQ==" = .ok [97] := by decide
  have hcomplete := @isComplete_of_decode (keyedConfig "YQ==") (by decide) (by decide) rfl _
    hdecoded
  have htarget : (signedServerRedirect (keyedConfig "YQ==")).HasTarget SharedAccess.newYearNoon :=
    ⟨keyedConfig "YQ==", rfl, hcomplete, rfl⟩
  obtain ⟨-, -, houtcome⟩ := @signing_outcome_and_window (signedServerRedirect (keyedConfig "YQ=="))
    (keyedConfig "YQ==") (redirectRule (signedServerRedirect (keyedConfig "YQ=="))) rfl (by decide)
    none "8.8.8.8" SharedAccess.newYearNoon
  exact ⟨houtcome.descriptor_iff.mpr htarget,
    houtcome.directive_iff.mpr ⟨by decide, htarget⟩⟩

/-- A configuration whose account is half of a surrogate pair. -/
def halvedConfig : Members Json :=
  [("accountName", .halved .loneHalf), ("accountKeyB64", .string "YQ==")]

/--
An account that is half of a surrogate pair breaks off signing without a failure, and with it the
descriptor and the directive of a redirect.  Besides, a redirect that is left to the browser has
a descriptor but no directive, and three bytes with padding after them are no strict base64 but a
key that signs.
-/
theorem halved_account_breaks_redirect :
    ((∃ flaw, (SharedAccess.ofMembers halvedConfig).url "8.8.8.8" SharedAccess.newYearNoon =
          .error flaw ∧ flaw.failure? = none) ∧
      (redirectRule (signedServerRedirect halvedConfig)).descriptor "8.8.8.8"
        SharedAccess.newYearNoon = .error .notUnicode ∧
      (redirectRule (signedServerRedirect halvedConfig)).directive none "8.8.8.8"
        SharedAccess.newYearNoon = .error .notUnicode) ∧
    ((∃ descriptor,
        (redirectRule ⟨"js-redirect", [("url", .string "https://example.com/a")]⟩).descriptor
          "8.8.8.8" SharedAccess.newYearNoon = .ok (some descriptor)) ∧
      (redirectRule ⟨"js-redirect", [("url", .string "https://example.com/a")]⟩).directive none
        "8.8.8.8" SharedAccess.newYearNoon = .ok none) ∧
    ¬ Base64.IsStrict "YWJj=" ∧
    ∃ url, url ≠ "" ∧
      (SharedAccess.ofMembers (keyedConfig "YWJj=")).url "8.8.8.8" SharedAccess.newYearNoon =
        .ok url := by
  refine ⟨?_, ⟨⟨_, rfl⟩, by decide⟩, ?_, ?_⟩
  · have hdecoded : Base64.decode "YQ==" = .ok [97] := by decide
    have hbreaks : (SharedAccess.ofMembers halvedConfig).BreaksOff SharedAccess.newYearNoon :=
      ⟨@isComplete_of_decode halvedConfig (by decide) (by decide) rfl _ hdecoded, rfl⟩
    have hurl := @SharedAccess.url_of_breaksOff _ "8.8.8.8" _ hbreaks
    have htarget : (signedServerRedirect halvedConfig).target "8.8.8.8" SharedAccess.newYearNoon =
        .error .notUnicode := congrArg ActionFault.orUrl hurl
    exact ⟨⟨_, hurl, rfl⟩, congrArg (· >>= _) htarget, congrArg (· >>= _) htarget⟩
  · intro hstrict
    exact absurd (Base64.length_of_isStrict hstrict) (by decide)
  · have hdecoded : Base64.decode "YWJj=" = .ok [97, 98, 99] := by decide
    have hcomplete := @isComplete_of_decode (keyedConfig "YWJj=") (by decide) (by decide) rfl _
      hdecoded
    obtain ⟨ps, -, -, -, -, hurl, -⟩ :=
      SharedAccess.exists_url_of_canSign ⟨hcomplete, rfl⟩ "8.8.8.8"
    exact ⟨_, by simp [← String.toList_eq_nil_iff], hurl⟩

end Redirects

end Turnstile
