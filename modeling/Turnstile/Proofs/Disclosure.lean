import Turnstile.Proofs.Deciding
import Turnstile.Proofs.FirstMatch
import Turnstile.Proofs.Members

/-!
# What decisions disclose

The data of an action holds members that only the server may see.  Taking them out of a
document, *redacting* it, commutes with every step of a decision: reading rules, putting
them in order, scanning them, and resolving the action of the rule that was found.  So
what a client sees is a function of the redacted document.

**Visible members.**  Of scripts and pieces of HTML `html` and `script`; of redirects
`mode` and `azure` if the URL is signed, else `mode` and `url`; of echoes and includes
none.  The key in `azure` is visible only through the signature.
-/

namespace Turnstile

section Redaction

/-- The members that a client may see of the data of an action. -/
def Action.visibleNames
    (kind : ActionKind)
    (a : Action) : List String :=
  match kind with
  | .browserRedirect | .permanentRedirect | .temporaryRedirect =>
      if a.isSigned then ["mode", "azure"] else ["mode", "url"]
  | .includeFile | .echo => []
  | .html | .script => ["html", "script"]

/-- The action without the members that a client may not see. -/
def Action.redact
    (a : Action) : Action :=
  match ActionKind.ofName? a.kind with
  | some kind =>
      { a with data := a.data.filter fun member => (a.visibleNames kind).contains member.1 }
  | none => a

/-- The members of a raw action, its data redacted. -/
def redactData
    (kind : String)
    (name : String)
    (value : Json) : Json :=
  match value with
  | .object data => if name = "data" then .object (Action.redact ⟨kind, data⟩).data else value
  | _ => value

/-- A raw action without the members that a client may not see. -/
def redactAction
    (raw : Json) : Json :=
  match raw, raw.member "type" with
  | .object members, .string kind =>
      .object (members.map fun member => (member.1, redactData kind member.1 member.2))
  | _, _ => raw

/-- The members of a raw rule, its action redacted. -/
def redactMembers
    (members : Members Json) : Members Json :=
  members.map fun member =>
    (member.1, if member.1 = "action" then redactAction member.2 else member.2)

/-- A raw rule without the members that a client may not see. -/
def redactEntry : Json → Json
  | .object members => .object (redactMembers members)
  | raw => raw

/-- The rule of a redacted entry. -/
def Rule.redact
    (r : Rule) : Rule :=
  { r with action := r.action.map Action.redact, raw := redactMembers r.raw }

end Redaction

namespace Action

/-- Visible members are not redacted. -/
theorem datum_redact
    {a : Action}
    {kind : ActionKind}
    (hkind : ActionKind.ofName? a.kind = some kind)
    {name : String}
    (hname : name ∈ a.visibleNames kind) :
    a.redact.datum name = a.datum name := by
  simp only [redact, hkind, datum, Members.get?_filter _ _ hname]

@[simp] theorem kind_redact
    (a : Action) :
    a.redact.kind = a.kind := by
  unfold redact
  split <;> rfl

theorem redact_nil
    (kind : String) :
    redact ⟨kind, []⟩ = ⟨kind, []⟩ := by
  unfold redact
  split <;> rfl

/-- Redacting keeps the descriptor. -/
theorem descriptor_redact
    (a : Action)
    (ruleId : Option String)
    (address : String)
    (now : Moment) :
    a.redact.descriptor ruleId address now = a.descriptor ruleId address now := by
  have hredirect : ∀ kind, ActionKind.ofName? a.kind = some kind →
      a.visibleNames kind = (if a.isSigned then ["mode", "azure"] else ["mode", "url"]) →
      a.redact.isSigned = a.isSigned ∧
        a.redact.target address now = a.target address now := by
    intro kind hkind hvisible
    have hmode : a.redact.datum "mode" = a.datum "mode" := by
      apply datum_redact hkind
      rw [hvisible]
      split <;> simp
    have hsigned : a.redact.isSigned = a.isSigned := by
      simp only [isSigned, hmode]
    refine ⟨hsigned, ?_⟩
    cases h : a.isSigned with
    | true =>
        have hazure : a.redact.datum "azure" = a.datum "azure" := by
          apply datum_redact hkind
          simp [hvisible, h]
        rw [target, target, hsigned, h, if_pos rfl, if_pos rfl, signedUrl, signedUrl, hazure]
    | false =>
        have hurl : a.redact.datum "url" = a.datum "url" := by
          apply datum_redact hkind
          simp [hvisible, h]
        rw [target, target, hsigned, h, if_neg Bool.false_ne_true, if_neg Bool.false_ne_true,
          plainUrl, plainUrl, hurl]
  unfold descriptor
  rw [kind_redact]
  cases hkind : ActionKind.ofName? a.kind with
  | none =>
      rfl
  | some kind =>
      cases kind with
      | includeFile => rfl
      | echo => rfl
      | html | script =>
          have hhtml : a.redact.datum "html" = a.datum "html" :=
            datum_redact hkind (by simp [visibleNames])
          have hscript : a.redact.datum "script" = a.datum "script" :=
            datum_redact hkind (by simp [visibleNames])
          simp only [hhtml, hscript]
      | browserRedirect | permanentRedirect | temporaryRedirect =>
          obtain ⟨hsigned, htarget⟩ := hredirect _ hkind rfl
          simp only [htarget, redirectData, hsigned]

end Action

namespace Rule

section Reading

variable (now : Moment)

/-- The action of a redacted value is the redacted action. -/
theorem decodeAction_redactAction
    (raw : Json) :
    decodeAction (redactAction raw) = (decodeAction raw).map Action.redact := by
  cases raw with
  | object members =>
      cases htype : Members.get? members "type" with
      | none =>
          simp [redactAction, decodeAction, Json.member, Json.member?, htype]
      | some type =>
          cases type with
          | string kind =>
              have hredacted : redactAction (.object members) =
                  .object (members.map fun member =>
                    (member.1, redactData kind member.1 member.2)) := by
                simp [redactAction, Json.member, Json.member?, htype]
              have hkind : redactData kind "type" (.string kind) = .string kind := rfl
              simp only [hredacted, decodeAction, Members.get?_map, htype, Option.map_some,
                hkind]
              by_cases hempty : kind = ""
              · simp [hempty]
              · simp only [hempty, if_false]
                cases hdata : Members.get? members "data" with
                | none =>
                    simp [Action.redact_nil]
                | some data =>
                    cases data with
                    | object data =>
                        have hredact : Action.mk kind (Action.redact ⟨kind, data⟩).data =
                            Action.redact ⟨kind, data⟩ :=
                          congrArg (Action.mk · _) (Action.kind_redact ⟨kind, data⟩).symm
                        simp [redactData, hredact]
                    | _ => simp [redactData, Action.redact_nil]
          | halved kind =>
              simp [redactAction, decodeAction, Json.member, Json.member?, htype,
                Action.redact_nil]
          | _ =>
              simp [redactAction, decodeAction, Json.member, Json.member?, htype]
  | _ =>
      rfl

/-- Of a rule only the action is redacted. -/
theorem member_redactMembers
    (members : Members Json)
    (name : String) :
    (Json.object (redactMembers members)).member name =
      if name = "action" then redactAction ((Json.object members).member name)
      else (Json.object members).member name := by
  unfold redactMembers Json.member Json.member?
  simp only [Members.get?_map fun name value =>
    if name = "action" then redactAction value else value]
  cases Members.get? members name with
  | none =>
      simp [redactAction]
  | some value =>
      by_cases h : name = "action"
      · simp [h]
      · simp [h]

theorem isActive_redactEntry
    (raw : Json) :
    isActive now (redactEntry raw) = isActive now raw := by
  cases raw with
  | object members =>
      simp only [redactEntry, isActive, member_redactMembers]
      rfl
  | _ =>
      rfl

/-- The rule of redacted members is the redacted rule. -/
theorem decode_redactMembers
    (members : Members Json) :
    decode (redactMembers members) = redact <$> decode members := by
  simp only [decode, member_redactMembers, map_bind, map_pure, redact]
  simp [decodeAction_redactAction]

/-- An entry gives, redacted, the rule that it gives, redacted. -/
theorem decodeActive_redactEntry
    (raw : Json) :
    decodeActive now (redactEntry raw) = Option.map redact <$> decodeActive now raw := by
  cases raw with
  | object members =>
      have hactive := isActive_redactEntry now (.object members)
      simp only [redactEntry] at hactive ⊢
      simp only [decodeActive, hactive, decode_redactMembers, map_bind]
      congr 1
      funext active
      cases active <;> simp
  | _ =>
      rfl

/-- Redacting entries redacts the rules and keeps their order. -/
theorem normalize_redact
    (raws : List Json) :
    normalize now (raws.map redactEntry) = List.map redact <$> normalize now raws := by
  have hfound : (raws.map redactEntry).filterMapM (decodeActive now) =
      List.map redact <$> raws.filterMapM (decodeActive now) := by
    induction raws with
    | nil =>
        rfl
    | cons raw rest ih =>
        simp only [List.map_cons, List.filterMapM_cons, decodeActive_redactEntry, ih,
          map_bind, bind_map_left]
        congr 1
        funext found
        cases found <;> simp
  simp only [normalize, hfound, map_bind, bind_map_left]
  congr 1
  funext rules
  have hsort : (rules.mergeSort precedes).map redact = (rules.map redact).mergeSort precedes := by
    apply List.map_mergeSort
    intro a _ b _
    rfl
  simp [hsort]

end Reading

section Scanning

variable (criterion : String) (c : Context)

/-- A scan of redacted rules tries the same conditions and finds the redacted rule. -/
theorem scan_redact
    (rules : List Rule) :
    (scan criterion c (rules.map redact)).looked = (scan criterion c rules).looked ∧
      (scan criterion c (rules.map redact)).result =
        Option.map redact <$> (scan criterion c rules).result := by
  induction rules with
  | nil =>
      exact ⟨rfl, rfl⟩
  | cons r rest ih =>
      have hcarries : r.redact.carries criterion = r.carries criterion := rfl
      have htrial : tryConditions c r.redact.conditions = tryConditions c r.conditions := rfl
      rw [List.map_cons, scan, scan, hcarries, htrial]
      by_cases h : r.carries criterion = true
      · simp only [h, if_true]
        cases (tryConditions c r.conditions).result with
        | error fault =>
            exact ⟨rfl, rfl⟩
        | ok holds =>
            cases holds with
            | true => exact ⟨rfl, rfl⟩
            | false => exact ⟨congrArg (· + 1) ih.1, ih.2⟩
      · rw [if_neg h, if_neg h]
        exact ih

/-- The descriptor of a redacted rule is that of the rule. -/
theorem descriptor_redact_eq
    (r : Rule)
    (address : String)
    (now : Moment) :
    r.redact.descriptor address now = r.descriptor address now := by
  cases haction : r.action with
  | none => simp [descriptor, redact, haction]
  | some a => simp [descriptor, redact, haction, Action.descriptor_redact]

end Scanning

end Rule

namespace Decision

/-- The decision with a redacted rule. -/
def redact
    (d : Decision) : Decision :=
  { d with rule := d.rule.map Rule.redact }

@[simp] theorem clientView_redact
    (d : Decision) :
    d.redact.clientView = d.clientView := by
  cases hrule : d.rule with
  | none => simp [clientView, redact, ruleId, actionValue, hrule]
  | some r => simp [clientView, redact, ruleId, actionValue, hrule, Rule.redact]

theorem outcome_redact
    (found : Option Rule)
    (d : Decision) :
    outcome (found.map Rule.redact) d.redact = outcome found d := by
  simp [outcome, redact]

section Unprivileged

variable {s s' : Surroundings}

/-- Surroundings have one present and, redacted, the same rules. -/
structure AgreeOnVisible (s s' : Surroundings) : Prop where
  now : s.now = s'.now
  rules : List.map redactEntry <$> s.rules.raws = List.map redactEntry <$> s'.rules.raws

theorem AgreeOnVisible.load
    (h : AgreeOnVisible s s') :
    List.map Rule.redact <$> s.rules.load s.now =
      List.map Rule.redact <$> s'.rules.load s'.now := by
  unfold RuleSource.load
  obtain ⟨fault, hraws, hraws'⟩ | ⟨raws, raws', hraws, hraws', hmap⟩ :=
    map_eq_map_cases h.rules
  · simp [hraws, hraws']
  have hnormal : List.map Rule.redact <$> Rule.normalize s.now raws =
      List.map Rule.redact <$> Rule.normalize s'.now raws' := by
    rw [← Rule.normalize_redact, ← Rule.normalize_redact, hmap, h.now]
  simp only [hraws, hraws']
  obtain ⟨fault, hread, hread'⟩ | ⟨rules, rules', hread, hread', hrules⟩ :=
    map_eq_map_cases hnormal
  · simp [hread, hread']
  · simp [hread, hread', hrules]

/-- Unprivileged decisions on rules that are redacted alike are, redacted, the same. -/
theorem ofRule_redact
    (hnow : s.now = s'.now)
    (address : String)
    (looked : Nat)
    {r r' : Rule}
    (hr : r.redact = r'.redact) :
    redact <$> ofRule s false address looked r = redact <$> ofRule s' false address looked r' := by
  have hdescriptor : r.descriptor address s.now = r'.descriptor address s'.now := by
    rw [← Rule.descriptor_redact_eq r, ← Rule.descriptor_redact_eq r', hr, hnow]
  have hcriteria : r.criteria = r'.criteria := by
    change r.redact.criteria = r'.redact.criteria
    rw [hr]
  simp only [ofRule, hdescriptor, hcriteria]
  cases r'.descriptor address s'.now with
  | error fault => rfl
  | ok action =>
      cases action with
      | none => rfl
      | some d => simp [redact, hr]

/-- Surroundings that agree on what is visible decide alike in a context. -/
theorem AgreeOnVisible.inContext
    (h : AgreeOnVisible s s')
    (criterion : String)
    (c : Context) :
    Prod.map (Option.map Rule.redact) redact <$> Decision.inContext s criterion false c =
      Prod.map (Option.map Rule.redact) redact <$> Decision.inContext s' criterion false c := by
  unfold Decision.inContext
  obtain ⟨fault, hload, hload'⟩ | ⟨rules, rules', hload, hload', hrules⟩ :=
    map_eq_map_cases h.load
  · simp [hload, hload']
  have hscan := Rule.scan_redact criterion c rules
  rw [hrules] at hscan
  have hscan' := Rule.scan_redact criterion c rules'
  have hlooked := hscan.1.symm.trans hscan'.1
  simp only [hload, hload', hlooked]
  obtain ⟨fault, hfound, hfound'⟩ | ⟨found, found', hfound, hfound', hr⟩ :=
    map_eq_map_cases (hscan.2.symm.trans hscan'.2)
  · simp [hfound, hfound']
  simp only [hfound, hfound']
  cases found with
  | none =>
      cases found' with
      | none => rfl
      | some r' => simp at hr
  | some r =>
      cases found' with
      | none => simp at hr
      | some r' =>
          have hsame : r.redact = r'.redact := by simpa using hr
          have hdecided := ofRule_redact h.now c.server.address
            (Rule.scan criterion c rules').looked hsame
          obtain ⟨fault, hd, hd'⟩ | ⟨d, d', hd, hd', heq⟩ := map_eq_map_cases hdecided
          · simp [hd, hd']
          · simp [hd, hd', heq, hsame]

theorem directive_of_ofRule
    {address : String}
    {looked : Nat}
    {r : Rule}
    {d : Decision}
    (h : ofRule s false address looked r = .ok d) :
    d.directive = none := by
  simp only [ofRule, Bool.false_eq_true, if_false, pure_bind, bind_eq_ok_iff, pure_eq_ok_iff] at h
  obtain ⟨action, -, rfl⟩ := h
  split <;> rfl

/-- No unprivileged decision has a directive. -/
theorem directive_of_decide
    {memory : Memory}
    {request : Request}
    {criterion : String}
    {d : Decision}
    (h : (Decision.decide s memory request criterion false).result = .ok d) :
    d.directive = none := by
  rw [result_decide] at h
  cases hrecord :
      (Resolver.resolve s.api s.lookup memory.cache (Context.addressOf request)).record with
  | none =>
      simp [hrecord] at h
  | some record =>
      simp only [hrecord, map_eq_ok_iff] at h
      obtain ⟨⟨found, d'⟩, hcontext, rfl⟩ := h
      obtain ⟨rules, -, -, hfound⟩ := inContext_eq_ok_iff.mp hcontext
      cases found with
      | none => exact congrArg Decision.directive hfound
      | some r => exact directive_of_ofRule hfound

/-- Surroundings that agree on what is visible decide alike. -/
theorem AgreeOnVisible.decide
    (h : AgreeOnVisible s s')
    (hapi : s.api = s'.api)
    (hlookup : s.lookup = s'.lookup)
    (helapsed : s.elapsed = s'.elapsed)
    (memory : Memory)
    (request : Request)
    (criterion : String) :
    let deciding := Decision.decide s memory request criterion false
    let deciding' := Decision.decide s' memory request criterion false
    deciding.memory = deciding'.memory ∧ deciding.calls = deciding'.calls ∧
      redact <$> deciding.result = redact <$> deciding'.result := by
  unfold Decision.decide
  simp only [hapi, hlookup, helapsed]
  generalize Resolver.resolve s'.api s'.lookup memory.cache (Context.addressOf request) =
    resolution
  cases hrecord : resolution.record with
  | none =>
      simp
  | some record =>
      simp only
      obtain ⟨fault, hd, hd'⟩ | ⟨⟨found, d⟩, ⟨found', d'⟩, hd, hd', heq⟩ :=
        map_eq_map_cases (h.inContext criterion
          (Context.ofRequest request (Context.addressOf request) record))
      · simp [hd, hd']
      · obtain ⟨hfound, hredact⟩ := Prod.mk.inj heq
        have houtcome : outcome found d = outcome found' d' := by
          rw [← outcome_redact found d, hfound, hredact, outcome_redact]
        simp [hd, hd', houtcome, hredact]

end Unprivileged

end Decision

section Signatures

open SharedAccess

/-- Configurations differ in their keys at most, and both keys sign alike what is signed. -/
structure SharedAccess.SignAlike
    (config config' : Members Json)
    (address : String)
    (now : Moment) : Prop where
  others : ∀ name, name ≠ "accountKeyB64" →
    Members.get? config' name = Members.get? config name
  key : (ofMembers config).key ≠ ""
  key' : (ofMembers config').key ≠ ""
  signature : ∀ fields, (ofMembers config).fieldsAt? address now = some fields →
    (sign fields.message (ofMembers config).key).toOption =
      (sign fields.message (ofMembers config').key).toOption

/-- The URL with its signature, if what is to be signed can be. -/
def SharedAccess.signed?
    (access : SharedAccess)
    (address : String)
    (now : Moment) : Option String :=
  (access.fieldsAt? address now).bind fun fields =>
    (sign fields.message access.key).toOption.map fun signature =>
      "https://" ++ access.host ++ "/" ++ access.path ++ "?"
        ++ parameterText (parameters fields signature)

/-- What a redirect makes of a URL that is to be signed. -/
theorem SharedAccess.signedUrl_eq
    (access : SharedAccess)
    (address : String)
    (now : Moment) :
    ActionFault.orUrl (access.url address now) =
      if access.account = "" ∨ access.key = "" then .ok ""
      else
        match access.signed? address now with
        | some url => if access.isUnicode then .ok url else .error .notUnicode
        | none => .ok "" := by
  unfold SharedAccess.url signed?
  by_cases hmissing : access.account = "" ∨ access.key = ""
  · have hmissing' : (decide (access.account = "") || decide (access.key = "")) = true := by
      simpa using hmissing
    rw [if_pos hmissing, if_pos hmissing']
    rfl
  · have hmissing' : ¬ (decide (access.account = "") || decide (access.key = "")) = true := by
      simpa using hmissing
    rw [if_neg hmissing, if_neg hmissing']
    cases access.fieldsAt? address now with
    | none =>
        rfl
    | some fields =>
        simp only [Option.bind_some]
        cases sign fields.message access.key with
        | error flaw => rfl
        | ok signature => cases access.isUnicode <;> rfl

/-- A key is used for nothing but the signature. -/
theorem SharedAccess.SignAlike.signed?_eq
    {config config' : Members Json}
    {address : String}
    {now : Moment}
    (h : SignAlike config config' address now) :
    (ofMembers config').account = (ofMembers config).account ∧
      (ofMembers config').isUnicode = (ofMembers config).isUnicode ∧
      (ofMembers config').signed? address now = (ofMembers config).signed? address now := by
  have hconfig : ofMembers config' = { ofMembers config with key := (ofMembers config').key } := by
    simp only [ofMembers, memberText, encodedNames, isHalved, List.any_cons, List.any_nil,
      h.others "accountName" (by decide),
      h.others "container" (by decide), h.others "entryBlob" (by decide),
      h.others "sv" (by decide), h.others "ttlSeconds" (by decide),
      h.others "lockByIP" (by decide), h.others "customDomain" (by decide)]
  have hfields : (ofMembers config').fieldsAt? address now =
      (ofMembers config).fieldsAt? address now := by
    rw [hconfig]
    rfl
  have hhost : (ofMembers config').host = (ofMembers config).host := by
    rw [hconfig]
    rfl
  have hpath : (ofMembers config').path = (ofMembers config).path := by
    rw [hconfig]
    rfl
  refine ⟨by rw [hconfig], by rw [hconfig], ?_⟩
  rw [signed?, signed?, hfields, hhost, hpath]
  apply Option.bind_congr
  intro fields hat
  rw [h.signature fields hat]

/-- A URL with its signature is not empty, and is there if what is to be signed can be. -/
theorem SharedAccess.exists_signed?_iff
    (access : SharedAccess)
    (address : String)
    (now : Moment) :
    (∃ url, url ≠ "" ∧ access.signed? address now = some url) ↔
      ∃ fields signature, access.fieldsAt? address now = some fields ∧
        sign fields.message access.key = .ok signature := by
  unfold signed?
  cases access.fieldsAt? address now with
  | none =>
      simp
  | some fields =>
      cases hsign : sign fields.message access.key with
      | error flaw => simp [hsign, Except.toOption]
      | ok signature => simp [hsign, Except.toOption]

namespace Action

/-- The kinds of actions that redirect. -/
def redirectKinds : List String :=
  [ActionKind.browserRedirect.name, ActionKind.permanentRedirect.name,
    ActionKind.temporaryRedirect.name]

theorem descriptor_of_redirect
    {a : Action}
    (hkind : a.kind ∈ redirectKinds)
    (ruleId : Option String)
    (address : String)
    (now : Moment) :
    a.descriptor ruleId address now = do
      let url ← a.target address now
      return if url = "" then none
        else some ⟨ActionKind.browserRedirect.name, a.redirectData url, ruleId⟩ := by
  have hofName : ActionKind.ofName? a.kind = some .browserRedirect ∨
      ActionKind.ofName? a.kind = some .permanentRedirect ∨
      ActionKind.ofName? a.kind = some .temporaryRedirect := by
    simp only [redirectKinds, List.mem_cons, List.not_mem_nil, or_false] at hkind
    rcases hkind with hkind | hkind | hkind
    · exact .inl (by rw [hkind]; rfl)
    · exact .inr (.inl (by rw [hkind]; rfl))
    · exact .inr (.inr (by rw [hkind]; rfl))
  unfold descriptor
  rcases hofName with h | h | h
  · rw [h]
  · rw [h]
  · rw [h]

/-- A redirect comes to something iff it has a target. -/
theorem exists_redirect_iff
    {α : Type}
    {a : Action}
    {address : String}
    {now : Moment}
    {of : String → α} :
    (∃ x, (do
        let url ← a.target address now
        return if url = "" then none else some (of url)) = .ok (some x)) ↔
      ∃ url, url ≠ "" ∧ a.target address now = .ok url := by
  cases a.target address now with
  | error fault => simp [bind, Except.bind]
  | ok url => by_cases hurl : url = "" <;> simp [hurl, bind, Except.bind, pure, Except.pure]

/-- The target of a signed redirect is the URL that its configuration gives. -/
theorem target_of_isSigned
    {a : Action}
    (hsigned : a.isSigned = true)
    {config : Members Json}
    (hconfig : a.datum "azure" = .object config)
    (address : String)
    (now : Moment) :
    a.target address now =
      if (ofMembers config).account = "" ∨ (ofMembers config).key = "" then .ok ""
      else
        match (ofMembers config).signed? address now with
        | some url => if (ofMembers config).isUnicode then .ok url else .error .notUnicode
        | none => .ok "" := by
  rw [target, if_pos hsigned, signedUrl, hconfig]
  exact signedUrl_eq (ofMembers config) address now

end Action

end Signatures

section Answers

open SharedAccess

/-- Two decisions that a client cannot tell apart, nor the next decision. -/
structure SameToClient
    (left right : Deciding) : Prop where
  memory : left.memory = right.memory
  calls : left.calls = right.calls
  view : Decision.clientView <$> left.result = Decision.clientView <$> right.result
  directive : ∀ d, left.result = .ok d → d.directive = none
  directive' : ∀ d, right.result = .ok d → d.directive = none

/-- Signed redirects whose configurations have keys that sign alike. -/
structure SignedAlike
    (a a' : Action)
    (config config' : Members Json)
    (address : String)
    (now : Moment) : Prop where
  kind : a.kind ∈ Action.redirectKinds
  kind' : a'.kind ∈ Action.redirectKinds
  signed : a.isSigned = true
  signed' : a'.isSigned = true
  configured : a.datum "azure" = .object config
  configured' : a'.datum "azure" = .object config'
  alike : SignAlike config config' address now

theorem SignedAlike.target_eq
    {a a' : Action}
    {config config' : Members Json}
    {address : String}
    {now : Moment}
    (h : SignedAlike a a' config config' address now) :
    a.target address now = a'.target address now := by
  obtain ⟨haccount, hunicode, hsigned⟩ := h.alike.signed?_eq
  rw [Action.target_of_isSigned h.signed h.configured,
    Action.target_of_isSigned h.signed' h.configured', haccount, hunicode, hsigned]
  simp only [h.alike.key, h.alike.key']

/--
**What only the server may see stays with the server.**  Rules that differ only in
members of action data that a client may not see, and whatever files may be included,
bring an unprivileged caller the same view and no directive.  Of a configuration that
signs, the key reaches the descriptor only through the signature: keys that sign alike
give one descriptor, which holds the signed URL twice and nothing else.
-/
theorem unprivileged_answer_discloses_visible_only
    (s : Surroundings)
    (rules' : RuleSource)
    (root' : Option IncludeRoot)
    (hvisible : List.map redactEntry <$> s.rules.raws = List.map redactEntry <$> rules'.raws)
    (memory : Memory)
    (request : Request)
    (criterion : String) :
    SameToClient
        (Decision.decide s memory request criterion false)
        (Decision.decide { s with rules := rules', includeRoot := root' } memory request criterion
          false) ∧
      ∀ a a' config config' address now, SignedAlike a a' config config' address now →
        ∀ ruleId,
          a.descriptor ruleId address now = a'.descriptor ruleId address now ∧
          (∀ d, a.descriptor ruleId address now = .ok (some d) →
            ∃ url, url ≠ "" ∧
              d = ⟨"js-redirect", [("url", .string url), ("resolved_url", .string url)],
                ruleId⟩) ∧
          ((∃ d, a.descriptor ruleId address now = .ok (some d)) ↔
            (ofMembers config).account ≠ "" ∧ (ofMembers config).isUnicode = true ∧
              ∃ fields signature, (ofMembers config).fieldsAt? address now = some fields ∧
                sign fields.message (ofMembers config).key = .ok signature) := by
  have hagree : Decision.AgreeOnVisible s { s with rules := rules', includeRoot := root' } :=
    ⟨rfl, hvisible⟩
  obtain ⟨hmemory, hcalls, hredacted⟩ := hagree.decide rfl rfl rfl memory request criterion
  have hview : Decision.clientView <$> (Decision.decide s memory request criterion false).result =
      Decision.clientView <$> (Decision.decide { s with rules := rules', includeRoot := root' }
        memory request criterion false).result := by
    obtain ⟨fault, hd, hd'⟩ | ⟨d, d', hd, hd', heq⟩ := map_eq_map_cases hredacted
    · rw [hd, hd']
    · have hsame : d.clientView = d'.clientView := by
        rw [← Decision.clientView_redact d, heq, Decision.clientView_redact]
      rw [hd, hd']
      exact congrArg Except.ok hsame
  refine ⟨⟨hmemory, hcalls, hview, fun d => Decision.directive_of_decide,
    fun d => Decision.directive_of_decide⟩, ?_⟩
  intro a a' config config' address now h ruleId
  have hdescriptor := Action.descriptor_of_redirect h.kind ruleId address now
  have hdescriptor' := Action.descriptor_of_redirect h.kind' ruleId address now
  refine ⟨?_, ?_, ?_⟩
  · rw [hdescriptor, hdescriptor', h.target_eq]
    simp only [Action.redirectData, h.signed, h.signed']
  · intro d hd
    rw [hdescriptor] at hd
    obtain ⟨url, -, hurl⟩ := bind_eq_ok_iff.mp hd
    rw [pure_eq_ok_iff] at hurl
    by_cases hempty : url = ""
    · simp [hempty] at hurl
    · refine ⟨url, hempty, ?_⟩
      rw [if_neg hempty, Action.redirectData, if_pos h.signed] at hurl
      exact (Option.some.inj hurl).symm
  · rw [hdescriptor, Action.exists_redirect_iff,
      Action.target_of_isSigned h.signed h.configured, ← exists_signed?_iff]
    by_cases haccount : (ofMembers config).account = ""
    · simp [haccount]
    · simp only [haccount, h.alike.key, or_self, if_false, not_false_eq_true, ne_eq, true_and]
      cases (ofMembers config).isUnicode <;>
        cases (ofMembers config).signed? address now <;> simp

/-- A rule that echoes a text. -/
def echoRule
    (text : String) : Json :=
  .object
    [("id", .string "greeting"), ("criteria", .array [.string Rule.serverSide]),
      ("action", .object
        [("type", .string "server-echo-data"), ("data", .object [("text", .string text)])])]

/-- A configuration that signs with a key. -/
def keyedConfig
    (key : String) : Members Json :=
  [("accountName", .string "shop"), ("accountKeyB64", .string key)]

/-- A redirect to the URL that is signed with a key. -/
def keyedRedirect
    (key : String) : Action :=
  ⟨"js-redirect", [("mode", .string "azure"), ("azure", .object (keyedConfig key))]⟩

theorem raws_echoRule
    (text : String) :
    (RuleSource.holding (.array [echoRule text])).raws = .ok [echoRule text] :=
  RuleSource.raws_holding (by simp [echoRule])

-- A key and the same key with a zero byte fill one block of the hash alike.
theorem sign_key_filled
    (message : String) :
    sign message "YQ==" = sign message "YQA=" := by
  have hkey : Base64.decode "YQ==" = .ok [97] := by decide
  have hfilled : Base64.decode "YQA=" = .ok [97, 0] := by decide
  have hblock : Sha256.keyBlock [97] = Sha256.keyBlock [97, 0] := by decide
  simp only [sign, hkey, hfilled, Sha256.keyedHash, hblock, bind, Except.bind]

theorem keyedRedirect_signedAlike
    (address : String)
    (now : Moment) :
    SignedAlike (keyedRedirect "YQ==") (keyedRedirect "YQA=") (keyedConfig "YQ==")
      (keyedConfig "YQA=") address now where
  kind := by decide
  kind' := by decide
  signed := by decide
  signed' := by decide
  configured := rfl
  configured' := rfl
  alike :=
    { others := by
        intro name hname
        have hkey : ("accountKeyB64" == name) = false := by simpa using hname.symm
        simp [keyedConfig, Members.get?, List.find?_cons, hkey]
      key := by decide
      key' := by decide
      signature := by
        intro fields _
        have hsign := sign_key_filled fields.message
        exact congrArg Except.toOption hsign }

/-- Neither an echoed text nor a key that signs alike shows. -/
theorem echoed_text_and_key_stay_hidden :
    List.map redactEntry <$> (RuleSource.holding (.array [echoRule "open sesame"])).raws =
        List.map redactEntry <$> (RuleSource.holding (.array [echoRule "hello"])).raws ∧
      SignedAlike (keyedRedirect "YQ==") (keyedRedirect "YQA=") (keyedConfig "YQ==")
        (keyedConfig "YQA=") "198.51.100.7" .first ∧
      SameToClient
        (Decision.decide (.offline (.holding (.array [echoRule "open sesame"])))
          ⟨.folder .initial, none⟩ ⟨"GET", "/", "", "", [], [], [], [], "198.51.100.7", none⟩
          Rule.serverSide false)
        (Decision.decide (.offline (.holding (.array [echoRule "hello"])))
          ⟨.folder .initial, none⟩ ⟨"GET", "/", "", "", [], [], [], [], "198.51.100.7", none⟩
          Rule.serverSide false) ∧
      (keyedRedirect "YQ==").descriptor none "198.51.100.7" .first =
        (keyedRedirect "YQA=").descriptor none "198.51.100.7" .first := by
  have hvisible :
      List.map redactEntry <$> (RuleSource.holding (.array [echoRule "open sesame"])).raws =
        List.map redactEntry <$> (RuleSource.holding (.array [echoRule "hello"])).raws := by
    rw [raws_echoRule, raws_echoRule]
    rfl
  have halike := keyedRedirect_signedAlike "198.51.100.7" .first
  obtain ⟨hsame, hsigned⟩ := unprivileged_answer_discloses_visible_only
    (.offline (.holding (.array [echoRule "open sesame"])))
    (.holding (.array [echoRule "hello"])) none hvisible ⟨.folder .initial, none⟩
    ⟨"GET", "/", "", "", [], [], [], [], "198.51.100.7", none⟩ Rule.serverSide
  exact ⟨hvisible, halike, hsame, (hsigned _ _ _ _ _ _ halike none).1⟩

end Answers

end Turnstile
