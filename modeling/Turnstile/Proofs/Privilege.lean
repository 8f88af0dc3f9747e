import Turnstile.Proofs.Disclosure
import Turnstile.Proofs.IncludedFiles
import Turnstile.Service.Exchange

/-!
# What privilege adds

A privileged decision resolves the action of the rule twice, to a descriptor and to a
directive, and keeps the rule if either is there.  No action has a directive without a
descriptor, so the directive is all that privilege adds: the rule, the descriptor, what
is counted and what is remembered are those of an unprivileged decision.

**Names of files.**  Only an include whose file has a name longer than names can be ends a
privileged decision in a fault of its own, so names are assumed to be short enough.  A URL that
cannot be signed ends both decisions alike.

**Results.**
* `Rule.exists_descriptor_of_directive`: a directive comes with a descriptor.
* `Rule.directive_of_serverRedirect`: the directive of a redirect on the server.
* `privilege_adds_directive_only`: decisions, and the answers of both endpoints.
-/

namespace Turnstile

section Directives

/-- The redirects that the server makes itself, with their statuses. -/
def Action.serverStatuses : List (String × Nat) :=
  [("server-301-redirect", 301), ("server-302-redirect", 302)]

/-- The action is no include of a file with a name that is too long. -/
def Action.hasShortName
    (a : Action) : Bool :=
  a.kind != "server-include" ||
    !IncludeRoot.isTooLong (IncludeRoot.lastPart (a.datum "file").display)

namespace Action

variable {a : Action} {address : String} {now : Moment}

/-- What a redirect comes to, once its target is known. -/
theorem redirectDirective_eq
    {target : Except ActionFault String}
    (htarget : a.target address now = target)
    (status : Nat) :
    a.redirectDirective status address now =
      target.map fun url => if url = "" then none else some (.redirect status url) := by
  rw [redirectDirective, htarget]
  cases target <;> rfl

/-- A directive comes with a descriptor. -/
theorem exists_descriptor_of_directive
    {root : Option IncludeRoot}
    {directive : Directive}
    (h : a.directive root address now = .ok (some directive))
    (ruleId : Option String) :
    ∃ descriptor, a.descriptor ruleId address now = .ok (some descriptor) := by
  unfold Action.directive at h
  unfold descriptor
  cases hkind : ActionKind.ofName? a.kind with
  | none => simp [hkind] at h
  | some kind =>
      rw [hkind] at h
      cases kind with
      | permanentRedirect | temporaryRedirect =>
          simp only at h
          cases htarget : a.target address now with
          | error fault =>
              rw [redirectDirective_eq htarget] at h
              cases h
          | ok url =>
              rw [redirectDirective_eq htarget] at h
              by_cases hurl : url = ""
              · simp [Except.map, hurl] at h
              · exact ⟨_, by simp only [bind, Except.bind, hurl, if_false]; rfl⟩
      | includeFile | echo => exact ⟨_, rfl⟩
      | browserRedirect | html | script => cases h

/-- A directive is determined where a descriptor is, unless a name is too long. -/
theorem exists_directive
    (root : Option IncludeRoot)
    (hshort : a.hasShortName = true)
    {ruleId : Option String}
    {found : Option Descriptor}
    (hdescriptor : a.descriptor ruleId address now = .ok found) :
    ∃ directive, a.directive root address now = .ok directive := by
  unfold descriptor at hdescriptor
  unfold Action.directive
  cases hkind : ActionKind.ofName? a.kind with
  | none => exact ⟨_, rfl⟩
  | some kind =>
      rw [hkind] at hdescriptor
      cases kind with
      | permanentRedirect | temporaryRedirect =>
          cases htarget : a.target address now with
          | error fault =>
              rw [htarget] at hdescriptor
              cases hdescriptor
          | ok url => exact ⟨_, redirectDirective_eq htarget _⟩
      | includeFile =>
          have hname : a.kind = "server-include" := (ActionKind.name_of_ofName? hkind).symm
          have hfits : IncludeRoot.isTooLong (IncludeRoot.lastPart (a.datum "file").display) =
              false := by
            simpa [hasShortName, hname] using hshort
          cases root with
          | none => exact ⟨_, rfl⟩
          | some root =>
              obtain ⟨found, hfound⟩ := root.exists_isFile_pathOf hfits
              simp only [includeDirective, hfound]
              split
              · exact ⟨_, rfl⟩
              · exact ⟨_, rfl⟩
      | _ => exact ⟨_, rfl⟩

/-- A redirect that the server makes is one to the target, if there is a target. -/
theorem directive_of_serverRedirect
    {status : Nat}
    (hkind : (a.kind, status) ∈ serverStatuses)
    (root : Option IncludeRoot)
    (address : String)
    (now : Moment) :
    a.directive root address now = a.redirectDirective status address now := by
  simp only [serverStatuses, List.mem_cons, Prod.mk.injEq, List.not_mem_nil, or_false] at hkind
  unfold Action.directive
  rcases hkind with ⟨hkind, rfl⟩ | ⟨hkind, rfl⟩
  · rw [hkind]
    rfl
  · rw [hkind]
    rfl

theorem mem_redirectKinds_of_serverStatuses
    {status : Nat}
    (hkind : (a.kind, status) ∈ serverStatuses) :
    a.kind ∈ redirectKinds := by
  simp only [serverStatuses, List.mem_cons, Prod.mk.injEq, List.not_mem_nil, or_false] at hkind
  rcases hkind with ⟨hkind, -⟩ | ⟨hkind, -⟩
  · rw [hkind]
    decide
  · rw [hkind]
    decide

end Action

namespace Rule

variable {r : Rule} {address : String} {now : Moment}

/-- The action of the rule is no include of a file with a name that is too long. -/
def hasShortName
    (r : Rule) : Bool :=
  r.action.all Action.hasShortName

theorem exists_descriptor_of_directive
    {root : Option IncludeRoot}
    {directive : Directive}
    (h : r.directive root address now = .ok (some directive)) :
    ∃ descriptor, r.descriptor address now = .ok (some descriptor) := by
  unfold Rule.directive at h
  unfold descriptor
  cases haction : r.action with
  | none => simp [haction] at h
  | some a =>
      rw [haction] at h
      exact Action.exists_descriptor_of_directive h r.id

theorem exists_directive
    (root : Option IncludeRoot)
    (hshort : r.hasShortName = true)
    {found : Option Descriptor}
    (hdescriptor : r.descriptor address now = .ok found) :
    ∃ directive, r.directive root address now = .ok directive := by
  unfold descriptor at hdescriptor
  unfold Rule.directive
  cases haction : r.action with
  | none => exact ⟨none, rfl⟩
  | some a =>
      rw [haction] at hdescriptor
      have hname : a.hasShortName = true := by
        simpa [hasShortName, haction] using hshort
      exact Action.exists_directive root hname hdescriptor

/--
A redirect that the server makes has the URL of its descriptor, and there are both or none; if
the URL cannot be signed, both are at fault.
-/
theorem directive_of_serverRedirect
    {a : Action}
    {status : Nat}
    (haction : r.action = some a)
    (hkind : (a.kind, status) ∈ Action.serverStatuses)
    (root : Option IncludeRoot)
    (address : String)
    (now : Moment) :
    (r.directive root address now = .ok none ∧ r.descriptor address now = .ok none) ∨
      (∃ location descriptor,
        r.directive root address now = .ok (some (.redirect status location)) ∧
        r.descriptor address now = .ok (some descriptor) ∧
        descriptor.data.get? "url" = some (.string location)) ∨
      ∃ fault, r.directive root address now = .error fault ∧
        r.descriptor address now = .error fault := by
  have hdirective := Action.directive_of_serverRedirect hkind root address now
  have hdescriptor := Action.descriptor_of_redirect
    (Action.mem_redirectKinds_of_serverStatuses hkind) r.id address now
  simp only [Rule.directive, descriptor, haction, hdirective, hdescriptor]
  cases htarget : a.target address now with
  | error fault =>
      rw [Action.redirectDirective_eq htarget]
      exact .inr (.inr ⟨fault, rfl, rfl⟩)
  | ok url =>
      rw [Action.redirectDirective_eq htarget]
      by_cases hurl : url = ""
      · subst hurl
        exact .inl ⟨rfl, rfl⟩
      · simp only [Except.map, bind, Except.bind, if_neg hurl]
        exact .inr (.inl ⟨_, _, rfl, rfl, rfl⟩)

end Rule

end Directives

section Decisions

/-- No rule that is loaded includes a file with a name that is too long. -/
def Surroundings.HasShortNames
    (s : Surroundings) : Prop :=
  ∀ rules, s.rules.load s.now = .ok rules → ∀ r ∈ rules, r.hasShortName = true

namespace Decision

variable {s : Surroundings}

def withoutDirective
    (d : Decision) : Decision :=
  { d with directive := none }

@[simp] theorem clientView_withoutDirective
    (d : Decision) :
    d.withoutDirective.clientView = d.clientView :=
  rfl

/-- Privilege adds the directive to the decision for a rule. -/
theorem ofRule_withoutDirective
    (s : Surroundings)
    {r : Rule}
    (hshort : r.hasShortName = true)
    (address : String)
    (looked : Nat) :
    ofRule s false address looked r = withoutDirective <$> ofRule s true address looked r := by
  cases hdescriptor : r.descriptor address s.now with
  | error fault =>
      simp only [ofRule, hdescriptor]
      rfl
  | ok found =>
      obtain ⟨directive, hdirective⟩ := Rule.exists_directive s.includeRoot hshort hdescriptor
      simp only [ofRule, hdescriptor, hdirective, if_true, Bool.false_eq_true, if_false]
      cases found with
      | some descriptor =>
          rfl
      | none =>
          -- So whether the rule is kept does not depend on the directive.
          have hnone : directive = none := by
            rw [Option.eq_none_iff_forall_ne_some]
            rintro d rfl
            obtain ⟨descriptor, hsome⟩ := Rule.exists_descriptor_of_directive hdirective
            rw [hdescriptor] at hsome
            cases hsome
          rw [hnone]
          rfl

/-- Privilege adds the directive to a decision in a context. -/
theorem inContext_withoutDirective
    (hshort : s.HasShortNames)
    (criterion : String)
    (c : Context) :
    inContext s criterion false c =
      Prod.map id withoutDirective <$> inContext s criterion true c := by
  unfold inContext
  cases hload : s.rules.load s.now with
  | error fault =>
      rfl
  | ok rules =>
      simp only
      cases hscan : (Rule.scan criterion c rules).result with
      | error fault =>
          rfl
      | ok found =>
          cases found with
          | none =>
              rfl
          | some r =>
              have hmem : r ∈ rules := by
                have hfirst := Rule.scan_eq_first_match criterion c hscan
                exact List.mem_of_mem_filter (List.mem_of_head? hfirst.symm)
              have hrule := ofRule_withoutDirective s (hshort rules hload r hmem)
                c.server.address (Rule.scan criterion c rules).looked
              simp only [hrule]
              cases ofRule s true c.server.address (Rule.scan criterion c rules).looked r with
              | error fault => rfl
              | ok d => rfl

end Decision

/-- What an unprivileged decision brings is what the privileged one does without a directive. -/
structure AddsDirectiveOnly
    (unprivileged privileged : Deciding) : Prop where
  /-- The cache, and what is counted: the same lookups and the same outcome. -/
  memory : unprivileged.memory = privileged.memory
  calls : unprivileged.calls = privileged.calls
  /-- The rule, the descriptor, the criteria and the number of rules looked at. -/
  result : unprivileged.result = Decision.withoutDirective <$> privileged.result
  directive : ∀ d, unprivileged.result = .ok d → d.directive = none

/-- Privilege adds the directive to a decision. -/
theorem Decision.decide_addsDirectiveOnly
    {s : Surroundings}
    (hshort : s.HasShortNames)
    (memory : Memory)
    (request : Request)
    (criterion : String) :
    AddsDirectiveOnly (decide s memory request criterion false)
      (decide s memory request criterion true) := by
  have hsame :
      (decide s memory request criterion false).memory =
          (decide s memory request criterion true).memory ∧
        (decide s memory request criterion false).calls =
          (decide s memory request criterion true).calls ∧
        (decide s memory request criterion false).result =
          withoutDirective <$> (decide s memory request criterion true).result := by
    simp only [decide, inContext_withoutDirective hshort]
    cases (Resolver.resolve s.api s.lookup memory.cache (Context.addressOf request)).record with
    | none =>
        exact ⟨rfl, rfl, rfl⟩
    | some record =>
        simp only
        cases inContext s criterion true
            (Context.ofRequest request (Context.addressOf request) record) with
        | error fault => exact ⟨rfl, rfl, rfl⟩
        | ok decided => exact ⟨rfl, rfl, rfl⟩
  obtain ⟨hmemory, hcalls, hresult⟩ := hsame
  exact ⟨hmemory, hcalls, hresult, fun d => directive_of_decide⟩

end Decisions

section Endpoints

/-- The name of the member that holds the directive. -/
def directiveName : String := "directive"

/-- The answer without the member that holds a directive. -/
def Http.Answer.withoutDirective
    (a : Http.Answer) : Http.Answer :=
  { a with
    content :=
      match a.content with
      | .document (.object members) => .document (.object (Members.erase members directiveName))
      | other => other }

def Http.Request.posted
    (r : Http.Request)
    (e : Http.Endpoint) : Http.Request :=
  { r with method := "POST", target := ⟨e.path, r.target.parameters⟩ }

/-- The outcome without the member of the answer that holds a directive. -/
def Outcome.withoutDirective : Outcome → Outcome
  | .answered a => .answered a.withoutDirective
  | other => other

namespace Handling

def withoutDirective
    (h : Handling) : Handling :=
  { h with outcome := h.outcome.withoutDirective }

/-- The report of a decision to a privileged caller, without the directive. -/
theorem report_serverView
    (d : Decision) :
    (report d.serverView).withoutDirective = report d.withoutDirective.clientView := by
  rw [Decision.clientView_withoutDirective]
  simp [report, Outcome.withoutDirective, Http.Answer.withoutDirective, Http.Answer.object,
    Http.Answer.plain, Decision.serverView, Decision.clientView, Json.finiteMembers,
    Members.erase, directiveName]

theorem ofDecisionFault_withoutDirective
    (fault : DecisionFault) :
    (ofDecisionFault fault).withoutDirective = ofDecisionFault fault := by
  cases fault with
  | load fault =>
      cases fault with
      | source fault => cases fault <;> rfl
      | rule fault => rfl
  | _ => rfl

variable {s : Service} {e : Engine}

/-- Privilege adds the directive to the handling of a visit. -/
theorem decide_withoutDirective
    (hshort : e.surroundings.HasShortNames)
    {r r' : Http.Request}
    (hcriterion : criterion s r = criterion s r')
    (visit : Request) :
    decide s e r false Decision.clientView visit =
      (decide s e r' true Decision.serverView visit).withoutDirective := by
  obtain ⟨hmemory, hcalls, hresult, -⟩ := Decision.decide_addsDirectiveOnly hshort
    ⟨e.cache, some s.tally⟩ visit (criterion s r')
  simp only [decide, withoutDirective, hcriterion, hmemory, hcalls, hresult]
  cases (Decision.decide e.surroundings ⟨e.cache, some s.tally⟩ visit (criterion s r')
      true).result with
  | error fault => simp only [Except.map_error, ofDecisionFault_withoutDirective]
  | ok d => simp only [Except.map_ok, report_serverView]

/-- An admitted caller gets the answer for browsers with a directive besides. -/
theorem evaluate_posted
    (hshort : e.surroundings.HasShortNames)
    {r : Http.Request}
    (hadmitted : Admission.failure? s.settings.apiKey r = none) :
    evaluate s e (r.posted .evaluate) =
      (evaluateServerSide s e (r.posted .serverSide)).withoutDirective := by
  have hread : ∀ endpoint, Http.Payload.read (r.posted endpoint) = Http.Payload.read r :=
    fun _ => rfl
  have hadmitted' : Admission.failure? s.settings.apiKey (r.posted .serverSide) = none := hadmitted
  have hcriterion : criterion s (r.posted .evaluate) = criterion s (r.posted .serverSide) := rfl
  simp only [evaluate, evaluateServerSide, withPayload, whenAdmitted, hread, hadmitted', onPayload]
  cases Http.Payload.read r with
  | error flaw =>
      rfl
  | ok payload =>
      simp only
      cases payload.visit with
      | error flaws => rfl
      | ok visit => exact decide_withoutDirective hshort hcriterion visit

end Handling

namespace Exchange

variable {s : Service} {e : Engine}

theorem route_eq_endpoint
    {r : Http.Request}
    {endpoint : Http.Endpoint}
    {segment : String}
    (h : Http.Route.find s.endpoints r.method r.target.path = .endpoint endpoint segment) :
    Handling.route s r = Handling.endpoint s r segment endpoint := by
  rw [Handling.route, h]

/-- Both endpoints for decisions are found, with or without the documentation before them. -/
theorem find_decisions
    (hengine : s.engine = some e) :
    Http.Route.find s.endpoints "POST" "/decisions/evaluate" = .endpoint .evaluate "" ∧
      Http.Route.find s.endpoints "POST" "/decisions/server-side" = .endpoint .serverSide "" := by
  rw [Service.endpoints, hengine, Option.isSome_some]
  cases s.isLocal with
  | true => decide
  | false => decide

/-- Where requests lead that are posted to the endpoints for decisions. -/
theorem handled_posted
    (hengine : s.engine = some e)
    (r : Http.Request) :
    handled s (r.posted .evaluate) = Handling.evaluate s e (r.posted .evaluate) ∧
      handled s (r.posted .serverSide) =
        Handling.evaluateServerSide s e (r.posted .serverSide) := by
  obtain ⟨hevaluate, hserverSide⟩ := find_decisions hengine
  -- What is posted does not ask whether a page may call.
  have hroute : ∀ endpoint : Http.Endpoint,
      handled s (r.posted endpoint) = Handling.route s (r.posted endpoint) :=
    fun _ => rfl
  constructor
  · have hfound : Http.Route.find s.endpoints (r.posted .evaluate).method
        (r.posted .evaluate).target.path = .endpoint .evaluate "" := hevaluate
    rw [hroute, route_eq_endpoint hfound]
    simp only [Handling.endpoint, hengine]
    rfl
  · have hfound : Http.Route.find s.endpoints (r.posted .serverSide).method
        (r.posted .serverSide).target.path = .endpoint .serverSide "" := hserverSide
    rw [hroute, route_eq_endpoint hfound]
    simp only [Handling.endpoint, hengine]
    rfl

/-- Taking out the directive is a matter of the answer, and of no failure. -/
theorem concluded_withoutDirective
    (h : Handling)
    (name : String) :
    concluded h.withoutDirective name =
      Prod.map id (Option.map Http.Answer.withoutDirective) (concluded h name) := by
  obtain ⟨service, outcome, calls, readsRules⟩ := h
  cases outcome with
  | answered a => rfl
  | failed f => rfl
  | broken => rfl

theorem marked_withoutDirective
    (r : Http.Request)
    (a : Http.Answer) :
    marked s r a.withoutDirective = (marked s r a).withoutDirective := by
  unfold marked Http.Cors.mark
  split
  · rfl
  · split
    · rfl
    · rfl

/-- An admitted caller gets the answer for browsers with a directive besides. -/
theorem run_posted
    (hshort : e.surroundings.HasShortNames)
    (hengine : s.engine = some e)
    {r : Http.Request}
    (hadmitted : Admission.failure? s.settings.apiKey r = none)
    (o : Occasion) :
    (run s (r.posted .serverSide) o).answer.withoutDirective =
        (run s (r.posted .evaluate) o).answer ∧
      (run s (r.posted .serverSide) o).calls = (run s (r.posted .evaluate) o).calls ∧
      (run s (r.posted .serverSide) o).service.engine =
        (run s (r.posted .evaluate) o).service.engine := by
  obtain ⟨hevaluate, hserverSide⟩ := handled_posted hengine r
  have hsame : handled s (r.posted .evaluate) =
      (handled s (r.posted .serverSide)).withoutDirective := by
    rw [hevaluate, hserverSide, Handling.evaluate_posted hshort hadmitted]
  have hid : requestId (r.posted .evaluate) o = requestId (r.posted .serverSide) o := rfl
  have hmarked : ∀ a, marked s (r.posted .evaluate) a = marked s (r.posted .serverSide) a :=
    fun _ => rfl
  simp only [run, hid, hsame, concluded_withoutDirective, hmarked]
  obtain ⟨service, answer?⟩ := concluded (handled s (r.posted .serverSide))
    (requestId (r.posted .serverSide) o)
  cases answer? with
  | none =>
      exact ⟨rfl, rfl, rfl⟩
  | some a =>
      simp only [Prod.map_apply, Option.map_some, id_eq, marked_withoutDirective]
      exact ⟨rfl, rfl, rfl⟩

end Exchange

/--
**Privilege adds the directive only.**  With names of files that are short enough, a
privileged decision is the unprivileged one with a directive besides: the same rule,
descriptor, criteria and number of rules looked at, the same lookups, cache and counts.  A
directive never comes without a descriptor, and that of a redirect on the server leads to
the URL of its descriptor; where the one is at fault, so is the other.  So a caller who is
admitted gets, without the directive, the answer for browsers.
-/
theorem privilege_adds_directive_only
    (s : Surroundings)
    (hshort : s.HasShortNames) :
    (∀ memory request criterion,
      AddsDirectiveOnly (Decision.decide s memory request criterion false)
        (Decision.decide s memory request criterion true)) ∧
    (∀ (r : Rule) root address now,
      (∀ directive, r.directive root address now = .ok (some directive) →
        ∃ descriptor, r.descriptor address now = .ok (some descriptor)) ∧
      ∀ a status, r.action = some a → (a.kind, status) ∈ Action.serverStatuses →
        (r.directive root address now = .ok none ∧ r.descriptor address now = .ok none) ∨
          (∃ location descriptor,
            r.directive root address now = .ok (some (.redirect status location)) ∧
            r.descriptor address now = .ok (some descriptor) ∧
            descriptor.data.get? "url" = some (.string location)) ∨
          ∃ fault, r.directive root address now = .error fault ∧
            r.descriptor address now = .error fault) ∧
    ∀ (service : Service) cache, service.engine = some ⟨s, cache⟩ →
      ∀ (r : Http.Request) o, Admission.failure? service.settings.apiKey r = none →
        (Exchange.run service (r.posted .serverSide) o).answer.withoutDirective =
            (Exchange.run service (r.posted .evaluate) o).answer ∧
          (Exchange.run service (r.posted .serverSide) o).calls =
            (Exchange.run service (r.posted .evaluate) o).calls ∧
          (Exchange.run service (r.posted .serverSide) o).service.engine =
            (Exchange.run service (r.posted .evaluate) o).service.engine := by
  refine ⟨Decision.decide_addsDirectiveOnly hshort, ?_, ?_⟩
  · intro r root address now
    refine ⟨fun directive => Rule.exists_descriptor_of_directive, ?_⟩
    intro a status haction hkind
    exact Rule.directive_of_serverRedirect haction hkind root address now
  · intro service cache hengine r o hadmitted
    exact Exchange.run_posted hshort hengine hadmitted o

/-- A rule that includes a file. -/
def includeRule : Json :=
  .object
    [("id", .string "banner"), ("criteria", .array [.string Rule.serverSide]),
      ("action", .object
        [("type", .string "server-include"), ("data", .object [("file", .string "banner.html")])])]

/-- Surroundings with the rule and its file. -/
def includingSurroundings : Surroundings :=
  { Surroundings.offline (.holding (.array [includeRule])) with
    includeRoot := some (.ofFiles "/srv/pages" [("banner.html", "")]) }

/-- A service with a key that decides in these surroundings. -/
def keyedService : Service where
  name := Service.decisionsName
  settings := { (Settings.check []).value with apiKey := some "open sesame" }
  tally := Tally.initial Service.decisionsName
  engine := some ⟨includingSurroundings, .folder .initial⟩
  ailments := ⟨none, []⟩

/-- A report of a visit that brings the key. -/
def keyedRequest : Http.Request :=
  ⟨"POST", ⟨"/", []⟩, [("x-api-key", "open sesame"), ("content-type", "application/json")],
    "\x7b\"remoteIp\": \"198.51.100.7\"\x7d"⟩

/-- A caller with the key gets the answer for browsers, but for a directive. -/
theorem keyed_caller_gets_directive_besides :
    includingSurroundings.HasShortNames ∧
    Admission.failure? keyedService.settings.apiKey keyedRequest = none ∧
    (Exchange.run keyedService (keyedRequest.posted .serverSide)
        ⟨"r-1", Double.zero⟩).answer.withoutDirective =
      (Exchange.run keyedService (keyedRequest.posted .evaluate) ⟨"r-1", Double.zero⟩).answer := by
  have hraws : includingSurroundings.rules.raws = .ok [includeRule] :=
    RuleSource.raws_holding (by simp [includeRule])
  have hshort : includingSurroundings.HasShortNames := by
    intro rules hload r hr
    obtain ⟨raws, hraws', hrules⟩ := RuleSource.load_eq_ok_iff.mp hload
    obtain rfl := Except.ok.inj (hraws.symm.trans hraws')
    obtain ⟨-, rfl⟩ := Rule.normalize_eq_ok_iff.mp hrules
    obtain ⟨raw, hraw, hread⟩ := List.mem_filterMap.mp (List.mem_mergeSort.mp hr)
    obtain rfl := List.mem_singleton.mp hraw
    obtain rfl := Option.some.inj hread
    decide
  have hadmitted : Admission.failure? keyedService.settings.apiKey keyedRequest = none := by
    decide
  have hengine : keyedService.engine = some ⟨includingSurroundings, .folder .initial⟩ := rfl
  obtain ⟨-, -, hanswers⟩ := privilege_adds_directive_only includingSurroundings hshort
  exact ⟨hshort, hadmitted,
    (hanswers keyedService _ hengine keyedRequest ⟨"r-1", Double.zero⟩ hadmitted).1⟩

end Endpoints

end Turnstile
