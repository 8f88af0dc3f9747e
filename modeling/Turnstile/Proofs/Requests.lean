import Turnstile.Proofs.Conservation
import Turnstile.Proofs.EntryFaults
import Turnstile.Proofs.Unadmitted

/-!
# What requests are counted as

A service counts each answer under the method, the path and the status, and sends the
identifier of the request back.  A request that breaks on a fault is an exception: it is
counted as an error only, and its answer has no identifier.  So the requests and the
errors of this one kind add up to the answers.

**Breaking.**  The four endpoints of the service that decides are the only ones that break:
two on a visit that is not decided, one on rules that are not loaded, one on an address
whose lookup is refused.  Rules that were never opened are reported, and break nothing.

**Results.**
* `Handling.forms_handled`: the forms that the handling of a request may have.
* `Exchange.isBroken_iff_breaks`: which requests break.
* `Meeting.areCounted`, `Service.areCounted_after`: what one request, and a run, adds.
* `requests_are_counted_unless_they_break`: what a run is counted as, and what its answers carry.
-/

namespace Turnstile

section Forms

namespace Handling

variable {s : Service} {r : Http.Request} {e : Engine}

/-- The forms that the handling of a request may have. -/
inductive Forms
    (s : Service)
    (r : Http.Request) : Handling → Prop where
  | answered
      (a : Http.Answer) :
      Forms s r (answer s a)
  | checked
      (word : String)
      (a : Http.Answer) :
      Forms s r (answer { s with tally := s.tally.recordHealthCheck word } a)
  | refused {f : Failure}
      (hfailure : Admission.failure? s.settings.apiKey r = some f) :
      Forms s r (refuse s f)
  | decided {e : Engine} {segment : String} {payload : Http.Payload} {visit : Request}
      (hreaches : s.Reaches r e .evaluate segment)
      (hread : Http.Payload.read r = .ok payload)
      (hvisit : payload.visit = .ok visit) :
      Forms s r (decide s e r false Decision.clientView visit)
  | decidedServerSide {e : Engine} {segment : String} {payload : Http.Payload} {visit : Request}
      (hreaches : s.Reaches r e .serverSide segment)
      (hkey : Admission.Brings s.settings.apiKey r)
      (hread : Http.Payload.read r = .ok payload)
      (hvisit : payload.visit = .ok visit) :
      Forms s r (decide s e r true Decision.serverView visit)
  | listed {e : Engine} {segment : String}
      (hreaches : s.Reaches r e .rules segment)
      (hkey : Admission.Brings s.settings.apiKey r) :
      Forms s r (listRules s e)
  | described {e : Engine} {segment : String}
      (hreaches : s.Reaches r e .address segment)
      (hkey : Admission.Brings s.settings.apiKey r) :
      Forms s r (describeAddress s e segment)

theorem forms_health :
    Forms s r (health s) := by
  unfold health
  cases s.ailments.check with
  | none => exact .checked _ _
  | some text => exact .checked _ _

theorem forms_whenAdmitted
    {rest : Handling}
    (h : Admission.Brings s.settings.apiKey r → Forms s r rest) :
    Forms s r (whenAdmitted s r rest) := by
  unfold whenAdmitted
  cases hfailure : Admission.failure? s.settings.apiKey r with
  | none => exact h (Admission.failure?_eq_none_iff.mp hfailure)
  | some f => exact .refused hfailure

theorem forms_onPayload
    {payload : Http.Payload}
    {f : Request → Handling}
    (h : ∀ visit, payload.visit = .ok visit → Forms s r (f visit)) :
    Forms s r (onPayload s payload f) := by
  unfold onPayload
  cases hvisit : payload.visit with
  | ok visit => exact h visit hvisit
  | error flaws => exact .answered _

theorem forms_withPayload
    {f : Http.Payload → Handling}
    (h : ∀ payload, Http.Payload.read r = .ok payload → Forms s r (f payload)) :
    Forms s r (withPayload s r f) := by
  unfold withPayload
  cases hread : Http.Payload.read r with
  | ok payload => exact h payload hread
  | error flaw => exact .answered _

theorem forms_decisionEndpoint
    {segment : String}
    {endpoint : Http.Endpoint}
    (h : s.Reaches r e endpoint segment) :
    Forms s r (decisionEndpoint s e r segment endpoint) := by
  cases endpoint with
  | evaluate =>
      exact forms_withPayload fun payload hread =>
        forms_onPayload fun visit hvisit => .decided h hread hvisit
  | serverSide =>
      exact forms_withPayload fun payload hread =>
        forms_whenAdmitted fun hkey =>
          forms_onPayload fun visit hvisit => .decidedServerSide h hkey hread hvisit
  | rules =>
      exact forms_whenAdmitted fun hkey => .listed h hkey
  | address =>
      exact forms_whenAdmitted fun hkey => .described h hkey
  | _ =>
      exact .answered _

theorem forms_route :
    Forms s r (route s r) := by
  unfold route
  cases hfound : Http.Route.find s.endpoints r.method r.target.path with
  | wrongMethod allowed => exact .answered _
  | moved path => exact .answered _
  | notFound => exact .answered _
  | endpoint found segment =>
      cases found with
      | schema | docs | signIn | redoc | metrics => exact .answered _
      | health => exact forms_health
      | home | evaluate | serverSide | rules | address =>
          simp only [endpoint]
          cases hengine : s.engine with
          | none => exact .answered _
          | some e => exact forms_decisionEndpoint ⟨hengine, hfound⟩

/-- How a request is handled. -/
theorem forms_handled
    (s : Service)
    (r : Http.Request) :
    Forms s r (Exchange.handled s r) := by
  unfold Exchange.handled
  cases s.cors.preflight? r with
  | some permission => exact .answered _
  | none => exact forms_route

end Handling

end Forms

section Breaking

variable {s : Service} {r : Http.Request}

/-- The requests that break: their faults are reported to nobody. -/
inductive Service.Breaks
    (s : Service)
    (r : Http.Request) : Prop where
  | decision {e : Engine} {segment : String} {payload : Http.Payload} {visit : Request}
      {fault : DecisionFault}
      (hreaches : s.Reaches r e .evaluate segment)
      (hread : Http.Payload.read r = .ok payload)
      (hvisit : payload.visit = .ok visit)
      (hfault : (Decision.decide e.surroundings ⟨e.cache, some s.tally⟩ visit
        (Handling.criterion s r) false).result = .error fault)
      (hunreported : fault ≠ .load (.source .notStarted))
  | serverSide {e : Engine} {segment : String} {payload : Http.Payload} {visit : Request}
      {fault : DecisionFault}
      (hreaches : s.Reaches r e .serverSide segment)
      (hkey : Admission.Brings s.settings.apiKey r)
      (hread : Http.Payload.read r = .ok payload)
      (hvisit : payload.visit = .ok visit)
      (hfault : (Decision.decide e.surroundings ⟨e.cache, some s.tally⟩ visit
        (Handling.criterion s r) true).result = .error fault)
      (hunreported : fault ≠ .load (.source .notStarted))
  | rules {e : Engine} {segment : String} {fault : LoadFault}
      (hreaches : s.Reaches r e .rules segment)
      (hkey : Admission.Brings s.settings.apiKey r)
      (hfault : e.surroundings.rules.load e.surroundings.now = .error fault)
      (hunreported : fault ≠ .source .notStarted)
  | address {e : Engine} {segment : String}
      (hreaches : s.Reaches r e .address segment)
      (hkey : Admission.Brings s.settings.apiKey r)
      (hrefused : (Resolver.resolve e.surroundings.api e.surroundings.lookup e.cache
        segment).record = none)

/-- The handling of a request breaks. -/
def Handling.isBroken
    (h : Handling) : Bool :=
  match h.outcome with
  | .broken => true
  | _ => false

namespace Handling

theorem isBroken_iff
    {h : Handling} :
    h.isBroken = true ↔ h.outcome = .broken := by
  unfold isBroken
  cases h.outcome <;> simp

/-- All faults of rules break, but that they were never opened. -/
theorem ofLoadFault_eq_broken_iff
    {fault : LoadFault} :
    ofLoadFault fault = .broken ↔ fault ≠ .source .notStarted := by
  cases fault with
  | source fault => cases fault <;> simp [ofLoadFault]
  | rule fault => simp [ofLoadFault]

theorem ofDecisionFault_eq_broken_iff
    {fault : DecisionFault} :
    ofDecisionFault fault = .broken ↔ fault ≠ .load (.source .notStarted) := by
  cases fault with
  | load fault => simp [ofDecisionFault, ofLoadFault_eq_broken_iff]
  | _ => exact iff_of_true rfl nofun

variable {e : Engine}

theorem outcome_decide_eq_broken_iff
    {privileged : Bool}
    {view : Decision → Members Json}
    {visit : Request} :
    (decide s e r privileged view visit).outcome = .broken ↔
      ∃ fault, (Decision.decide e.surroundings ⟨e.cache, some s.tally⟩ visit
          (criterion s r) privileged).result = .error fault ∧
        fault ≠ .load (.source .notStarted) := by
  simp only [decide]
  cases (Decision.decide e.surroundings ⟨e.cache, some s.tally⟩ visit (criterion s r)
      privileged).result with
  | ok d => simp [report]
  | error fault => simp [ofDecisionFault_eq_broken_iff]

theorem outcome_listRules_eq_broken_iff :
    (listRules s e).outcome = .broken ↔
      ∃ fault, e.surroundings.rules.load e.surroundings.now = .error fault ∧
        fault ≠ .source .notStarted := by
  simp only [listRules]
  cases e.surroundings.rules.load e.surroundings.now with
  | ok rules => simp [report]
  | error fault => simp [ofLoadFault_eq_broken_iff]

theorem outcome_describeAddress_eq_broken_iff
    {address : String} :
    (describeAddress s e address).outcome = .broken ↔
      (Resolver.resolve e.surroundings.api e.surroundings.lookup e.cache address).record =
        none := by
  simp only [describeAddress]
  cases (Resolver.resolve e.surroundings.api e.surroundings.lookup e.cache address).record with
  | none => simp
  | some record => simp [report]

/-- What a request that breaks comes from. -/
theorem Forms.breaks
    {h : Handling}
    (hforms : Forms s r h)
    (hbroken : h.outcome = .broken) :
    s.Breaks r := by
  cases hforms with
  | answered | checked | refused =>
      cases hbroken
  | decided hreaches hread hvisit =>
      obtain ⟨fault, hfault, hunreported⟩ := outcome_decide_eq_broken_iff.mp hbroken
      exact .decision hreaches hread hvisit hfault hunreported
  | decidedServerSide hreaches hkey hread hvisit =>
      obtain ⟨fault, hfault, hunreported⟩ := outcome_decide_eq_broken_iff.mp hbroken
      exact .serverSide hreaches hkey hread hvisit hfault hunreported
  | listed hreaches hkey =>
      obtain ⟨fault, hfault, hunreported⟩ := outcome_listRules_eq_broken_iff.mp hbroken
      exact .rules hreaches hkey hfault hunreported
  | described hreaches hkey =>
      exact .address hreaches hkey (outcome_describeAddress_eq_broken_iff.mp hbroken)

end Handling

/-- A request breaks iff its fault is reported to nobody. -/
theorem Exchange.isBroken_iff_breaks :
    (handled s r).isBroken = true ↔ s.Breaks r := by
  rw [Handling.isBroken_iff]
  constructor
  · exact (Handling.forms_handled s r).breaks
  · intro h
    cases h with
    | decision hreaches hread hvisit hfault hunreported =>
        rw [hreaches.handled (by decide), Handling.decisionEndpoint, Handling.evaluate,
          Handling.withPayload_of_read hread, Handling.onPayload_of_visit hvisit]
        exact Handling.outcome_decide_eq_broken_iff.mpr ⟨_, hfault, hunreported⟩
    | serverSide hreaches hkey hread hvisit hfault hunreported =>
        rw [hreaches.handled (by decide), Handling.decisionEndpoint, Handling.evaluateServerSide,
          Handling.withPayload_of_read hread, Handling.whenAdmitted_of_brings hkey,
          Handling.onPayload_of_visit hvisit]
        exact Handling.outcome_decide_eq_broken_iff.mpr ⟨_, hfault, hunreported⟩
    | rules hreaches hkey hfault hunreported =>
        rw [hreaches.handled (by decide), Handling.decisionEndpoint,
          Handling.whenAdmitted_of_brings hkey]
        exact Handling.outcome_listRules_eq_broken_iff.mpr ⟨_, hfault, hunreported⟩
    | address hreaches hkey hrefused =>
        rw [hreaches.handled (by decide), Handling.decisionEndpoint,
          Handling.whenAdmitted_of_brings hkey]
        exact Handling.outcome_describeAddress_eq_broken_iff.mpr hrefused

end Breaking

section Counting

/-- The same answers, and the same requests that broke, are counted. -/
structure Tally.SameRequests
    (t t' : Tally) : Prop where
  service : t'.service = t.service
  answers : t'.countersOf .requests = t.countersOf .requests
  broken : t'.count .errors [Exchange.brokenCode, t.service] =
    t.count .errors [Exchange.brokenCode, t.service]

namespace Tally

variable {t t' t'' : Tally}

theorem SameRequests.refl
    (t : Tally) :
    t.SameRequests t :=
  ⟨rfl, rfl, rfl⟩

theorem SameRequests.trans
    (h : t.SameRequests t')
    (h' : t'.SameRequests t'') :
    t.SameRequests t'' := by
  refine ⟨h'.service.trans h.service, h'.answers.trans h.answers, ?_⟩
  rw [← h.broken, ← h.service]
  exact h'.broken

theorem SameRequests.of_countersOf
    (hservice : t'.service = t.service)
    (hanswers : t'.countersOf .requests = t.countersOf .requests)
    (herrors : t'.countersOf .errors = t.countersOf .errors) :
    t.SameRequests t' := by
  refine ⟨hservice, hanswers, ?_⟩
  rw [count_eq_countersOf, herrors, ← count_eq_countersOf]

theorem SameRequests.total_eq
    (h : t.SameRequests t') :
    t'.total .requests = t.total .requests := by
  rw [total, h.answers, total]

theorem SameRequests.count_eq
    (h : t.SameRequests t')
    (values : List String) :
    t'.count .requests values = t.count .requests values := by
  rw [count_eq_countersOf, h.answers, ← count_eq_countersOf]

/-- Resolved addresses are counted elsewhere. -/
theorem sameRequests_recordAll
    (t : Tally)
    (events : List ResolutionEvent) :
    t.SameRequests (ResolutionEvent.recordAll t events) := by
  have hother : ∀ m, m = .requests ∨ m = .errors → ∀ e : ResolutionEvent, m ≠ e.series.metric := by
    rintro m (rfl | rfl) e <;> cases e <;> nofun
  apply SameRequests.of_countersOf (ResolutionEvent.service_recordAll t events)
  · exact ResolutionEvent.countersOf_recordAll t events (hother _ (.inl rfl))
  · exact ResolutionEvent.countersOf_recordAll t events (hother _ (.inr rfl))

/-- Decisions are counted elsewhere. -/
theorem sameRequests_record
    (t : Tally)
    (criterion outcome : String)
    (elapsed : Double) :
    t.SameRequests (Decision.record criterion outcome elapsed t) := by
  apply SameRequests.of_countersOf (service_recordDecision t outcome criterion _)
  · exact countersOf_recordDecision t outcome criterion _ nofun
  · exact countersOf_recordDecision t outcome criterion _ nofun

theorem sameRequests_recordHealthCheck
    (t : Tally)
    (status : String) :
    t.SameRequests (t.recordHealthCheck status) := by
  have hservice : (t.recordHealthCheck status).service = t.service := rfl
  apply SameRequests.of_countersOf hservice
  · exact countersOf_increment t _ nofun
  · exact countersOf_increment t _ nofun

/-- Errors with codes of their own are counted elsewhere. -/
theorem sameRequests_recordError
    (t : Tally)
    {code : String}
    (hcode : code ≠ Exchange.brokenCode) :
    t.SameRequests (t.recordError code .null) := by
  rw [recordError_null]
  refine ⟨rfl, countersOf_increment t _ nofun, ?_⟩
  simp [count_increment, hcode.symm]

end Tally

namespace Handling

variable {s : Service} {r : Http.Request} {e : Engine}

theorem sameRequests_decide
    (s : Service)
    (e : Engine)
    (r : Http.Request)
    (privileged : Bool)
    (view : Decision → Members Json)
    (visit : Request) :
    s.tally.SameRequests (decide s e r privileged view visit).service.tally := by
  simp only [decide]
  rcases Decision.decide_cases e.surroundings e.cache s.tally visit (criterion s r) privileged with
    ⟨fault, hdecide⟩ | ⟨d, outcome, -, hdecide⟩
  · rw [hdecide]
    exact Tally.sameRequests_recordAll _ _
  · rw [hdecide]
    exact (Tally.sameRequests_recordAll _ _).trans (Tally.sameRequests_record _ _ _ _)

/-- Handling a request counts neither the request nor an error. -/
theorem Forms.sameRequests
    {h : Handling}
    (hforms : Forms s r h) :
    s.tally.SameRequests h.service.tally := by
  cases hforms with
  | answered | refused | listed => exact .refl _
  | checked word a => exact Tally.sameRequests_recordHealthCheck _ _
  | decided | decidedServerSide => exact sameRequests_decide _ _ _ _ _ _
  | described => exact Tally.sameRequests_recordAll _ _

theorem eq_of_ofLoadFault
    {fault : LoadFault}
    {f : Failure}
    (h : ofLoadFault fault = .failed f) :
    f = RuleSource.notStartedFailure := by
  unfold ofLoadFault at h
  split at h
  · exact (Outcome.failed.inj h).symm
  · cases h

theorem eq_of_ofDecisionFault
    {fault : DecisionFault}
    {f : Failure}
    (h : ofDecisionFault fault = .failed f) :
    f = RuleSource.notStartedFailure := by
  unfold ofDecisionFault at h
  split at h
  · exact eq_of_ofLoadFault h
  · cases h

/-- The code of a failure is never that of a request that breaks. -/
theorem Forms.code_ne
    {h : Handling}
    (hforms : Forms s r h)
    {f : Failure}
    (hfailed : h.outcome = .failed f) :
    f.code ≠ Exchange.brokenCode := by
  have hnotStarted : f = RuleSource.notStartedFailure → f.code ≠ Exchange.brokenCode := by
    rintro rfl
    decide
  cases hforms with
  | answered | checked => cases hfailed
  | refused hfailure =>
      obtain rfl := Outcome.failed.inj hfailed
      rcases Admission.eq_of_failure? hfailure with rfl | rfl
      · decide
      · decide
  | decided | decidedServerSide =>
      simp only [decide] at hfailed
      split at hfailed
      · cases hfailed
      · exact hnotStarted (eq_of_ofDecisionFault hfailed)
  | listed =>
      simp only [listRules] at hfailed
      split at hfailed
      · cases hfailed
      · exact hnotStarted (eq_of_ofLoadFault hfailed)
  | described =>
      simp only [describeAddress] at hfailed
      split at hfailed
      · cases hfailed
      · cases hfailed

end Handling

namespace Exchange

/-- A request breaks, or its answer is counted. -/
theorem run_cases
    (s : Service)
    (r : Http.Request)
    (o : Occasion) :
    (∃ handled : Service, s.tally.SameRequests handled.tally ∧
        (Exchange.handled s r).isBroken = true ∧
        (run s r o).service = countError handled brokenCode ∧
        (run s r o).answer = brokenAnswer) ∨
      ∃ (handled : Service) (a : Http.Answer), s.tally.SameRequests handled.tally ∧
        (Exchange.handled s r).isBroken = false ∧
        (run s r o).service = countAnswer handled r o a.status ∧
        (run s r o).answer = (marked s r a).withHeader idName (requestId r o) := by
  have hforms := Handling.forms_handled s r
  unfold Handling.isBroken
  simp only [run, concluded]
  cases houtcome : (handled s r).outcome with
  | answered a =>
      exact .inr ⟨_, a, hforms.sameRequests, rfl, rfl, rfl⟩
  | failed f =>
      -- The error that an answer reports is counted before the answer.
      have herror := Tally.sameRequests_recordError (handled s r).service.tally
        (hforms.code_ne houtcome)
      exact .inr ⟨_, _, hforms.sameRequests.trans herror, rfl, rfl, rfl⟩
  | broken =>
      exact .inl ⟨_, hforms.sameRequests, rfl, rfl, rfl⟩

end Exchange

end Counting

section Runs

/-- A request with what happens at its time. -/
structure Arrival where
  request : Http.Request
  occasion : Occasion
  /-- What becomes of rules, records, lookups and files since the request before. -/
  disturb : Engine → Engine
  ailments : Ailments
  standing : Standing

/-- A request at the service that it meets. -/
structure Meeting where
  service : Service
  arrival : Arrival

namespace Meeting

/-- What the request brings. -/
def exchange
    (m : Meeting) : Exchange :=
  Exchange.run m.service m.arrival.request m.arrival.occasion

def answer
    (m : Meeting) : Http.Answer :=
  m.exchange.answer

/-- The handling of the request breaks. -/
def isBroken
    (m : Meeting) : Bool :=
  (Exchange.handled m.service m.arrival.request).isBroken

/-- The labels under which the answer is counted. -/
def labels
    (m : Meeting) : List String :=
  [m.arrival.request.method, m.arrival.request.target.label, toString m.answer.status]

end Meeting

/-- A request arrives at a service. -/
def Service.meet
    (s : Service)
    (a : Arrival) : Meeting :=
  ⟨{ s with
      engine := s.engine.map a.disturb
      ailments := a.ailments
      standing := a.standing }, a⟩

/-- Requests, each at the service that the requests before it left behind. -/
def Service.meetings
    (s : Service) : List Arrival → List Meeting
  | [] => []
  | a :: rest => s.meet a :: (s.meet a).exchange.service.meetings rest

/-- The service after some requests. -/
def Service.after
    (s : Service)
    (arrivals : List Arrival) : Service :=
  arrivals.foldl (fun s a => (s.meet a).exchange.service) s

theorem Service.length_meetings
    (s : Service)
    (arrivals : List Arrival) :
    (s.meetings arrivals).length = arrivals.length := by
  induction arrivals generalizing s with
  | nil => rfl
  | cons a rest ih => rw [meetings, List.length_cons, List.length_cons, ih]

/-- What meetings add to the counts of a tally. -/
structure AreCounted
    (meetings : List Meeting)
    (earlier later : Tally) : Prop where
  service : later.service = earlier.service
  /-- Each answer counts once, under its method, path and status. -/
  answers : ∀ values, later.count .requests values =
    earlier.count .requests values + meetings.countP fun m => !m.isBroken && m.labels == values
  total : later.total .requests =
    earlier.total .requests + meetings.countP fun m => !m.isBroken
  /-- Requests that break are counted as errors of a kind of their own. -/
  broken : later.count .errors [Exchange.brokenCode, earlier.service] =
    earlier.count .errors [Exchange.brokenCode, earlier.service] +
      meetings.countP Meeting.isBroken

namespace AreCounted

theorem nil
    (t : Tally) :
    AreCounted [] t t :=
  ⟨rfl, fun _ => rfl, rfl, rfl⟩

theorem append
    {meetings meetings' : List Meeting}
    {t t' t'' : Tally}
    (h : AreCounted meetings t t')
    (h' : AreCounted meetings' t' t'') :
    AreCounted (meetings ++ meetings') t t'' := by
  constructor
  · rw [h'.service, h.service]
  · intro values
    rw [h'.answers, h.answers, List.countP_append, Nat.add_assoc]
  · rw [h'.total, h.total, List.countP_append, Nat.add_assoc]
  · rw [← h.service, h'.broken, h.service, h.broken, List.countP_append, Nat.add_assoc]

/-- A request that breaks is counted as an error. -/
theorem of_isBroken
    {m : Meeting}
    {t t' : Tally}
    (hbroken : m.isBroken = true)
    (h : t.SameRequests t') :
    AreCounted [m] t (t'.recordError Exchange.brokenCode .null) := by
  rw [Tally.recordError_null]
  constructor
  · exact h.service
  · intro values
    rw [Tally.count_increment, h.count_eq]
    simp [hbroken]
  · rw [Tally.total_increment, h.total_eq]
    simp [hbroken]
  · rw [Tally.count_increment, h.broken, h.service]
    simp [hbroken]

/-- An answer is counted under its labels. -/
theorem of_answer
    {m : Meeting}
    {t t' : Tally}
    (hbroken : m.isBroken = false)
    (h : t.SameRequests t')
    (duration : Json) :
    AreCounted [m] t (t'.recordRequest m.arrival.request.method m.arrival.request.target.label
      (toString m.answer.status) duration).1 := by
  constructor
  · rw [Tally.service_recordRequest, h.service]
  · intro values
    rw [Tally.count_recordRequest, h.count_eq]
    simp [hbroken, Meeting.labels, eq_comm (a := values)]
  · rw [Tally.total_recordRequest, h.total_eq]
    simp [hbroken]
  · rw [Tally.count_recordRequest, h.broken]
    simp [hbroken]

end AreCounted

/-- One request is counted. -/
theorem Meeting.areCounted
    (m : Meeting) :
    AreCounted [m] m.service.tally m.exchange.service.tally := by
  rcases Exchange.run_cases m.service m.arrival.request m.arrival.occasion with
    ⟨handled, hsame, hbroken, hservice, -⟩ | ⟨handled, a, hsame, hbroken, hservice, ha⟩
  · rw [exchange, hservice]
    exact .of_isBroken hbroken hsame
  · have hstatus : a.status = m.answer.status := by
      rw [answer, exchange, ha, Http.Answer.withHeader, Exchange.status_marked]
    rw [exchange, hservice, hstatus]
    exact .of_answer hbroken hsame _

/-- A run of requests is counted. -/
theorem Service.areCounted_after
    (s : Service)
    (arrivals : List Arrival) :
    AreCounted (s.meetings arrivals) s.tally (s.after arrivals).tally := by
  induction arrivals generalizing s with
  | nil => exact .nil s.tally
  | cons a rest ih => exact (s.meet a).areCounted.append (ih (s.meet a).exchange.service)

end Runs

section Accounts

/-- A path is counted as it is unless a character of it means something in a URL. -/
theorem Http.Target.label_eq_path_iff
    {t : Target} :
    t.label = t.path ↔ ∀ c ∈ t.path.toList, endsPath c = false ∧ Url.isDropped c = false := by
  constructor
  · intro h c hc
    have hkept : (t.path.toList.takeWhile (!endsPath ·)).filter (!Url.isDropped ·) =
        t.path.toList := by
      rw [← String.toList_ofList (l := (t.path.toList.takeWhile _).filter _)]
      exact congrArg String.toList h
    rw [← hkept, List.mem_filter] at hc
    obtain ⟨htaken, hdropped⟩ := hc
    have hends := List.mem_takeWhile_imp htaken
    exact ⟨by simpa using hends, by simpa using hdropped⟩
  · intro h
    rw [label, List.takeWhile_eq_self_iff.mpr fun c hc => by rw [(h c hc).1]; rfl,
      List.filter_eq_self.mpr fun c hc => by rw [(h c hc).2]; rfl, String.ofList_toList]

namespace Meeting

theorem answer_of_isBroken
    {m : Meeting}
    (h : m.isBroken = true) :
    m.answer = Exchange.brokenAnswer := by
  rcases Exchange.run_cases m.service m.arrival.request m.arrival.occasion with
    ⟨_, _, -, -, hanswer⟩ | ⟨_, a, _, hbroken, -⟩
  · exact hanswer
  · cases hbroken.symm.trans h

/-- An answer carries the identifier of its request. -/
theorem get?_idName_answer
    {m : Meeting}
    (h : m.isBroken = false) :
    m.answer.headers.get? Exchange.idName =
      some ((m.arrival.request.header? Exchange.idName).getD m.arrival.occasion.fresh) := by
  rcases Exchange.run_cases m.service m.arrival.request m.arrival.occasion with
    ⟨_, _, hbroken, -⟩ | ⟨_, a, _, -, -, hanswer⟩
  · cases hbroken.symm.trans h
  · rw [answer, exchange, hanswer, Http.Answer.withHeader, Members.get?_set, if_pos rfl]
    rfl

end Meeting

/--
**Requests are counted unless they break.**  In any run of requests, each answer is counted
once under its method, path and status and carries the identifier that the request brought,
or a fresh one.  The exceptions are the requests that break: each of them is an error of a
kind of its own, and nothing else, and its answer carries no identifier.  So the answers that
are counted and the requests that break make up all requests.
-/
theorem requests_are_counted_unless_they_break
    (s : Service)
    (arrivals : List Arrival) :
    AreCounted (s.meetings arrivals) s.tally (s.after arrivals).tally ∧
      (s.after arrivals).tally.total .requests + (s.meetings arrivals).countP Meeting.isBroken =
        s.tally.total .requests + arrivals.length ∧
      ∀ m ∈ s.meetings arrivals,
        (m.isBroken = true ↔ m.service.Breaks m.arrival.request) ∧
        (m.isBroken = true → m.answer = Exchange.brokenAnswer) ∧
        (m.isBroken = false → m.answer.headers.get? Exchange.idName =
          some ((m.arrival.request.header? Exchange.idName).getD m.arrival.occasion.fresh)) ∧
        (m.arrival.request.target.label = m.arrival.request.target.path ↔
          ∀ c ∈ m.arrival.request.target.path.toList,
            Http.Target.endsPath c = false ∧ Url.isDropped c = false) := by
  have hcounted := s.areCounted_after arrivals
  refine ⟨hcounted, ?_, ?_⟩
  · have hall : (s.meetings arrivals).countP (fun m => !m.isBroken) +
        (s.meetings arrivals).countP Meeting.isBroken = arrivals.length := by
      rw [← s.length_meetings arrivals, List.length_eq_countP_add_countP Meeting.isBroken,
        Nat.add_comm]
      simp only [Bool.not_eq_true, Bool.decide_eq_false]
    rw [hcounted.total, Nat.add_assoc, hall]
  · intro m _
    exact ⟨Exchange.isBroken_iff_breaks, m.answer_of_isBroken, m.get?_idName_answer,
      Http.Target.label_eq_path_iff⟩

/-- A service whose rules hold a number of four hundred digits as the bound of a window. -/
def overlargeService : Service :=
  { keyedService with
    engine := some ⟨.offline (.holding (.array [Rule.overlargeEntry])), .folder .initial⟩ }

/-- A request for the rules that brings the key and an identifier. -/
def rulesRequest : Http.Request :=
  ⟨"GET", ⟨"/decisions/rules", []⟩,
    [("X-API-Key", "open sesame"), ("X-Request-ID", "abc")], ""⟩

/-- Rules that cannot be normalized are not loaded. -/
theorem RuleSource.load_of_normalize
    {source : RuleSource}
    {now : Moment}
    {raws : List Json}
    {fault : Rule.Fault}
    (hraws : source.raws = .ok raws)
    (hnormal : Rule.normalize now raws = .error fault) :
    source.load now = .error (.rule fault) := by
  simp only [load, hraws, hnormal]

theorem readable_power
    {exponent : Nat}
    (h : exponent < Text.maxIntegerDigits) :
    Json.Readable (.int (10 ^ exponent)) := by
  have habs : (10 ^ exponent : Int).natAbs = 10 ^ exponent := Int.natAbs_pow 10 exponent
  apply Json.Readable.int
  rw [habs, Nat.length_toDigits_le_iff (by omega) (Nat.zero_lt_of_lt h)]
  exact Nat.pow_lt_pow_right (by omega) h

theorem readable_overlargeEntry :
    Rule.overlargeEntry.Readable := by
  refine Json.Readable.object_of_values (by decide) ?_
  rintro member (_ | ⟨_, _ | ⟨_, hnone⟩⟩)
  · exact .string _
  · exact readable_power (by decide)
  · cases hnone

/-- The rules are not loaded for a number that is too large, so the request breaks. -/
theorem breaks_rulesRequest :
    overlargeService.Breaks rulesRequest := by
  have hraws : (RuleSource.holding (.array [Rule.overlargeEntry])).raws =
      .ok [Rule.overlargeEntry] :=
    RuleSource.raws_holding (by simp only [Json.readable_array_iff, List.forall_mem_singleton,
      readable_overlargeEntry])
  have hover : Double.overflows (10 ^ 400) = true := by decide +kernel
  have hkey : Admission.Brings overlargeService.settings.apiKey rulesRequest :=
    Admission.failure?_eq_none_iff.mp (by decide)
  have hreaches : overlargeService.Reaches rulesRequest _ .rules "" :=
    ⟨rfl, Exchange.find_rules rfl⟩
  cases hnormal : Rule.normalize .first [Rule.overlargeEntry] with
  | ok rules =>
      have hreadable := Rule.exists_normalize_iff.mp ⟨rules, hnormal⟩
      exact absurd (.start rfl hover) (hreadable Rule.overlargeEntry List.mem_cons_self)
  | error fault =>
      exact .rules hreaches hkey (RuleSource.load_of_normalize hraws hnormal) (by simp)

/-- An answer to a request that breaks is not counted, and loses the identifier. -/
theorem broken_request_is_not_counted :
    rulesRequest.header? Exchange.idName = some "abc" ∧
      (Exchange.run overlargeService rulesRequest ⟨"r-1", Double.zero⟩).answer.status = 500 ∧
      (Exchange.run overlargeService rulesRequest
        ⟨"r-1", Double.zero⟩).answer.headers.get? Exchange.idName = none ∧
      overlargeService.tally.total .requests = 0 ∧
      (Exchange.run overlargeService rulesRequest
        ⟨"r-1", Double.zero⟩).service.tally.total .requests = 0 := by
  have hbroken := Exchange.isBroken_iff_breaks.mpr breaks_rulesRequest
  rcases Exchange.run_cases overlargeService rulesRequest ⟨"r-1", Double.zero⟩ with
    ⟨handled, hsame, -, hservice, hanswer⟩ | ⟨_, _, _, hunbroken, -⟩
  · rw [hservice, hanswer, Exchange.countError, Tally.recordError_null, Tally.total_increment,
      hsame.total_eq]
    exact ⟨by decide, rfl, rfl, rfl, rfl⟩
  · cases hunbroken.symm.trans hbroken

end Accounts

end Turnstile
