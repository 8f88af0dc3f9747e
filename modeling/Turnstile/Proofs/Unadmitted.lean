import Turnstile.Proofs.Privilege
import Turnstile.Proofs.TallyCounts

/-!
# Callers without the key

A privileged endpoint asks for the key of the service before it does anything.  So a
caller who does not bring the key learns something of the settings at most: no rule is
read, no address is looked up, and neither the engine nor what is counted of decisions and
addresses changes.  Two services with the same settings answer alike, whatever their rules,
records, lookups and files.

**The body.**  The text of a report is read before the key is asked for, and a text that is
no document is told to anyone.

**Results.**
* `Admission.failure?_eq_none_iff`: who is admitted.
* `Exchange.exists_declines`: what comes of a privileged request without the key.
* `unadmitted_caller_learns_nothing`: what it changes, and what its answer depends on.
-/

namespace Turnstile

section Keys

/-- A key is configured that is not empty, and the request brings it. -/
def Admission.Brings
    (configured : Option String)
    (r : Http.Request) : Prop :=
  ∃ key, configured = some key ∧ key ≠ "" ∧ r.header? headerName = some key

theorem Admission.key?_eq_some_iff
    {configured : Option String}
    {key : String} :
    key? configured = some key ↔ configured = some key ∧ key ≠ "" := by
  simp [key?, Option.filter_eq_some_iff]

/-- Who brings the key is admitted, and nobody else. -/
theorem Admission.failure?_eq_none_iff
    {configured : Option String}
    {r : Http.Request} :
    failure? configured r = none ↔ Brings configured r := by
  unfold failure?
  cases hkey : key? configured with
  | none =>
      refine ⟨nofun, ?_⟩
      rintro ⟨key, hconfigured, hne, -⟩
      rw [key?_eq_some_iff.mpr ⟨hconfigured, hne⟩] at hkey
      cases hkey
  | some key =>
      obtain ⟨hconfigured, hne⟩ := key?_eq_some_iff.mp hkey
      simp only [ite_eq_left_iff, reduceCtorEq, imp_false, not_not]
      constructor
      · intro hbrought
        exact ⟨key, hconfigured, hne, hbrought⟩
      · rintro ⟨key', hconfigured', -, hbrought⟩
        obtain rfl := Option.some.inj (hconfigured.symm.trans hconfigured')
        exact hbrought

/-- There are two reasons not to admit a caller. -/
theorem Admission.eq_of_failure?
    {configured : Option String}
    {r : Http.Request}
    {f : Failure}
    (h : failure? configured r = some f) :
    f = disabled ∨ f = refused := by
  unfold failure? at h
  split at h
  · exact .inl (Option.some.inj h).symm
  · split at h
    · cases h
    · exact .inr (Option.some.inj h).symm

theorem Admission.exists_failure
    {configured : Option String}
    {r : Http.Request}
    (h : ¬ Brings configured r) :
    ∃ f, failure? configured r = some f ∧ f.kind = .authentication := by
  obtain ⟨f, hf⟩ := Option.ne_none_iff_exists'.mp (mt failure?_eq_none_iff.mp h)
  refine ⟨f, hf, ?_⟩
  rcases eq_of_failure? hf with rfl | rfl
  · rfl
  · rfl

end Keys

section Routes

/-- A request to one of the privileged routes. -/
inductive Http.Request.IsPrivileged
    (r : Request) : Prop where
  | decision
      (hmethod : r.method = "POST")
      (hpath : r.target.path = "/decisions/server-side")
  | rules
      (hmethod : r.method = "GET")
      (hpath : r.target.path = "/decisions/rules")
  | address
      (segment : String)
      (hthere : segment ≠ "")
      (hslash : '/' ∉ segment.toList)
      (hmethod : r.method = "GET")
      (hpath : r.target.path = "/decisions/ip/" ++ segment)

variable {s : Service} {e : Engine}

/-- The path of an address is that of no other endpoint. -/
theorem Http.Endpoint.segment?_address
    {segment : String}
    (hthere : segment ≠ "")
    (hslash : '/' ∉ segment.toList)
    (endpoint : Endpoint) :
    endpoint.segment? ("/decisions/ip/" ++ segment) =
      if endpoint = .address then some segment else none := by
  have hstart : ("/decisions/ip/" ++ segment).toList.take 14 = "/decisions/ip/".toList := by
    simp
  cases endpoint with
  | address => simp [segment?, path, hthere, hslash]
  | _ =>
      simp only [segment?, reduceCtorEq, if_false, ite_eq_right_iff]
      intro hpath
      rw [hpath] at hstart
      exact absurd hstart (by decide)

theorem Exchange.find_rules
    (hengine : s.engine = some e) :
    Http.Route.find s.endpoints "GET" "/decisions/rules" = .endpoint .rules "" := by
  rw [Service.endpoints, hengine, Option.isSome_some]
  cases s.isLocal with
  | true => decide
  | false => decide

theorem Exchange.find_address
    (hengine : s.engine = some e)
    {segment : String}
    (hthere : segment ≠ "")
    (hslash : '/' ∉ segment.toList) :
    Http.Route.find s.endpoints "GET" ("/decisions/ip/" ++ segment) =
      .endpoint .address segment := by
  have hsegment := Http.Endpoint.segment?_address hthere hslash
  rw [Service.endpoints, hengine, Option.isSome_some]
  cases s.isLocal with
  | true =>
      simp [Http.Route.find, Http.Endpoint.documentation, Http.Endpoint.common,
        Http.Endpoint.decisions, hsegment, Http.Endpoint.methods]
  | false =>
      simp [Http.Route.find, Http.Endpoint.common, Http.Endpoint.decisions, hsegment,
        Http.Endpoint.methods]

/-- A route leads to an endpoint that answers the method. -/
theorem Http.Route.contains_of_find
    {endpoints : List Http.Endpoint}
    {method path : String}
    {endpoint : Http.Endpoint}
    {segment : String}
    (h : find endpoints method path = .endpoint endpoint segment) :
    endpoint.methods.contains method = true := by
  unfold find at h
  simp only at h
  split at h
  next found place _ hfound =>
    obtain ⟨rfl, rfl⟩ := Route.endpoint.inj h
    simpa using List.find?_some hfound
  next =>
    cases h
  next =>
    split at h <;> cases h

/-- A request leads to an endpoint of a service that decides. -/
structure Service.Reaches
    (s : Service)
    (r : Http.Request)
    (e : Engine)
    (endpoint : Http.Endpoint)
    (segment : String) : Prop where
  engine : s.engine = some e
  found : Http.Route.find s.endpoints r.method r.target.path = .endpoint endpoint segment

/-- No endpoint answers those who ask whether they may call. -/
theorem Service.Reaches.handled
    {r : Http.Request}
    {endpoint : Http.Endpoint}
    {segment : String}
    (h : s.Reaches r e endpoint segment)
    (hendpoint : endpoint ∈ Http.Endpoint.decisions) :
    Exchange.handled s r = Handling.decisionEndpoint s e r segment endpoint := by
  have hmethod : r.method ≠ "OPTIONS" := by
    intro hmethod
    have hanswers := Http.Route.contains_of_find h.found
    rw [hmethod] at hanswers
    cases endpoint <;> revert hanswers <;> decide
  have hpreflight : s.cors.preflight? r = none := if_neg hmethod
  rw [Exchange.handled, hpreflight, Exchange.route_eq_endpoint h.found]
  simp only [Http.Endpoint.decisions, List.mem_cons, List.not_mem_nil, or_false] at hendpoint
  rcases hendpoint with rfl | rfl | rfl | rfl | rfl <;> simp only [Handling.endpoint, h.engine]

namespace Handling

variable {r : Http.Request}

theorem whenAdmitted_of_brings
    (hkey : Admission.Brings s.settings.apiKey r)
    (rest : Handling) :
    whenAdmitted s r rest = rest := by
  rw [whenAdmitted, Admission.failure?_eq_none_iff.mpr hkey]

theorem onPayload_of_visit
    {payload : Http.Payload}
    {visit : Request}
    (hvisit : payload.visit = .ok visit)
    (f : Request → Handling) :
    onPayload s payload f = f visit := by
  rw [onPayload, hvisit]

theorem withPayload_of_read
    {payload : Http.Payload}
    (hread : Http.Payload.read r = .ok payload)
    (f : Http.Payload → Handling) :
    withPayload s r f = f payload := by
  rw [withPayload, hread]

end Handling

end Routes

section Tallies

/-- What is counted and measured of decisions and of addresses is the same. -/
def Tally.AgreesOnDecisions
    (t t' : Tally) : Prop :=
  ∀ m : Metric, m.isOfDecisions = true →
    t.countersOf m = t'.countersOf m ∧ t.histogramsOf m = t'.histogramsOf m

namespace Tally

theorem agreesOnDecisions_increment
    (t : Tally)
    {m : Metric}
    (hother : m.isOfDecisions = false)
    (values : List String) :
    (t.increment m values).AgreesOnDecisions t := by
  intro m' hm'
  have hne : m' ≠ m := by
    rintro rfl
    rw [hother] at hm'
    cases hm'
  exact ⟨countersOf_increment t values hne, rfl⟩

theorem agreesOnDecisions_recordError
    (t : Tally)
    (code : String)
    (service : Json) :
    (t.recordError code service).AgreesOnDecisions t :=
  agreesOnDecisions_increment t rfl _

theorem agreesOnDecisions_recordRequest
    (t : Tally)
    (method endpoint status : String)
    (duration : Json) :
    (t.recordRequest method endpoint status duration).1.AgreesOnDecisions t := by
  intro m hm
  obtain ⟨hcounters, hhistograms⟩ :=
    agreesOnDecisions_increment t (m := .requests) rfl [method, endpoint, status] m hm
  have hne : m ≠ .requestDuration := by
    rintro rfl
    cases hm
  constructor
  · rw [recordRequest, countersOf, counters_measure]
    exact hcounters
  · rw [recordRequest, histogramsOf_measure _ _ hne]
    exact hhistograms

theorem AgreesOnDecisions.trans
    {t t' t'' : Tally}
    (h : t.AgreesOnDecisions t')
    (h' : t'.AgreesOnDecisions t'') :
    t.AgreesOnDecisions t'' := by
  intro m hm
  obtain ⟨hcounters, hhistograms⟩ := h m hm
  obtain ⟨hcounters', hhistograms'⟩ := h' m hm
  exact ⟨hcounters.trans hcounters', hhistograms.trans hhistograms'⟩

end Tally

end Tallies

section Answers

/-- The answer without the identifier of its request. -/
def Http.Answer.withoutId
    (a : Http.Answer) : Http.Answer :=
  { a with
    headers := Members.erase a.headers Exchange.idName
    content :=
      match a.content with
      | .document (.object members) => .document (.object (Members.erase members "request_id"))
      | other => other }

@[simp] theorem Http.Answer.withoutId_withHeader
    (a : Http.Answer)
    (id : String) :
    (a.withHeader Exchange.idName id).withoutId = a.withoutId := by
  rw [withoutId, withHeader, Members.erase_set]
  rfl

/-- The outcomes of privileged requests that do not bring the key. -/
inductive Declines
    (r : Http.Request) : Outcome → Prop where
  /-- The body of a report is no document. -/
  | unread {flaw : Flaw}
      (hpath : r.target.path = "/decisions/server-side")
      (hread : Http.Payload.read r = .error flaw) :
      Declines r (.answered (Http.Answer.flawed [flaw]))
  | refused {f : Failure}
      (hkind : f.kind = .authentication) :
      Declines r (.failed f)

namespace Exchange

/-- A privileged request without the key has one outcome in all services of some settings. -/
theorem exists_declines
    {settings : Settings}
    {r : Http.Request}
    (hprivileged : r.IsPrivileged)
    (hkey : ¬ Admission.Brings settings.apiKey r) :
    ∃ outcome, Declines r outcome ∧
      ∀ (s : Service) (e : Engine), s.settings = settings → s.engine = some e →
        handled s r = ⟨s, outcome, [], false⟩ := by
  obtain ⟨f, hf, hkind⟩ := Admission.exists_failure hkey
  cases hprivileged with
  | decision hmethod hpath =>
      have hreaches : ∀ (s : Service) (e : Engine), s.engine = some e →
          s.Reaches r e .serverSide "" := by
        intro s e hengine
        refine ⟨hengine, ?_⟩
        rw [hmethod, hpath]
        exact (find_decisions hengine).2
      cases hread : Http.Payload.read r with
      | error flaw =>
          refine ⟨_, .unread hpath hread, ?_⟩
          intro s e _ hengine
          rw [(hreaches s e hengine).handled (by decide), Handling.decisionEndpoint,
            Handling.evaluateServerSide, Handling.withPayload, hread]
          rfl
      | ok payload =>
          refine ⟨_, .refused hkind, ?_⟩
          rintro s e rfl hengine
          rw [(hreaches s e hengine).handled (by decide), Handling.decisionEndpoint,
            Handling.evaluateServerSide, Handling.withPayload_of_read hread]
          simp only [Handling.whenAdmitted, hf]
          rfl
  | rules hmethod hpath =>
      refine ⟨_, .refused hkind, ?_⟩
      rintro s e rfl hengine
      have hreaches : s.Reaches r e .rules "" := by
        refine ⟨hengine, ?_⟩
        rw [hmethod, hpath]
        exact find_rules hengine
      rw [hreaches.handled (by decide)]
      simp only [Handling.decisionEndpoint, Handling.whenAdmitted, hf]
      rfl
  | address segment hthere hslash hmethod hpath =>
      refine ⟨_, .refused hkind, ?_⟩
      rintro s e rfl hengine
      have hreaches : s.Reaches r e .address segment := by
        refine ⟨hengine, ?_⟩
        rw [hmethod, hpath]
        exact find_address hengine hthere hslash
      rw [hreaches.handled (by decide)]
      simp only [Handling.decisionEndpoint, Handling.whenAdmitted, hf]
      rfl

theorem status_marked
    (s : Service)
    (r : Http.Request)
    (a : Http.Answer) :
    (marked s r a).status = a.status := by
  unfold marked Http.Cors.mark
  split
  · rfl
  · split
    · rfl
    · rfl

/-- Marks depend on the settings. -/
theorem marked_congr
    {s s' : Service}
    (hsettings : s'.settings = s.settings)
    (r : Http.Request)
    (a : Http.Answer) :
    marked s' r a = marked s r a := by
  have hcors : s'.cors = s.cors := by
    rw [Service.cors, Service.isLocal, hsettings]
    rfl
  rw [marked, hcors, marked]

/-- A mark shows no identifier. -/
theorem withoutId_marked_failureAnswer
    (s : Service)
    (r : Http.Request)
    (f : Failure)
    (id id' : String) :
    (marked s r (failureAnswer f id)).withoutId = (marked s r (failureAnswer f id')).withoutId := by
  have hfailure : (failureAnswer f id).withoutId = (failureAnswer f id').withoutId := by
    simp [failureAnswer, Failure.document, Http.Answer.withoutId, Http.Answer.object,
      Http.Answer.plain, Members.erase]
  unfold marked Http.Cors.mark
  split
  · exact hfailure
  · split
    · rw [Http.Answer.mk.injEq] at hfailure
      simp only [Http.Answer.withoutId, Http.Answer.withHeader, Http.Answer.mk.injEq]
      exact ⟨hfailure.1, rfl, hfailure.2.2⟩
    · exact hfailure

end Exchange

end Answers

section Refusals

/-- An exchange that has no part in deciding. -/
structure LeavesAlone
    (s : Service)
    (x : Exchange) : Prop where
  readsRules : x.readsRules = false
  calls : x.calls = []
  /-- The cache above all. -/
  engine : x.service.engine = s.engine
  counts : x.service.tally.AgreesOnDecisions s.tally

namespace Exchange

variable {s s' : Service} {r : Http.Request} {outcome : Outcome}

theorem leavesAlone_run
    (hdeclines : Declines r outcome)
    (h : handled s r = ⟨s, outcome, [], false⟩)
    (o : Occasion) :
    LeavesAlone s (run s r o) := by
  cases hdeclines with
  | unread hpath hread =>
      simp only [run, h, concluded]
      exact ⟨rfl, rfl, rfl, Tally.agreesOnDecisions_recordRequest _ _ _ _ _⟩
  | refused hkind =>
      simp only [run, h, concluded]
      refine ⟨rfl, rfl, rfl, ?_⟩
      exact (Tally.agreesOnDecisions_recordRequest _ _ _ _ _).trans
        (Tally.agreesOnDecisions_recordError _ _ _)

theorem status_run
    (hdeclines : Declines r outcome)
    (h : handled s r = ⟨s, outcome, [], false⟩)
    (o : Occasion) :
    (run s r o).answer.status = 401 ∨
      (run s r o).answer.status = 422 ∧ r.target.path = "/decisions/server-side" ∧
        ∃ flaw, Http.Payload.read r = .error flaw := by
  cases hdeclines with
  | unread hpath hread =>
      refine .inr ⟨?_, hpath, _, hread⟩
      simp only [run, h, concluded, Http.Answer.withHeader, status_marked]
      rfl
  | refused hkind =>
      refine .inl ?_
      simp only [run, h, concluded, Http.Answer.withHeader, status_marked]
      simp only [failureAnswer, Http.Answer.object, Http.Answer.plain, Failure.status, hkind]

theorem withoutId_answer_run
    (hdeclines : Declines r outcome)
    (h : handled s r = ⟨s, outcome, [], false⟩)
    (h' : handled s' r = ⟨s', outcome, [], false⟩)
    (hsettings : s'.settings = s.settings)
    (o o' : Occasion) :
    (run s' r o').answer.withoutId = (run s r o).answer.withoutId := by
  cases hdeclines with
  | unread hpath hread =>
      simp only [run, h, h', concluded, Http.Answer.withoutId_withHeader, marked_congr hsettings]
  | refused hkind =>
      simp only [run, h, h', concluded, Http.Answer.withoutId_withHeader, marked_congr hsettings]
      exact withoutId_marked_failureAnswer s r _ _ _

end Exchange

/--
**Callers without the key learn nothing and change nothing.**  A privileged request that
does not bring the key of the service reads no rule, makes no lookup, and leaves the engine
and the counts of decisions and addresses as they are.  It is refused, unless its body is
no document, which it is told.  Any other service with the same settings gives it the same
answer, but for the identifier of the request.
-/
theorem unadmitted_caller_learns_nothing
    {s : Service}
    {e : Engine}
    (hengine : s.engine = some e)
    {r : Http.Request}
    (hprivileged : r.IsPrivileged)
    (hkey : ¬ Admission.Brings s.settings.apiKey r)
    (o : Occasion) :
    LeavesAlone s (Exchange.run s r o) ∧
      ((Exchange.run s r o).answer.status = 401 ∨
        (Exchange.run s r o).answer.status = 422 ∧ r.target.path = "/decisions/server-side" ∧
          ∃ flaw, Http.Payload.read r = .error flaw) ∧
      ∀ (s' : Service) (e' : Engine) (o' : Occasion),
        s'.settings = s.settings → s'.engine = some e' →
          (Exchange.run s' r o').answer.withoutId = (Exchange.run s r o).answer.withoutId := by
  obtain ⟨outcome, hdeclines, hhandled⟩ := Exchange.exists_declines hprivileged hkey
  have h := hhandled s e rfl hengine
  refine ⟨Exchange.leavesAlone_run hdeclines h o, Exchange.status_run hdeclines h o, ?_⟩
  intro s' e' o' hsettings hengine'
  exact Exchange.withoutId_answer_run hdeclines h (hhandled s' e' hsettings hengine') hsettings o o'

/-- A request for an address that brings a key. -/
def addressRequest
    (key : String) : Http.Request :=
  ⟨"GET", ⟨"/decisions/ip/198.51.100.7", []⟩, [("X-API-Key", key)], ""⟩

/-- A service with the same settings, but without the rule, the file and the cache. -/
def bareService : Service :=
  { keyedService with engine := some ⟨.offline (.holding (.array [])), .unavailable⟩ }

/-- A caller with a key that is not quite right is told the same by both services. -/
theorem caller_with_wrong_key_learns_nothing :
    (addressRequest "Open sesame").IsPrivileged ∧
      ¬ Admission.Brings keyedService.settings.apiKey (addressRequest "Open sesame") ∧
      LeavesAlone keyedService
        (Exchange.run keyedService (addressRequest "Open sesame") ⟨"r-1", Double.zero⟩) ∧
      (Exchange.run bareService (addressRequest "Open sesame")
          ⟨"r-2", Double.zero⟩).answer.withoutId =
        (Exchange.run keyedService (addressRequest "Open sesame")
          ⟨"r-1", Double.zero⟩).answer.withoutId := by
  have hprivileged : (addressRequest "Open sesame").IsPrivileged :=
    .address "198.51.100.7" (by decide) (by decide) rfl rfl
  have hkey : ¬ Admission.Brings keyedService.settings.apiKey (addressRequest "Open sesame") := by
    rw [← Admission.failure?_eq_none_iff]
    decide
  have hengine : keyedService.engine = some ⟨includingSurroundings, .folder .initial⟩ := rfl
  obtain ⟨halone, -, hsame⟩ := unadmitted_caller_learns_nothing hengine hprivileged hkey
    ⟨"r-1", Double.zero⟩
  exact ⟨hprivileged, hkey, halone, hsame bareService _ ⟨"r-2", Double.zero⟩ rfl rfl⟩

end Refusals

end Turnstile
