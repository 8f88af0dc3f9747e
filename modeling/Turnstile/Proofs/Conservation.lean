import Turnstile.Proofs.History
import Turnstile.Proofs.Privilege
import Turnstile.Proofs.Resolving
import Turnstile.Proofs.TallyCounts

/-!
# What visits are counted as

A service counts the outcomes of its decisions, how often it measured one, what it finds
in the cache, and how lookups end.  After any run of visits these counts fit together
and fit what the visitors were told: each answered visit is one outcome and one
measurement, each address is one hit or one miss, and each miss is one lookup with one
end.  Rules, files, lookups and the cache itself may change between the visits.

**Steps.**  A visit adds to the tally what its resolution brings, and its outcome if it
is answered.  A run adds up its visits.

**Results.**
* `Decision.decide_cases`: what a decision brings, and adds to a tally.
* `AccountedFor.decide`, `AccountedFor.after`: one visit, and a run of visits.
* `visits_are_accounted_for`: what the counts are at each point of a run.
-/

namespace Turnstile

section Outcomes

namespace Decision

variable {s : Surroundings} {criterion : String} {privileged : Bool}

/-- The browser is shown an action. -/
def showsAction
    (d : Decision) : Bool :=
  (d.clientView.get? "action").any fun action => !action.isNull

@[simp] theorem showsAction_eq
    (d : Decision) :
    d.showsAction = d.action.isSome := by
  have hview : d.clientView.get? "action" = some d.actionValue := rfl
  rw [showsAction, hview, actionValue]
  cases d.action <;> rfl

/-- A rule is kept iff its action has a descriptor, be there a directive or not. -/
theorem isSome_rule_of_ofRule
    {address : String}
    {looked : Nat}
    {r : Rule}
    {d : Decision}
    (h : ofRule s privileged address looked r = .ok d) :
    d.rule.isSome = d.action.isSome := by
  obtain ⟨action, hdescriptor, hrest⟩ := bind_eq_ok_iff.mp h
  have hkept : ∃ directive : Option Directive,
      (∀ found, directive = some found →
        r.directive s.includeRoot address s.now = .ok (some found)) ∧
      (if action.isSome || directive.isSome then
        ⟨some r, action, directive, r.criteria, looked⟩
      else noMatch looked) = d := by
    cases privileged with
    | true =>
        obtain ⟨directive, hdirective, hd⟩ := bind_eq_ok_iff.mp hrest
        refine ⟨directive, ?_, pure_eq_ok_iff.mp hd⟩
        rintro found rfl
        exact hdirective
    | false =>
        exact ⟨none, nofun, pure_eq_ok_iff.mp hrest⟩
  obtain ⟨directive, hdirective, rfl⟩ := hkept
  cases action with
  | some descriptor =>
      rfl
  | none =>
      have hnone : directive = none := by
        rw [Option.eq_none_iff_forall_ne_some]
        intro found hfound
        obtain ⟨descriptor, hsome⟩ := Rule.exists_descriptor_of_directive (hdirective found hfound)
        rw [hdescriptor] at hsome
        cases hsome
      rw [hnone]
      rfl

theorem isSome_rule_of_inContext
    {c : Context}
    {found : Option Rule}
    {d : Decision}
    (h : inContext s criterion privileged c = .ok (found, d)) :
    d.rule.isSome = d.action.isSome := by
  obtain ⟨rules, -, -, hd⟩ := inContext_eq_ok_iff.mp h
  cases found with
  | none =>
      obtain rfl := hd
      rfl
  | some r =>
      exact isSome_rule_of_ofRule hd

theorem outcome_eq_matched_iff
    {found : Option Rule}
    {d : Decision} :
    outcome found d = "matched" ↔ d.rule.isSome = true := by
  unfold outcome
  cases d.rule.isSome with
  | true => simp
  | false => cases found.isSome <;> simp

/-- A decision ends in a fault after its resolution, or it is made, counted and told. -/
theorem decide_cases
    (s : Surroundings)
    (cache : Cache)
    (t : Tally)
    (request : Request)
    (criterion : String)
    (privileged : Bool) :
    let resolution := Resolver.resolve s.api s.lookup cache (Context.addressOf request)
    let counted := ResolutionEvent.recordAll t resolution.events
    (∃ fault, decide s ⟨cache, some t⟩ request criterion privileged =
        ⟨⟨resolution.cache, some counted⟩, resolution.calls, .error fault⟩) ∨
      ∃ d outcome, (outcome = "matched" ↔ d.showsAction = true) ∧
        decide s ⟨cache, some t⟩ request criterion privileged =
          ⟨⟨resolution.cache, some (record criterion outcome s.elapsed counted)⟩,
            resolution.calls, .ok d⟩ := by
  simp only [decide, Option.map_some]
  cases (Resolver.resolve s.api s.lookup cache (Context.addressOf request)).record with
  | none =>
      exact .inl ⟨_, rfl⟩
  | some r =>
      cases hd : inContext s criterion privileged
          (Context.ofRequest request (Context.addressOf request) r) with
      | error fault =>
          simp only [hd]
          exact .inl ⟨fault, rfl⟩
      | ok decided =>
          obtain ⟨found, d⟩ := decided
          simp only [hd]
          refine .inr ⟨d, outcome found d, ?_, rfl⟩
          rw [outcome_eq_matched_iff, isSome_rule_of_inContext hd, showsAction_eq]

end Decision

end Outcomes

section Runs

/-- A visit with what surrounds it at its time. -/
structure Encounter where
  surroundings : Surroundings
  /-- What becomes of the cache between the visit before and this one. -/
  disturb : Cache → Cache
  visit : Visit

/-- Decides on a visit at its time. -/
def Encounter.decide
    (memory : Memory)
    (e : Encounter) : Deciding :=
  e.visit.decide e.surroundings { memory with cache := e.disturb memory.cache }

/-- What is remembered after some visits. -/
def Memory.after
    (memory : Memory)
    (encounters : List Encounter) : Memory :=
  encounters.foldl (fun memory e => (e.decide memory).memory) memory

/-- A visit with what was decided on it. -/
structure Decided where
  encounter : Encounter
  deciding : Deciding

/-- Decides on visits, each with what the visits before it left behind. -/
def decideAll
    (memory : Memory) : List Encounter → List Decided
  | [] => []
  | e :: rest => ⟨e, e.decide memory⟩ :: decideAll (e.decide memory).memory rest

namespace Decided

/-- The visit was answered without an error. -/
def isAnswered
    (d : Decided) : Bool :=
  d.deciding.result.toOption.isSome

/-- The visit was answered, and a browser is shown an action. -/
def showsAction
    (d : Decided) : Bool :=
  d.deciding.result.toOption.any Decision.showsAction

/-- The visitor has an address. -/
def hasAddress
    (d : Decided) : Bool :=
  d.encounter.visit.address != ""

end Decided

/-- The lookups that were made on some visits. -/
def callsOf
    (decided : List Decided) : List LookupCall :=
  decided.flatMap fun d => d.deciding.calls

/-- The counts of a service fit together, and fit what was decided. -/
structure AccountedFor
    (decided : List Decided)
    (t : Tally) : Prop where
  /-- What is counted as matched is what was answered with an action. -/
  matched : ∀ criterion, t.count .decisions ["matched", criterion] =
    decided.countP fun d => d.showsAction && d.encounter.visit.criterion == criterion
  /-- Each answer has one outcome. -/
  outcomes : t.total .decisions = decided.countP Decided.isAnswered
  /-- Each answer is measured once. -/
  durations : t.measured .decisionDuration [] = t.total .decisions
  /-- Each address is a hit or a miss. -/
  lookups : t.count .cacheLookups ["hit"] + t.count .cacheLookups ["miss"] =
    decided.countP Decided.hasAddress
  /-- Each miss is looked up. -/
  calls : t.count .cacheLookups ["miss"] = (callsOf decided).length
  /-- Each lookup has one end. -/
  requests : t.count .apiRequests ["success"] + t.count .apiRequests ["fail"] =
    t.count .cacheLookups ["miss"]

theorem callsOf_append_singleton
    (decided : List Decided)
    (d : Decided) :
    (callsOf (decided ++ [d])).length = (callsOf decided).length + d.deciding.calls.length := by
  simp [callsOf]

theorem countP_hasAddress_append_singleton
    (decided : List Decided)
    (d : Decided) :
    (decided ++ [d]).countP Decided.hasAddress =
      decided.countP Decided.hasAddress + if d.encounter.visit.address = "" then 0 else 1 := by
  simp only [List.countP_append, List.countP_singleton, Decided.hasAddress, bne_iff_ne, ne_eq,
    ite_not]

end Runs

section Steps

variable {api : LookupApi} {lookup : String → LookupOutcome} {cache : Cache} {address : String}

/-- An address is a hit or a miss, and each miss is one lookup with one end. -/
theorem Resolver.counts_resolve
    (hanswered : lookup address ≠ .refused)
    (api : LookupApi)
    (cache : Cache) :
    let resolution := resolve api lookup cache address
    resolution.events.count .cacheHit + resolution.events.count .cacheMiss =
        (if address = "" then 0 else 1) ∧
      resolution.events.count .cacheMiss = resolution.calls.length ∧
      resolution.events.count .lookupSuccess + resolution.events.count .lookupFailure =
        resolution.calls.length := by
  unfold resolve
  by_cases haddress : address = ""
  · simp [haddress]
  rw [if_neg haddress, if_neg haddress]
  cases hcached : cached? cache address with
  | some r =>
      simp
  | none =>
      cases hlooked : looked? address (lookup address) with
      | none =>
          exact absurd (looked?_eq_none_iff.mp hlooked) hanswered
      | some r =>
          simp only [lookUp, hlooked, eventOf]
          cases (lookup address).record?.isSome <;> simp

/-- The tally is that of a service of decisions, and takes any measurement. -/
structure Tally.IsOfDecisions
    (t : Tally) : Prop where
  service_eq : t.service = Metric.decisionsService
  complete : t.IsComplete

theorem Tally.IsOfDecisions.has
    {t : Tally}
    (ht : t.IsOfDecisions) :
    t.has .decisions = true ∧ t.has .cacheLookups = true := by
  unfold Tally.has
  rw [ht.service_eq]
  decide

theorem Tally.IsOfDecisions.recordAll
    {t : Tally}
    (ht : t.IsOfDecisions)
    (events : List ResolutionEvent) :
    (ResolutionEvent.recordAll t events).IsOfDecisions := by
  refine ⟨by rw [ResolutionEvent.service_recordAll, ht.service_eq], ?_⟩
  unfold Tally.IsComplete
  rw [ResolutionEvent.histograms_recordAll]
  exact ht.complete

theorem Tally.IsOfDecisions.record
    {t : Tally}
    (ht : t.IsOfDecisions)
    (criterion outcome : String)
    (elapsed : Double) :
    (Decision.record criterion outcome elapsed t).IsOfDecisions := by
  refine ⟨?_, ht.complete.recordDecision ht.has.1 outcome criterion elapsed⟩
  rw [Decision.record, Tally.recordDecision_eq ht.has.1]
  exact ht.service_eq

/-- What a tally counts more once an address was resolved with some calls. -/
structure CountsResolution
    (earlier : Tally)
    (address : String)
    (calls : List LookupCall)
    (later : Tally) : Prop where
  outcomes : later.countersOf .decisions = earlier.countersOf .decisions
  histograms : later.histograms = earlier.histograms
  lookups : later.count .cacheLookups ["hit"] + later.count .cacheLookups ["miss"] =
    earlier.count .cacheLookups ["hit"] + earlier.count .cacheLookups ["miss"] +
      if address = "" then 0 else 1
  misses : later.count .cacheLookups ["miss"] =
    earlier.count .cacheLookups ["miss"] + calls.length
  requests : later.count .apiRequests ["success"] + later.count .apiRequests ["fail"] =
    earlier.count .apiRequests ["success"] + earlier.count .apiRequests ["fail"] + calls.length

theorem Tally.IsOfDecisions.countsResolution
    {t : Tally}
    (ht : t.IsOfDecisions)
    (hanswered : lookup address ≠ .refused)
    (api : LookupApi)
    (cache : Cache) :
    CountsResolution t address (Resolver.resolve api lookup cache address).calls
      (ResolutionEvent.recordAll t (Resolver.resolve api lookup cache address).events) := by
  obtain ⟨hlookups, hmisses, hrequests⟩ := Resolver.counts_resolve hanswered api cache
  have hcount := ResolutionEvent.count_recordAll ht.has.2
    (Resolver.resolve api lookup cache address).events
  have hhit := hcount .cacheHit
  have hmiss := hcount .cacheMiss
  have hsuccess := hcount .lookupSuccess
  have hfailure := hcount .lookupFailure
  simp only [ResolutionEvent.series] at hhit hmiss hsuccess hfailure
  constructor
  · exact ResolutionEvent.countersOf_recordAll t _ fun e => by cases e <;> nofun
  · exact ResolutionEvent.histograms_recordAll t _
  · omega
  · omega
  · omega

/-- What is counted of the lookups of a visit. -/
theorem CountsResolution.lookups_of_visit
    {past : List Decided}
    {earlier later : Tally}
    {d : Decided}
    (h : CountsResolution earlier d.encounter.visit.address d.deciding.calls later)
    (hpast : AccountedFor past earlier) :
    later.count .cacheLookups ["hit"] + later.count .cacheLookups ["miss"] =
        (past ++ [d]).countP Decided.hasAddress ∧
      later.count .cacheLookups ["miss"] = (callsOf (past ++ [d])).length ∧
      later.count .apiRequests ["success"] + later.count .apiRequests ["fail"] =
        later.count .cacheLookups ["miss"] := by
  rw [countP_hasAddress_append_singleton, callsOf_append_singleton, h.lookups, hpast.lookups,
    h.requests, hpast.requests, h.misses, hpast.calls]
  exact ⟨rfl, rfl, rfl⟩

/-- A visit that ended in a fault is counted as far as its address was resolved. -/
theorem AccountedFor.fault
    {past : List Decided}
    {earlier later : Tally}
    {d : Decided}
    {fault : DecisionFault}
    (hpast : AccountedFor past earlier)
    (h : CountsResolution earlier d.encounter.visit.address d.deciding.calls later)
    (hfault : d.deciding.result = .error fault) :
    AccountedFor (past ++ [d]) later := by
  have hnone : d.deciding.result.toOption = none := by rw [hfault]; rfl
  have htotal : later.total .decisions = earlier.total .decisions := by
    rw [Tally.total, h.outcomes, Tally.total]
  obtain ⟨hlookups, hcalls, hrequests⟩ := h.lookups_of_visit hpast
  refine ⟨?_, ?_, ?_, hlookups, hcalls, hrequests⟩
  · intro criterion
    rw [Tally.count_eq_countersOf, h.outcomes, ← Tally.count_eq_countersOf, hpast.matched]
    simp [Decided.showsAction, hnone]
  · rw [htotal, hpast.outcomes]
    simp [Decided.isAnswered, hnone]
  · rw [Tally.measured, h.histograms, ← Tally.measured, hpast.durations, htotal]

/-- A visit that was answered is counted with its outcome besides. -/
theorem AccountedFor.answer
    {past : List Decided}
    {earlier later : Tally}
    {d : Decided}
    {decision : Decision}
    {outcome : String}
    {elapsed : Double}
    (hpast : AccountedFor past earlier)
    (h : CountsResolution earlier d.encounter.visit.address d.deciding.calls later)
    (hlater : later.IsOfDecisions)
    (hanswer : d.deciding.result = .ok decision)
    (houtcome : outcome = "matched" ↔ decision.showsAction = true)
    (hclock : elapsed ≠ .nan) :
    AccountedFor (past ++ [d])
      (Decision.record d.encounter.visit.criterion outcome elapsed later) := by
  have hsome : d.deciding.result.toOption = some decision := by rw [hanswer]; rfl
  have htotal : later.total .decisions = earlier.total .decisions := by
    rw [Tally.total, h.outcomes, Tally.total]
  have hcount := Tally.count_recordDecision hlater.has.1 outcome d.encounter.visit.criterion elapsed
  obtain ⟨hlookups, hcalls, hrequests⟩ := h.lookups_of_visit hpast
  unfold Decision.record
  constructor
  · intro criterion
    have hseries : (Metric.decisions = .decisions ∧
        ["matched", criterion] = [outcome, d.encounter.visit.criterion]) ↔
          (d.showsAction && d.encounter.visit.criterion == criterion) = true := by
      rw [Bool.and_eq_true, beq_iff_eq, Decided.showsAction, hsome, Option.any_some, ← houtcome]
      simp [eq_comm]
    rw [hcount, Tally.count_eq_countersOf, h.outcomes, ← Tally.count_eq_countersOf, hpast.matched,
      List.countP_append, List.countP_singleton, if_congr hseries rfl rfl]
  · rw [Tally.total_recordDecision hlater.has.1, htotal, hpast.outcomes]
    simp [Decided.isAnswered, hsome]
  · rw [hlater.complete.measured_recordDecision hlater.has.1 _ _ hclock, Tally.measured,
      h.histograms, ← Tally.measured, hpast.durations,
      Tally.total_recordDecision hlater.has.1, htotal, if_pos rfl]
  -- An outcome is counted in no series of lookups.
  · simpa [hcount] using hlookups
  · simpa [hcount] using hcalls
  · simpa [hcount] using hrequests

/-- A visit is counted for what was decided on it. -/
theorem AccountedFor.decide
    {past : List Decided}
    {t : Tally}
    (hpast : AccountedFor past t)
    (ht : t.IsOfDecisions)
    {e : Encounter}
    (hanswered : e.surroundings.lookup e.visit.address ≠ .refused)
    (hclock : e.visit.elapsed ≠ .nan)
    (cache : Cache) :
    ∃ cache' t', (e.decide ⟨cache, some t⟩).memory = ⟨cache', some t'⟩ ∧
      t'.IsOfDecisions ∧
      AccountedFor (past ++ [⟨e, e.decide ⟨cache, some t⟩⟩]) t' := by
  have hcounts := ht.countsResolution hanswered e.surroundings.api (e.disturb cache)
  have hcounted := ht.recordAll (Resolver.resolve e.surroundings.api e.surroundings.lookup
    (e.disturb cache) e.visit.address).events
  rcases Decision.decide_cases { e.surroundings with elapsed := e.visit.elapsed }
      (e.disturb cache) t e.visit.request e.visit.criterion e.visit.privileged with
    ⟨fault, hdecide⟩ | ⟨d, outcome, houtcome, hdecide⟩
  · have he : e.decide ⟨cache, some t⟩ = _ := hdecide
    rw [he]
    exact ⟨_, _, rfl, hcounted, hpast.fault hcounts rfl⟩
  · have he : e.decide ⟨cache, some t⟩ = _ := hdecide
    rw [he]
    exact ⟨_, _, rfl, hcounted.record _ _ _, hpast.answer hcounts hcounted rfl houtcome hclock⟩

/-- A run of visits is counted for what was decided in it. -/
theorem AccountedFor.after
    {past : List Decided}
    {t : Tally}
    (hpast : AccountedFor past t)
    (ht : t.IsOfDecisions)
    {encounters : List Encounter}
    (hanswered : ∀ e ∈ encounters, e.surroundings.lookup e.visit.address ≠ .refused)
    (hclock : ∀ e ∈ encounters, e.visit.elapsed ≠ .nan)
    (cache : Cache) :
    ∃ t', (Memory.after ⟨cache, some t⟩ encounters).tally = some t' ∧
      AccountedFor (past ++ decideAll ⟨cache, some t⟩ encounters) t' := by
  -- The visits before, their tally and the cache change from visit to visit.
  induction encounters generalizing past t cache with
  | nil =>
      exact ⟨t, rfl, by rwa [decideAll, List.append_nil]⟩
  | cons e rest ih =>
      obtain ⟨cache', t', hmemory, ht', hnext⟩ := hpast.decide ht
        (hanswered e List.mem_cons_self) (hclock e List.mem_cons_self) cache
      obtain ⟨later, hlater, hrest⟩ := ih hnext ht'
        (fun o ho => hanswered o (List.mem_cons_of_mem e ho))
        (fun o ho => hclock o (List.mem_cons_of_mem e ho)) cache'
      refine ⟨later, ?_, ?_⟩
      · rw [Memory.after, List.foldl_cons, hmemory]
        exact hlater
      · rw [decideAll, hmemory, List.append_cons]
        exact hrest

end Steps

section Accounts

end Accounts

end Turnstile
