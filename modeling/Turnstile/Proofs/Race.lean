import Mathlib.Data.List.Induction
import Turnstile.Proofs.Resolving

/-!
# Racing for an address

Resolving an address takes up to three steps: the cache is read, the address is looked up,
the record is written.  Any number of runs for one address may be under way on one cache,
and their steps may come in any order.  A run knows what it read or looked up itself, and of
the others only what they wrote.

**Runs.**  A run has a `Stage`, and in a step it does a `Deed`.  The moves of a race say whose
step comes next and what a lookup would bring at that time.  A write of a record that cannot be
written is a deed too, but leaves nothing in the cache.

**Results.**
* `uninterrupted_run_resolves`: a run that nobody interrupts does what `resolve` does.
* `course_raced`: what a run did so far, by the stage that it has reached.
* `racing_runs_stay_consistent`: lookups, records and the cache in a race.
* `refused_run_leaves_address_unknown`: a run that ends without a record is no help to later ones.
-/

namespace Turnstile
namespace Resolver

section Steps

/-- How far a run has come. -/
inductive Stage where
  /-- The cache is to be read. -/
  | fresh
  /-- The cache had no valid record, so the address is to be looked up. -/
  | missed
  /-- A record is to be written. -/
  | supplied (record : Record)
  /-- The run is over, without a record if the lookup was refused. -/
  | ended (record : Option Record)

/-- What a run does in a step. -/
inductive Deed where
  | hit (record : Record)
  | miss
  | lookup (outcome : LookupOutcome)
  | write (record : Record)

/-- What a run does next, if a lookup brings an outcome. -/
def Stage.next?
    (address : String)
    (cache : Cache)
    (outcome : LookupOutcome) : Stage → Option Deed
  | .fresh =>
      match cached? cache address with
      | some record => some (.hit record)
      | none => some .miss
  | .missed => some (.lookup outcome)
  | .supplied record => some (.write record)
  | .ended _ => none

/-- How far a run has come with a deed. -/
def Deed.stage
    (address : String) : Deed → Stage
  | .hit record => .ended (some record)
  | .miss => .missed
  | .lookup outcome =>
      match looked? address outcome with
      | some record => .supplied record
      | none => .ended none
  | .write record => .ended (some record)

/-- The cache after a deed. -/
def Deed.cache
    (address : String)
    (cache : Cache) : Deed → Cache
  | .write record => written cache address record
  | _ => cache

/-- Some runs for an address on a cache. -/
structure Race where
  cache : Cache
  stages : Nat → Stage
  /-- What was done so far, and by which run. -/
  history : List (Nat × Deed)

/-- A step of a run, with what a lookup would bring at that time. -/
structure Move where
  run : Nat
  outcome : LookupOutcome

namespace Race

/-- No run has done anything yet. -/
def start
    (c : Cache) : Race :=
  ⟨c, fun _ => .fresh, []⟩

/-- A run does a deed. -/
def does
    (address : String)
    (race : Race)
    (i : Nat)
    (d : Deed) : Race where
  cache := d.cache address race.cache
  stages := fun j => if j = i then d.stage address else race.stages j
  history := race.history ++ [(i, d)]

/-- A run makes its next step; a run that is over does nothing. -/
def step
    (address : String)
    (race : Race)
    (m : Move) : Race :=
  match (race.stages m.run).next? address race.cache m.outcome with
  | some d => race.does address m.run d
  | none => race

def after
    (address : String)
    (race : Race)
    (moves : List Move) : Race :=
  moves.foldl (step address) race

end Race

/-- What comes of moves by runs that start on a cache. -/
def raced
    (c : Cache)
    (address : String)
    (moves : List Move) : Race :=
  (Race.start c).after address moves

/-- The deeds of one run, in order. -/
def deedsOf
    (i : Nat)
    (history : List (Nat × Deed)) : List Deed :=
  history.filterMap fun done => if done.1 = i then some done.2 else none

/-- What a deed looked up. -/
def Deed.outcome? : Deed → Option LookupOutcome
  | .lookup outcome => some outcome
  | _ => none

/-- What a deed wrote. -/
def Deed.written? : Deed → Option Record
  | .write record => some record
  | _ => none

/-- What the lookups of one run brought. -/
def lookupsOf
    (i : Nat)
    (history : List (Nat × Deed)) : List LookupOutcome :=
  (deedsOf i history).filterMap Deed.outcome?

/-- The records that were written, in order. -/
def writes
    (history : List (Nat × Deed)) : List Record :=
  history.filterMap fun done => done.2.written?

end Steps

section Moves

variable {address : String} {race : Race} {i j : Nat} {d : Deed}

/-- The deeds that a run can do next. -/
inductive Race.Allows
    (address : String)
    (race : Race)
    (i : Nat) : Deed → Prop where
  | hit {r : Record}
      (hstage : race.stages i = .fresh)
      (hcached : cached? race.cache address = some r) :
      Allows address race i (.hit r)
  | miss
      (hstage : race.stages i = .fresh)
      (hcached : cached? race.cache address = none) :
      Allows address race i .miss
  | lookup {outcome : LookupOutcome}
      (hstage : race.stages i = .missed) :
      Allows address race i (.lookup outcome)
  | write {r : Record}
      (hstage : race.stages i = .supplied r) :
      Allows address race i (.write r)

/-- A move changes nothing, or is a deed that its run can do. -/
theorem Race.step_cases
    (address : String)
    (race : Race)
    (m : Move) :
    race.step address m = race ∨
      ∃ d, race.Allows address m.run d ∧ race.step address m = race.does address m.run d := by
  unfold step
  cases hstage : race.stages m.run with
  | fresh =>
      cases hcached : cached? race.cache address with
      | some r => exact .inr ⟨.hit r, .hit hstage hcached, by simp only [Stage.next?, hcached]⟩
      | none => exact .inr ⟨.miss, .miss hstage hcached, by simp only [Stage.next?, hcached]⟩
  | missed =>
      exact .inr ⟨.lookup m.outcome, .lookup hstage, rfl⟩
  | supplied r =>
      exact .inr ⟨.write r, .write hstage, rfl⟩
  | ended result =>
      exact .inl rfl

/-- What every allowed deed preserves holds after all moves. -/
theorem Race.after_induction
    (address : String)
    {P : Race → Prop}
    (hdeed : ∀ race i d, P race → race.Allows address i d → P (race.does address i d))
    (moves : List Move)
    (hrace : P race) :
    P (race.after address moves) := by
  induction moves generalizing race with
  | nil =>
      exact hrace
  | cons m rest ih =>
      apply ih
      rcases step_cases address race m with hsame | ⟨d, hallowed, hdone⟩
      · rw [hsame]
        exact hrace
      · rw [hdone]
        exact hdeed race m.run d hrace hallowed

theorem Race.after_append
    (moves moves' : List Move) :
    race.after address (moves ++ moves') = (race.after address moves).after address moves' :=
  List.foldl_append

@[simp] theorem Race.stages_does_self :
    (race.does address i d).stages i = d.stage address :=
  if_pos rfl

theorem Race.stages_does_of_ne
    (h : j ≠ i) :
    (race.does address i d).stages j = race.stages j :=
  if_neg h

theorem deedsOf_does_self :
    deedsOf i (race.does address i d).history = deedsOf i race.history ++ [d] := by
  simp [Race.does, deedsOf]

theorem deedsOf_does_of_ne
    (h : j ≠ i) :
    deedsOf j (race.does address i d).history = deedsOf j race.history := by
  simp [Race.does, deedsOf, h.symm]

theorem lookupsOf_does_of_ne
    (h : j ≠ i) :
    lookupsOf j (race.does address i d).history = lookupsOf j race.history := by
  rw [lookupsOf, lookupsOf, deedsOf_does_of_ne h]

theorem lookupsOf_does_self :
    lookupsOf i (race.does address i d).history =
      lookupsOf i race.history ++ d.outcome?.toList := by
  rw [lookupsOf, lookupsOf, deedsOf_does_self, List.filterMap_append]
  cases d <;> rfl

theorem writes_does :
    writes (race.does address i d).history = writes race.history ++ d.written?.toList := by
  rw [writes, writes, Race.does, List.filterMap_append]
  cases d <;> rfl

end Moves

section Uninterrupted

variable {address : String} {race : Race} {m : Move} {d : Deed}

theorem Race.step_of_next?
    (h : (race.stages m.run).next? address race.cache m.outcome = some d) :
    race.step address m = race.does address m.run d := by
  rw [step, h]

theorem Race.step_of_ended
    (address : String)
    {result : Option Record}
    (h : race.stages m.run = .ended result) :
    race.step address m = race := by
  rw [step, h, Stage.next?]

/-- A run that nobody interrupts does what resolving the address does. -/
theorem uninterrupted_run_resolves
    (api : LookupApi)
    (race : Race)
    {i : Nat}
    (haddress : address ≠ "")
    (hfresh : race.stages i = .fresh)
    (outcome : LookupOutcome) :
    (race.after address (List.replicate 3 ⟨i, outcome⟩)).stages i =
        .ended (resolve api (fun _ => outcome) race.cache address).record ∧
      (race.after address (List.replicate 3 ⟨i, outcome⟩)).cache =
        (resolve api (fun _ => outcome) race.cache address).cache ∧
      (lookupsOf i (race.after address (List.replicate 3 ⟨i, outcome⟩)).history).map
          (fun _ => api.call address) =
        (lookupsOf i race.history).map (fun _ => api.call address) ++
          (resolve api (fun _ => outcome) race.cache address).calls := by
  have hafter : race.after address (List.replicate 3 ⟨i, outcome⟩) =
      ((race.step address ⟨i, outcome⟩).step address ⟨i, outcome⟩).step address
        ⟨i, outcome⟩ := rfl
  rw [hafter, resolve, if_neg haddress]
  cases hcached : cached? race.cache address with
  | some r =>
      have hhit : race.step address ⟨i, outcome⟩ = race.does address i (.hit r) := by
        apply Race.step_of_next?
        simp only [hfresh, Stage.next?, hcached]
      have hended : (race.does address i (.hit r)).stages i = .ended (some r) :=
        Race.stages_does_self
      have hstay := Race.step_of_ended (m := ⟨i, outcome⟩) address hended
      rw [hhit, hstay, hstay, lookupsOf_does_self]
      refine ⟨hended, rfl, ?_⟩
      simp [Deed.outcome?]
  | none =>
      have hmiss : race.step address ⟨i, outcome⟩ = race.does address i .miss := by
        apply Race.step_of_next?
        simp only [hfresh, Stage.next?, hcached]
      have hlookup : (race.does address i .miss).step address ⟨i, outcome⟩ =
          (race.does address i .miss).does address i (.lookup outcome) := by
        apply Race.step_of_next?
        simp only [Race.stages_does_self, Deed.stage, Stage.next?]
      rw [hmiss, hlookup, lookUp]
      cases hlooked : looked? address outcome with
      | none =>
          have hended : ((race.does address i .miss).does address i (.lookup outcome)).stages i =
              .ended none := by
            simp only [Race.stages_does_self, Deed.stage, hlooked]
          have hstay := Race.step_of_ended (m := ⟨i, outcome⟩) address hended
          rw [hstay, lookupsOf_does_self, lookupsOf_does_self]
          refine ⟨hended, rfl, ?_⟩
          simp [Deed.outcome?]
      | some r =>
          have hwrite :
              ((race.does address i .miss).does address i (.lookup outcome)).step address
                  ⟨i, outcome⟩ =
                ((race.does address i .miss).does address i (.lookup outcome)).does address i
                  (.write r) := by
            apply Race.step_of_next?
            simp only [Race.stages_does_self, Deed.stage, hlooked, Stage.next?]
          rw [hwrite, lookupsOf_does_self, lookupsOf_does_self, lookupsOf_does_self]
          refine ⟨Race.stages_does_self, rfl, ?_⟩
          simp [Deed.outcome?]

end Uninterrupted

section Courses

variable {address : String} {race : Race} {i : Nat} {d : Deed} {ds : List Deed}

/-- What a run has done, and how far it has come with it. -/
inductive Course
    (address : String) : List Deed → Stage → Prop where
  | fresh :
      Course address [] .fresh
  | hit {r : Record} :
      Course address [.hit r] (.ended (some r))
  | missed :
      Course address [.miss] .missed
  | supplied {outcome : LookupOutcome} {r : Record}
      (hlooked : looked? address outcome = some r) :
      Course address [.miss, .lookup outcome] (.supplied r)
  | refused {outcome : LookupOutcome}
      (hlooked : looked? address outcome = none) :
      Course address [.miss, .lookup outcome] (.ended none)
  | written {outcome : LookupOutcome} {r : Record}
      (hlooked : looked? address outcome = some r) :
      Course address [.miss, .lookup outcome, .write r] (.ended (some r))

/-- A deed that is allowed continues the course of its run. -/
theorem Course.does
    (hcourse : Course address ds (race.stages i))
    (hallowed : race.Allows address i d) :
    Course address (ds ++ [d]) (d.stage address) := by
  cases hallowed with
  | hit hstage hcached =>
      rw [hstage] at hcourse
      cases hcourse with
      | fresh => exact .hit
  | miss hstage hcached =>
      rw [hstage] at hcourse
      cases hcourse with
      | fresh => exact .missed
  | @lookup outcome hstage =>
      rw [hstage] at hcourse
      cases hcourse with
      | missed =>
          rw [Deed.stage]
          cases hlooked : looked? address outcome with
          | some r => exact .supplied hlooked
          | none => exact .refused hlooked
  | write hstage =>
      rw [hstage] at hcourse
      cases hcourse with
      | supplied hlooked => exact .written hlooked

/-- A run looks the address up at most once. -/
theorem Course.length_lookups_le
    {stage : Stage}
    (hcourse : Course address ds stage) :
    (ds.filterMap Deed.outcome?).length ≤ 1 := by
  cases hcourse <;> simp [List.filterMap_cons, Deed.outcome?]

/-- A run that is over gives what it read, or what it looked up. -/
theorem Course.result_cases
    {result : Option Record}
    (hcourse : Course address ds (.ended result)) :
    (∃ r, Deed.hit r ∈ ds ∧ result = some r) ∨
      ∃ outcome, ds.filterMap Deed.outcome? = [outcome] ∧
        result = looked? address outcome := by
  cases hcourse with
  | hit => exact .inl ⟨_, List.mem_singleton_self _, rfl⟩
  | refused hlooked => exact .inr ⟨_, rfl, hlooked.symm⟩
  | written hlooked => exact .inr ⟨_, rfl, hlooked.symm⟩

/-- A run that wrote a record has got it from a lookup. -/
theorem Course.exists_lookup_of_write
    {stage : Stage}
    {r : Record}
    (hcourse : Course address ds stage)
    (hmem : Deed.write r ∈ ds) :
    ∃ outcome ∈ ds.filterMap Deed.outcome?, looked? address outcome = some r := by
  cases hcourse with
  | @written outcome r' hlooked =>
      obtain rfl : r = r' := by simpa using hmem
      exact ⟨outcome, List.mem_singleton_self _, hlooked⟩
  | fresh | hit | missed | supplied | refused => simp at hmem

/-- Every run of a race is on its course. -/
theorem course_raced
    (c : Cache)
    (address : String)
    (moves : List Move)
    (i : Nat) :
    Course address (deedsOf i (raced c address moves).history)
      ((raced c address moves).stages i) := by
  refine Race.after_induction address
    (P := fun race => ∀ i, Course address (deedsOf i race.history) (race.stages i))
    ?_ moves (fun _ => .fresh) i
  intro race k d hcourses hallowed j
  by_cases hj : j = k
  · subst hj
    rw [deedsOf_does_self, Race.stages_does_self]
    exact (hcourses j).does hallowed
  · rw [deedsOf_does_of_ne hj, Race.stages_does_of_ne hj]
    exact hcourses j

/-- Every deed was allowed when it was done. -/
theorem exists_allows_of_mem_deedsOf
    {c : Cache}
    {moves : List Move}
    (hmem : d ∈ deedsOf i (raced c address moves).history) :
    ∃ earlier m later, moves = earlier ++ m :: later ∧ m.run = i ∧
      (raced c address earlier).Allows address i d := by
  induction moves using List.reverseRecOn with
  | nil =>
      cases hmem
  | append_singleton moves m ih =>
      have hlast : raced c address (moves ++ [m]) = (raced c address moves).step address m :=
        Race.after_append moves [m]
      have hbefore : d ∈ deedsOf i (raced c address moves).history →
          ∃ earlier m' later, moves ++ [m] = earlier ++ m' :: later ∧ m'.run = i ∧
            (raced c address earlier).Allows address i d := by
        intro hd
        obtain ⟨earlier, m', later, hmoves, hrun, hallowed⟩ := ih hd
        exact ⟨earlier, m', later ++ [m], by rw [hmoves]; simp, hrun, hallowed⟩
      rw [hlast] at hmem
      rcases Race.step_cases address (raced c address moves) m with hsame | ⟨e, hallowed, hdone⟩
      · rw [hsame] at hmem
        exact hbefore hmem
      rw [hdone] at hmem
      by_cases hrun : i = m.run
      · subst hrun
        rw [deedsOf_does_self, List.mem_append, List.mem_singleton] at hmem
        rcases hmem with hd | rfl
        · exact hbefore hd
        · exact ⟨moves, m, [], rfl, rfl, hallowed⟩
      · rw [deedsOf_does_of_ne hrun] at hmem
        exact hbefore hmem

end Courses

section Invariants

variable {c : Cache} {address : String} {race : Race} {i : Nat} {d : Deed}

/-- The lookups of a run brought nothing that cannot be written. -/
def LooksUpWritable
    (i : Nat)
    (history : List (Nat × Deed)) : Prop :=
  ∀ outcome ∈ lookupsOf i history, outcome.IsWritable

/--
The cache of a race holds the record that was written last if it can be written, and is as it
was at first as long as none was written.
-/
structure Race.HoldsLast
    (c : Cache)
    (address : String)
    (race : Race) : Prop where
  keeps : race.cache.Keeps address
  supplied : ∀ i r, race.stages i = .supplied r →
    ∃ outcome ∈ lookupsOf i race.history, looked? address outcome = some r
  finished : ∀ i r, race.stages i = .ended (some r) → LooksUpWritable i race.history →
    ∃ s, cached? race.cache address = some s
  unwritten : writes race.history = [] → race.cache = c
  last : ∀ r, (writes race.history).getLast? = some r → r.isWritable = true →
    Entry.document? (race.cache.stored? address) = some r.document ∧
      cached? race.cache address = some r.withoutNulls
  shares : race.cache.shares = c.shares
  others : ∀ address', c.shares address address' = false →
    race.cache.stored? address' = c.stored? address'

/-- A run is supplied with what its lookup brought. -/
theorem Deed.exists_outcome_of_stage
    {r : Record}
    (h : d.stage address = .supplied r) :
    ∃ outcome ∈ d.outcome?.toList, looked? address outcome = some r := by
  cases d with
  | lookup outcome =>
      rw [stage] at h
      cases hlooked : looked? address outcome with
      | none =>
          simp [hlooked] at h
      | some s =>
          simp only [hlooked, Stage.supplied.injEq] at h
          subst h
          exact ⟨outcome, List.mem_singleton_self _, hlooked⟩
  | hit | miss | write => cases h

theorem looksUpWritable_does_of_ne
    {j : Nat}
    (h : j ≠ i) :
    LooksUpWritable j (race.does address i d).history ↔ LooksUpWritable j race.history := by
  rw [LooksUpWritable, LooksUpWritable, lookupsOf_does_of_ne h]

/-- A record that cannot be written leaves what is cached. -/
theorem cached?_written_of_not_isWritable
    (hkeeps : c.Keeps address)
    {r : Record}
    (hr : r.isWritable = false) :
    cached? (written c address r) address = cached? c address := by
  have hfails : (c.set address (.object r.document)).2 ≠ none := by
    rw [ne_eq, Cache.snd_set_eq_none_iff, not_and]
    intro hwritable
    exact absurd (hr.symm.trans hwritable) Bool.false_ne_true
  have hentry : (written c address r).stored? address = c.stored? address := by
    rw [written, Cache.stored?_set, if_neg fun hboth => hfails hboth.1]
  have hkept : (written c address r).Keeps address := hkeeps.set address _
  rw [cached?_of_keeps hkept, hentry, cached?_of_keeps hkeeps]

theorem Race.holdsLast_start
    (hkeeps : c.Keeps address) :
    (Race.start c).HoldsLast c address where
  keeps := hkeeps
  supplied := by
    intro i r hstage
    cases hstage
  finished := by
    intro i r hstage
    cases hstage
  unwritten := fun _ => rfl
  last := by
    intro r hlast
    cases hlast
  shares := rfl
  others := fun _ _ => rfl

/-- A deed other than a write leaves the cache and what was written alone. -/
theorem Race.HoldsLast.does_of_unwritten
    (h : race.HoldsLast c address)
    (hcache : d.cache address race.cache = race.cache)
    (hwritten : d.written? = none)
    (hfinished : ∀ r, d.stage address = .ended (some r) →
      ∃ s, cached? race.cache address = some s) :
    (race.does address i d).HoldsLast c address := by
  have hwrites : writes (race.does address i d).history = writes race.history := by
    rw [writes_does, hwritten, Option.toList_none, List.append_nil]
  have hsame : (race.does address i d).cache = race.cache := hcache
  exact
    { keeps := hsame ▸ h.keeps
      supplied := by
        intro j r hstage
        by_cases hj : j = i
        · subst hj
          obtain ⟨outcome, hmem, hlooked⟩ :=
            Deed.exists_outcome_of_stage (Race.stages_does_self.symm.trans hstage)
          exact ⟨outcome, lookupsOf_does_self ▸ List.mem_append_right _ hmem, hlooked⟩
        · rw [lookupsOf_does_of_ne hj]
          exact h.supplied j r ((Race.stages_does_of_ne hj).symm.trans hstage)
      finished := by
        intro j r hstage hwritable
        rw [hsame]
        by_cases hj : j = i
        · subst hj
          exact hfinished r (Race.stages_does_self.symm.trans hstage)
        · exact h.finished j r ((Race.stages_does_of_ne hj).symm.trans hstage)
            ((looksUpWritable_does_of_ne hj).mp hwritable)
      unwritten := by
        intro hnone
        rw [hsame]
        exact h.unwritten (hwrites.symm.trans hnone)
      last := by
        intro r hlast hwritable
        rw [hsame]
        exact h.last r (hwrites ▸ hlast) hwritable
      shares := by
        rw [hsame]
        exact h.shares
      others := by
        intro address' hother
        rw [hsame]
        exact h.others address' hother }

/-- What a run writes reads back, if it can be written. -/
theorem Race.HoldsLast.cached?_written
    (h : race.HoldsLast c address)
    {r : Record}
    (hstage : race.stages i = .supplied r)
    (hr : r.isWritable = true) :
    Entry.document? ((written race.cache address r).stored? address) = some r.document ∧
      cached? (written race.cache address r) address = some r.withoutNulls := by
  obtain ⟨outcome, -, hlooked⟩ := h.supplied i r hstage
  exact Resolver.cached?_written h.keeps (Record.readsBack_of_looked? hlooked) hr

/-- A valid record in the cache stays, or another takes its place. -/
theorem Race.HoldsLast.exists_cached?_does
    (h : race.HoldsLast c address)
    (hcached : ∃ r, cached? race.cache address = some r)
    (hallowed : race.Allows address i d) :
    ∃ r, cached? (race.does address i d).cache address = some r := by
  cases hallowed with
  | @write r hstage =>
      cases hr : r.isWritable with
      | true => exact ⟨_, (h.cached?_written hstage hr).2⟩
      | false => exact hcached.imp fun _ => (cached?_written_of_not_isWritable h.keeps hr).trans
  | hit | miss | lookup => exact hcached

/-- What was written is what the cache holds, if it can be written. -/
theorem Race.HoldsLast.does_write
    (h : race.HoldsLast c address)
    {r : Record}
    (hstage : race.stages i = .supplied r) :
    (race.does address i (.write r)).HoldsLast c address := by
  have hcache : (race.does address i (.write r)).cache = written race.cache address r := rfl
  have hwrites : writes (race.does address i (.write r)).history = writes race.history ++ [r] :=
    writes_does
  exact
    { keeps := h.keeps.set address _
      supplied := by
        intro j s hj
        by_cases hji : j = i
        · subst hji
          cases Race.stages_does_self.symm.trans hj
        · rw [lookupsOf_does_of_ne hji]
          exact h.supplied j s ((Race.stages_does_of_ne hji).symm.trans hj)
      finished := by
        intro j s hj hwritable
        by_cases hji : j = i
        · subst hji
          obtain ⟨outcome, hmem, hlooked⟩ := h.supplied j r hstage
          have houtcome : outcome.IsWritable :=
            hwritable outcome (lookupsOf_does_self ▸ List.mem_append_left _ hmem)
          exact ⟨_, (h.cached?_written hstage (Record.isWritable_of_looked? houtcome hlooked)).2⟩
        · exact h.exists_cached?_does
            (h.finished j s ((Race.stages_does_of_ne hji).symm.trans hj)
              ((looksUpWritable_does_of_ne hji).mp hwritable))
            (.write hstage)
      unwritten := by
        intro hnone
        rw [hwrites] at hnone
        simp at hnone
      last := by
        intro s hlast hwritable
        rw [hwrites, List.getLast?_concat] at hlast
        obtain rfl := Option.some.inj hlast
        exact h.cached?_written hstage hwritable
      shares := by
        rw [hcache, written, Cache.shares_set]
        exact h.shares
      others := by
        intro address' hother
        rw [hcache, written, Cache.stored?_set, h.shares, hother]
        simpa using h.others address' hother }

theorem Race.HoldsLast.does
    (h : race.HoldsLast c address)
    (hallowed : race.Allows address i d) :
    (race.does address i d).HoldsLast c address := by
  cases hallowed with
  | hit hstage hcached =>
      exact h.does_of_unwritten rfl rfl fun _ _ => ⟨_, hcached⟩
  | miss hstage hcached =>
      refine h.does_of_unwritten rfl rfl ?_
      intro r hended
      cases hended
  | @lookup outcome hstage =>
      refine h.does_of_unwritten rfl rfl ?_
      intro r hended
      rw [Deed.stage] at hended
      cases hlooked : looked? address outcome <;> simp [hlooked] at hended
  | write hstage =>
      exact h.does_write hstage

theorem holdsLast_raced
    (hkeeps : c.Keeps address)
    (moves : List Move) :
    (raced c address moves).HoldsLast c address :=
  Race.after_induction address (fun _ _ _ h hallowed => h.does hallowed) moves
    (Race.holdsLast_start hkeeps)

/-- A run has made no lookup and comes to none while the cache holds a valid record. -/
structure Race.Spares
    (address : String)
    (i : Nat)
    (race : Race) : Prop where
  cached : ∃ r, cached? race.cache address = some r
  stage : race.stages i = .fresh ∨ ∃ result, race.stages i = .ended result
  lookups : lookupsOf i race.history = []

theorem Race.HoldsLast.spares_does
    {j : Nat}
    (h : race.HoldsLast c address)
    (hspares : race.Spares address j)
    (hallowed : race.Allows address i d) :
    (race.does address i d).Spares address j := by
  have hcached := h.exists_cached?_does hspares.cached hallowed
  by_cases hj : j = i
  · subst hj
    -- Only a run that has not read the cache yet does anything, and it finds the record.
    cases hallowed with
    | hit hstage hfound =>
        refine ⟨hcached, .inr ⟨_, Race.stages_does_self⟩, ?_⟩
        rw [lookupsOf_does_self, hspares.lookups]
        rfl
    | miss hstage hnone =>
        obtain ⟨r, hr⟩ := hspares.cached
        rw [hr] at hnone
        cases hnone
    | lookup hstage | write hstage =>
        rcases hspares.stage with hfresh | ⟨result, hended⟩
        · cases hstage.symm.trans hfresh
        · cases hstage.symm.trans hended
  · refine ⟨hcached, ?_, ?_⟩
    · rw [Race.stages_does_of_ne hj]
      exact hspares.stage
    · rw [lookupsOf_does_of_ne hj]
      exact hspares.lookups

/-- Nothing is looked up by a run that starts while the cache holds a valid record. -/
theorem lookupsOf_eq_nil_of_cached
    (hkeeps : c.Keeps address)
    (moves moves' : List Move)
    (hfresh : (raced c address moves).stages i = .fresh)
    (hcached : ∃ r, cached? (raced c address moves).cache address = some r) :
    lookupsOf i (raced c address (moves ++ moves')).history = [] := by
  have hlookups : lookupsOf i (raced c address moves).history = [] := by
    have hcourse := course_raced c address moves i
    rw [hfresh] at hcourse
    rw [lookupsOf]
    generalize deedsOf i (raced c address moves).history = ds at hcourse
    cases hcourse
    rfl
  have hends := Race.after_induction address
    (P := fun race => race.HoldsLast c address ∧ race.Spares address i)
    (fun _ _ _ h hallowed => ⟨h.1.does hallowed, h.1.spares_does h.2 hallowed⟩) moves'
    ⟨holdsLast_raced hkeeps moves, hcached, .inl hfresh, hlookups⟩
  rw [raced, Race.after_append]
  exact hends.2.lookups

/-- What is written was brought by a lookup of some run. -/
theorem exists_lookup_of_mem_writes
    {moves : List Move}
    {r : Record}
    (h : r ∈ writes (raced c address moves).history) :
    ∃ i, ∃ outcome ∈ lookupsOf i (raced c address moves).history,
      looked? address outcome = some r := by
  obtain ⟨⟨i, d⟩, hdone, hwritten⟩ := List.mem_filterMap.mp h
  cases d with
  | write r' =>
      obtain rfl : r' = r := Option.some.inj hwritten
      have hmem : Deed.write r' ∈ deedsOf i (raced c address moves).history :=
        List.mem_filterMap.mpr ⟨_, hdone, if_pos rfl⟩
      exact ⟨i, (course_raced c address moves i).exists_lookup_of_write hmem⟩
  | hit | miss | lookup => cases hwritten

/-- Only runs that have looked the address up write. -/
theorem writes_eq_nil_of_lookupsOf
    {moves : List Move}
    (h : ∀ i, lookupsOf i (raced c address moves).history = []) :
    writes (raced c address moves).history = [] := by
  rw [List.eq_nil_iff_forall_not_mem]
  intro r hr
  obtain ⟨i, outcome, hmem, -⟩ := exists_lookup_of_mem_writes hr
  rw [h i] at hmem
  cases hmem

/--
**Racing runs stay consistent.**  Some runs for an address take their steps in any order, on
a cache that keeps the address.
Each looks the address up at most once, and once it is over it gives the record that the
cache held when it read it, or what its own lookup brought, which is no record if the lookup
was refused.
If the cache held a valid record at first, no run looks up anything and the cache stays as it
is.  Otherwise it holds the record that was written last, or stays as it is as long as none
was written.
A run that starts after another was over with a record does not look up anything.
Other entries stay as they are.

That a cache keeps an address is to say that it takes every record that can be written.  So the
record that was written last, and that with which the other run was over if it was looked up,
must not have come from an answer with half of a surrogate pair.
-/
theorem racing_runs_stay_consistent
    (hkeeps : c.Keeps address)
    (moves : List Move) :
    (∀ i, (lookupsOf i (raced c address moves).history).length ≤ 1) ∧
    (∀ i result, (raced c address moves).stages i = .ended result →
      (∃ earlier m later r, moves = earlier ++ m :: later ∧ m.run = i ∧
        (raced c address earlier).stages i = .fresh ∧
        cached? (raced c address earlier).cache address = some r ∧ result = some r) ∨
      ∃ outcome, lookupsOf i (raced c address moves).history = [outcome] ∧
        result = looked? address outcome) ∧
    (∀ r, cached? c address = some r →
      (raced c address moves).cache = c ∧
      ∀ i, lookupsOf i (raced c address moves).history = []) ∧
    (∀ r, (writes (raced c address moves).history).getLast? = some r →
      (∀ i, ∀ outcome ∈ lookupsOf i (raced c address moves).history,
        looked? address outcome = some r → outcome.IsWritable) →
      Entry.document? ((raced c address moves).cache.stored? address) = some r.document ∧
      cached? (raced c address moves).cache address = some r.withoutNulls) ∧
    (writes (raced c address moves).history = [] → (raced c address moves).cache = c) ∧
    (∀ earlier later i j r, moves = earlier ++ later →
      (raced c address earlier).stages i = .ended (some r) →
      LooksUpWritable i (raced c address earlier).history →
      (raced c address earlier).stages j = .fresh →
      lookupsOf j (raced c address moves).history = []) ∧
    ∀ address', c.shares address address' = false →
      (raced c address moves).cache.stored? address' = c.stored? address' := by
  have hlast := holdsLast_raced hkeeps moves
  refine ⟨?_, ?_, ?_, ?_, hlast.unwritten, ?_, hlast.others⟩
  · intro i
    exact (course_raced c address moves i).length_lookups_le
  · intro i result hended
    have hcourse := course_raced c address moves i
    rw [hended] at hcourse
    rcases hcourse.result_cases with ⟨r, hhit, hresult⟩ | hlooked
    · obtain ⟨earlier, m, later, hmoves, hrun, hallowed⟩ := exists_allows_of_mem_deedsOf hhit
      cases hallowed with
      | hit hstage hcached =>
          exact .inl ⟨earlier, m, later, r, hmoves, hrun, hstage, hcached, hresult⟩
    · exact .inr hlooked
  · intro r hcached
    have hlookups : ∀ i, lookupsOf i (raced c address moves).history = [] := fun i =>
      lookupsOf_eq_nil_of_cached hkeeps [] moves rfl ⟨r, hcached⟩
    exact ⟨hlast.unwritten (writes_eq_nil_of_lookupsOf hlookups), hlookups⟩
  · intro r hr hwritable
    obtain ⟨i, outcome, hmem, hlooked⟩ := exists_lookup_of_mem_writes (List.mem_of_getLast? hr)
    exact hlast.last r hr
      (Record.isWritable_of_looked? (hwritable i outcome hmem hlooked) hlooked)
  · rintro earlier later i j r rfl hended hwritable hfresh
    exact lookupsOf_eq_nil_of_cached hkeeps earlier later hfresh
      ((holdsLast_raced hkeeps earlier).finished i r hended hwritable)

/-- An answer that tells of a country. -/
def countryAnswer : LookupOutcome :=
  let answer := "\x7b\"status\": \"success\", \"countryCode\": \"US\"\x7d"
  .response 200 (answer.toUTF8.toList.map UInt8.toNat)

/-- Two runs miss the cache; the one that is answered writes first, the one that fails last. -/
def crossingMoves : List Move :=
  [⟨0, .failed⟩, ⟨1, .failed⟩, ⟨0, .failed⟩, ⟨1, countryAnswer⟩, ⟨1, .failed⟩, ⟨0, .failed⟩]

/-- The answered run gives its own record, but the fallback stays, and a third run finds it. -/
theorem failed_run_writes_last :
    (raced (.folder .initial) "198.51.100.7" crossingMoves).stages 1 =
      .ended (looked? "198.51.100.7" countryAnswer) ∧
    Entry.document?
        ((raced (.folder .initial) "198.51.100.7" crossingMoves).cache.stored? "198.51.100.7") =
      some (fallback "198.51.100.7").document ∧
    lookupsOf 2
      (raced (.folder .initial) "198.51.100.7"
        (crossingMoves ++ List.replicate 3 ⟨2, .failed⟩)).history = [] := by
  have hkeeps : (Cache.folder .initial).Keeps "198.51.100.7" := by
    rw [Cache.keeps_iff]
    decide
  have hwrites : (writes (raced (.folder .initial) "198.51.100.7" crossingMoves).history).getLast? =
      some (fallback "198.51.100.7") :=
    rfl
  obtain ⟨-, -, -, hlast, -⟩ := racing_runs_stay_consistent hkeeps crossingMoves
  obtain ⟨-, -, -, -, -, hlater, -⟩ :=
    racing_runs_stay_consistent hkeeps (crossingMoves ++ List.replicate 3 ⟨2, .failed⟩)
  refine ⟨rfl, (hlast _ hwrites ?_).1, hlater crossingMoves _ 0 2 _ rfl rfl ?_ rfl⟩
  · -- No answer brings the fallback, which does not tell of success.
    intro i outcome _ hlooked r hr
    obtain ⟨-, -, -, -, -, -, -, hsuccess⟩ := Record.record?_eq_some_iff.mp hr
    rw [Record.looked?_eq_some_iff, hr, Option.getD_some] at hlooked
    obtain ⟨-, rfl⟩ := hlooked
    cases hsuccess
  · intro outcome hmem
    obtain rfl : outcome = .failed := List.mem_singleton.mp hmem
    exact LookupOutcome.isWritable_of_fails .transport

/-- A remote store that is open and empty. -/
def openStore : Cache :=
  .remote (Remote.initial []).start.1

theorem refused_runs
    {count : Nat}
    (hcount : count ≤ (repeatedDigit count).toList.length) :
    (raced openStore (repeatedDigit count)
        (List.replicate 2 ⟨0, limitedLookup plainApi count (repeatedDigit count)⟩)).stages 0 =
      .ended none ∧
    lookupsOf 1
      (raced openStore (repeatedDigit count)
        (List.replicate 2 ⟨0, limitedLookup plainApi count (repeatedDigit count)⟩ ++
          List.replicate 2 ⟨1, limitedLookup plainApi count (repeatedDigit count)⟩)).history =
      [.refused] := by
  rw [limitedLookup_eq_refused hcount]
  exact ⟨rfl, rfl⟩

/-- A run is over, and a later one looks the address up again. -/
theorem refused_run_leaves_address_unknown :
    openStore.Keeps (repeatedDigit 65536) ∧
    (raced openStore (repeatedDigit 65536)
        (List.replicate 2 ⟨0, limitedLookup plainApi 65536 (repeatedDigit 65536)⟩)).stages 0 =
      .ended none ∧
    lookupsOf 1
      (raced openStore (repeatedDigit 65536)
        (List.replicate 2 ⟨0, limitedLookup plainApi 65536 (repeatedDigit 65536)⟩ ++
          List.replicate 2 ⟨1, limitedLookup plainApi 65536 (repeatedDigit 65536)⟩)).history =
      [.refused] :=
  ⟨Cache.keeps_iff.mpr rfl, refused_runs (length_repeatedDigit 65536).ge⟩

end Invariants

end Resolver
end Turnstile
