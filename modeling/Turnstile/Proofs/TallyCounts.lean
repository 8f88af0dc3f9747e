import Mathlib.Data.List.Fold
import Turnstile.Decision

/-!
# What tallies count

Each operation of a tally touches one series.  These lemmas say what the number of each
series, and the sum over all series of a metric, become, so that later modules add up
what a run of a service counts without opening a tally.

**Measured amounts.**  A histogram puts each amount that is a number in exactly one of its
buckets, so the number of amounts grows by one, as long as it has a count for each bound.

**Results.**
* `count_increment`, `total_increment`: what is counted once more.
* `count_recordDecision`, `count_recordRequest`, `count_recordAll`: what is counted of
  decisions, requests and resolved addresses.
* `measured_recordDecision`: how often a decision was measured.
-/

namespace Turnstile

section Series

variable {α : Type}

/-- The value of a series, if it is there. -/
def Tally.value?
    (entries : List (Series × α))
    (series : Series) : Option α :=
  (entries.find? (·.1 == series)).map (·.2)

theorem Tally.value?_updated
    (series : Series)
    (first : α)
    (f : α → α)
    (entries : List (Series × α))
    (series' : Series) :
    value? (updated series first f entries) series' =
      if series' = series then some (f ((value? entries series).getD first))
      else value? entries series' := by
  induction entries with
  | nil =>
      by_cases h : series' = series
      · simp [updated, value?, h]
      · simp [updated, value?, h, Ne.symm h]
  | cons entry rest ih =>
      obtain ⟨s, value⟩ := entry
      unfold value? at ih ⊢
      by_cases hs : s = series
      · subst hs
        by_cases h : series' = s
        · simp [updated, h]
        · simp [updated, h, Ne.symm h]
      · by_cases h : s = series'
        · subst h
          simp [updated, hs]
        · simpa [updated, hs, h] using ih

/-- A change to one series leaves those of other kinds as they are. -/
theorem Tally.filter_updated
    (ofKind : Series → Bool)
    {series : Series}
    (hother : ofKind series = false)
    (first : α)
    (f : α → α)
    (entries : List (Series × α)) :
    (updated series first f entries).filter (fun entry => ofKind entry.1) =
      entries.filter fun entry => ofKind entry.1 := by
  induction entries with
  | nil =>
      simp [updated, hother]
  | cons entry rest ih =>
      obtain ⟨s, value⟩ := entry
      by_cases hs : s = series
      · subst hs
        simp [updated, hother]
      · simp only [updated, hs, if_false, List.filter_cons, ih]

/-- Adds the value of a series. -/
def Tally.addValue
    (entry : Series × Nat)
    (n : Nat) : Nat :=
  entry.2 + n

/-- Counting once more in a series adds one to the sum over each kind that it is of. -/
theorem Tally.foldr_filter_updated
    (ofKind : Series → Bool)
    (series : Series)
    (entries : List (Series × Nat)) :
    ((updated series 0 (· + 1) entries).filter fun entry => ofKind entry.1).foldr addValue 0 =
      (entries.filter fun entry => ofKind entry.1).foldr addValue 0 +
        if ofKind series = true then 1 else 0 := by
  cases hkind : ofKind series with
  | false =>
      rw [filter_updated ofKind hkind]
      simp
  | true =>
      induction entries with
      | nil =>
          simp [updated, hkind, addValue]
      | cons entry rest ih =>
          obtain ⟨s, value⟩ := entry
          by_cases hs : s = series
          · subst hs
            simp only [updated, if_true, List.filter_cons, hkind, List.foldr_cons, addValue]
            omega
          · simp only [updated, hs, if_false, List.filter_cons]
            split
            · simp only [List.foldr_cons, ih, addValue]
              omega
            · exact ih

end Series

section Amounts

/-- A histogram has a count for each bound. -/
def Histogram.IsComplete
    (h : Histogram) : Prop :=
  h.counts.length = bounds.length

theorem Histogram.isComplete_empty :
    empty.IsComplete := by
  simp [IsComplete, empty]

theorem Histogram.length_counted
    (amount : Double)
    (limits : List Double)
    (counts : List Nat) :
    (counted amount limits counts).length = counts.length := by
  fun_induction counted amount limits counts with
  | case1 => rfl
  | case2 limit limits n counts hmost ih => rw [List.length_cons, List.length_cons, ih]
  | case3 => rfl

/-- An amount that some bucket takes is counted in one of them. -/
theorem Histogram.foldr_counted
    {amount : Double}
    {limits : List Double}
    {counts : List Nat}
    (hlength : counts.length = limits.length)
    (htaken : ∃ limit ∈ limits, atMost amount limit = true) :
    (counted amount limits counts).foldr (· + ·) 0 = counts.foldr (· + ·) 0 + 1 := by
  fun_induction counted amount limits counts with
  | case1 limit limits n counts hmost =>
      rw [List.foldr_cons, List.foldr_cons]
      omega
  | case2 limit limits n counts hmost ih =>
      have htaken' : ∃ later ∈ limits, atMost amount later = true := by
        obtain ⟨later, hmem, hlater⟩ := htaken
        rcases List.mem_cons.mp hmem with rfl | hmem
        · exact absurd hlater hmost
        · exact ⟨later, hmem, hlater⟩
      rw [List.foldr_cons, List.foldr_cons, ih (Nat.succ.inj hlength) htaken']
      omega
  | case3 limits counts hshape =>
      obtain ⟨limit, hmem, -⟩ := htaken
      cases limits with
      | nil => cases hmem
      | cons first limits =>
          cases counts with
          | nil => cases hlength
          | cons n counts => exact absurd rfl (hshape first limits n counts rfl)

/-- The last bucket takes all numbers. -/
theorem Histogram.atMost_infinite
    {amount : Double}
    (hnumber : amount ≠ .nan) :
    atMost amount (.infinite false) = true := by
  cases amount with
  | nan => exact absurd rfl hnumber
  | infinite negative => cases negative <;> rfl
  | finite negative units exact => rfl

theorem Histogram.isComplete_observe
    {h : Histogram}
    (hcomplete : h.IsComplete)
    (amount : Double) :
    (h.observe amount).IsComplete := by
  rw [IsComplete, observe, length_counted]
  exact hcomplete

/-- Each number that is measured counts once. -/
theorem Histogram.count_observe
    {h : Histogram}
    (hcomplete : h.IsComplete)
    {amount : Double}
    (hnumber : amount ≠ .nan) :
    (h.observe amount).count = h.count + 1 := by
  have htaken : ∃ limit ∈ bounds, atMost amount limit = true :=
    ⟨.infinite false, by simp [bounds], atMost_infinite hnumber⟩
  simp only [count, List.foldl_eq_foldr, observe]
  exact foldr_counted hcomplete htaken

end Amounts

section Counting

namespace Tally

/-- The counters of a metric. -/
def countersOf
    (t : Tally)
    (m : Metric) : List (Series × Nat) :=
  t.counters.filter fun entry => entry.1.metric == m

/-- The histograms of a metric. -/
def histogramsOf
    (t : Tally)
    (m : Metric) : List (Series × Histogram) :=
  t.histograms.filter fun entry => entry.1.metric == m

/-- The sum over all series of a metric. -/
def total
    (t : Tally)
    (m : Metric) : Nat :=
  (t.countersOf m).foldr addValue 0

/-- The number of amounts that were measured in a series. -/
def measured
    (t : Tally)
    (m : Metric)
    (values : List String) : Nat :=
  ((value? t.histograms ⟨m, values⟩).map Histogram.count).getD 0

/-- All histograms have a count for each bound. -/
def IsComplete
    (t : Tally) : Prop :=
  ∀ series h, value? t.histograms series = some h → h.IsComplete

theorem count_eq_countersOf
    (t : Tally)
    (m : Metric)
    (values : List String) :
    t.count m values = (value? (t.countersOf m) ⟨m, values⟩).getD 0 := by
  unfold count countersOf value?
  rw [List.find?_filter]
  congr 3
  funext entry
  by_cases h : entry.1 = ⟨m, values⟩
  · simp [h]
  · simp [h]

/-- Counting once more in a series adds one to it, and nothing to any other. -/
theorem count_increment
    (t : Tally)
    (m : Metric)
    (values : List String)
    (m' : Metric)
    (values' : List String) :
    (t.increment m values).count m' values' =
      t.count m' values' + if m' = m ∧ values' = values then 1 else 0 := by
  have hvalue := value?_updated ⟨m, values⟩ 0 (· + 1) t.counters ⟨m', values'⟩
  unfold value? at hvalue
  simp only [count, increment, hvalue, Series.mk.injEq]
  split
  next h =>
    obtain ⟨rfl, rfl⟩ := h
    simp
  next =>
    rw [Nat.add_zero]

theorem total_increment
    (t : Tally)
    (m : Metric)
    (values : List String)
    (m' : Metric) :
    (t.increment m values).total m' = t.total m' + if m' = m then 1 else 0 := by
  simp only [total, countersOf, increment, foldr_filter_updated (fun s => s.metric == m'),
    beq_iff_eq, eq_comm (a := m)]

theorem countersOf_increment
    (t : Tally)
    {m : Metric}
    (values : List String)
    {m' : Metric}
    (hother : m' ≠ m) :
    (t.increment m values).countersOf m' = t.countersOf m' :=
  filter_updated (fun s => s.metric == m') (by simpa using hother.symm) _ _ _

/-- Measuring an amount changes no counter. -/
@[simp] theorem counters_measure
    (t : Tally)
    (m : Metric)
    (values : List String)
    (v : Json) :
    (t.measure m values v).1.counters = t.counters := by
  unfold measure
  cases amount v <;> rfl

@[simp] theorem service_measure
    (t : Tally)
    (m : Metric)
    (values : List String)
    (v : Json) :
    (t.measure m values v).1.service = t.service := by
  unfold measure
  cases amount v <;> rfl

theorem histogramsOf_measure
    (t : Tally)
    {m : Metric}
    (values : List String)
    {m' : Metric}
    (hother : m' ≠ m)
    (v : Json) :
    (t.measure m values v).1.histogramsOf m' = t.histogramsOf m' := by
  have hkind : ((⟨m, values⟩ : Series).metric == m') = false := by simpa using hother.symm
  unfold measure
  cases amount v with
  | ok x => exact filter_updated (fun s => s.metric == m') hkind _ _ _
  | error fault => exact filter_updated (fun s => s.metric == m') hkind _ _ _

/-- Measuring a number in a series adds one to its measurements. -/
theorem IsComplete.measured_observe
    {t : Tally}
    (hcomplete : t.IsComplete)
    (m : Metric)
    (values : List String)
    {x : Double}
    (hnumber : x ≠ .nan) :
    (t.observe m values x).measured m values = t.measured m values + 1 := by
  simp only [measured, Tally.observe, value?_updated, if_true, Option.map_some, Option.getD_some]
  cases hvalue : value? t.histograms ⟨m, values⟩ with
  | none =>
      rw [Option.getD_none, Histogram.count_observe Histogram.isComplete_empty hnumber]
      rfl
  | some h =>
      rw [Option.getD_some, Histogram.count_observe (hcomplete _ h hvalue) hnumber]
      rfl

theorem IsComplete.observe
    {t : Tally}
    (hcomplete : t.IsComplete)
    (m : Metric)
    (values : List String)
    (x : Double) :
    (t.observe m values x).IsComplete := by
  intro series h hvalue
  rw [Tally.observe, value?_updated] at hvalue
  split at hvalue
  · obtain rfl := Option.some.inj hvalue
    apply Histogram.isComplete_observe
    cases hold : value? t.histograms ⟨m, values⟩ with
    | none => exact Histogram.isComplete_empty
    | some h => exact hcomplete _ h hold
  · exact hcomplete series h hvalue

end Tally

end Counting

section Records

variable {t : Tally}

/-- A service that counts decisions counts one more, and measures it. -/
theorem Tally.recordDecision_eq
    (hhas : t.has .decisions = true)
    (outcome criterion : String)
    (elapsed : Double) :
    (t.recordDecision outcome criterion (.float elapsed)).1 =
      (t.increment .decisions [outcome, criterion]).observe .decisionDuration [] elapsed := by
  rw [recordDecision, if_pos hhas]
  rfl

/-- What is counted and measured when a decision is. -/
theorem Tally.count_recordDecision
    (hhas : t.has .decisions = true)
    (outcome criterion : String)
    (elapsed : Double)
    (m : Metric)
    (values : List String) :
    (t.recordDecision outcome criterion (.float elapsed)).1.count m values =
      t.count m values + if m = .decisions ∧ values = [outcome, criterion] then 1 else 0 := by
  rw [recordDecision_eq hhas, ← count_increment]
  rfl

theorem Tally.total_recordDecision
    (hhas : t.has .decisions = true)
    (outcome criterion : String)
    (elapsed : Double)
    (m : Metric) :
    (t.recordDecision outcome criterion (.float elapsed)).1.total m =
      t.total m + if m = .decisions then 1 else 0 := by
  rw [recordDecision_eq hhas, ← total_increment t .decisions [outcome, criterion]]
  rfl

theorem Tally.IsComplete.measured_recordDecision
    (hcomplete : t.IsComplete)
    (hhas : t.has .decisions = true)
    (outcome criterion : String)
    {elapsed : Double}
    (hclock : elapsed ≠ .nan) :
    (t.recordDecision outcome criterion (.float elapsed)).1.measured .decisionDuration [] =
      t.measured .decisionDuration [] + 1 := by
  have hincremented : (t.increment .decisions [outcome, criterion]).IsComplete := hcomplete
  rw [recordDecision_eq hhas, hincremented.measured_observe _ _ hclock]
  rfl

theorem Tally.IsComplete.recordDecision
    (hcomplete : t.IsComplete)
    (hhas : t.has .decisions = true)
    (outcome criterion : String)
    (elapsed : Double) :
    (t.recordDecision outcome criterion (.float elapsed)).1.IsComplete := by
  have hincremented : (t.increment .decisions [outcome, criterion]).IsComplete := hcomplete
  rw [recordDecision_eq hhas]
  exact hincremented.observe _ _ elapsed

/-- Besides its outcome, a decision counts nothing. -/
theorem Tally.countersOf_recordDecision
    (t : Tally)
    (outcome criterion : String)
    (duration : Json)
    {m : Metric}
    (hother : m ≠ .decisions) :
    (t.recordDecision outcome criterion duration).1.countersOf m = t.countersOf m := by
  unfold recordDecision
  split
  · rw [countersOf, counters_measure]
    exact countersOf_increment t _ hother
  · rfl

@[simp] theorem Tally.service_recordDecision
    (t : Tally)
    (outcome criterion : String)
    (duration : Json) :
    (t.recordDecision outcome criterion duration).1.service = t.service := by
  unfold recordDecision
  split
  · rw [service_measure]
    rfl
  · rfl

@[simp] theorem Tally.service_recordRequest
    (t : Tally)
    (method endpoint status : String)
    (duration : Json) :
    (t.recordRequest method endpoint status duration).1.service = t.service := by
  rw [recordRequest, service_measure]
  rfl

/-- An error of the service itself is counted under its name. -/
theorem Tally.recordError_null
    (t : Tally)
    (code : String) :
    t.recordError code .null = t.increment .errors [code, t.service] :=
  rfl

/-- A request is counted under its method, endpoint and status. -/
theorem Tally.count_recordRequest
    (t : Tally)
    (method endpoint status : String)
    (duration : Json)
    (m : Metric)
    (values : List String) :
    (t.recordRequest method endpoint status duration).1.count m values =
      t.count m values +
        if m = .requests ∧ values = [method, endpoint, status] then 1 else 0 := by
  rw [← count_increment, recordRequest, count, counters_measure]
  rfl

theorem Tally.total_recordRequest
    (t : Tally)
    (method endpoint status : String)
    (duration : Json)
    (m : Metric) :
    (t.recordRequest method endpoint status duration).1.total m =
      t.total m + if m = .requests then 1 else 0 := by
  rw [← total_increment t .requests [method, endpoint, status], recordRequest, total, countersOf,
    counters_measure]
  rfl

namespace ResolutionEvent

/-- The series in which an event is counted. -/
def series : ResolutionEvent → Series
  | .cacheHit => ⟨.cacheLookups, ["hit"]⟩
  | .cacheMiss => ⟨.cacheLookups, ["miss"]⟩
  | .lookupSuccess => ⟨.apiRequests, ["success"]⟩
  | .lookupFailure => ⟨.apiRequests, ["fail"]⟩

theorem record_eq
    (t : Tally)
    (e : ResolutionEvent) :
    record t e = t.increment e.series.metric e.series.values := by
  cases e <;> rfl

/-- Events are told apart by their series. -/
theorem series_inj
    {e e' : ResolutionEvent} :
    e.series = e'.series ↔ e = e' := by
  cases e <;> cases e' <;> decide

/-- A service that resolves addresses counts each event in its series. -/
theorem count_recordAll
    {t : Tally}
    (hhas : t.has .cacheLookups = true)
    (events : List ResolutionEvent)
    (e : ResolutionEvent) :
    (recordAll t events).count e.series.metric e.series.values =
      t.count e.series.metric e.series.values + events.count e := by
  rw [recordAll, if_pos hhas]
  clear hhas
  induction events generalizing t with
  | nil =>
      rfl
  | cons first rest ih =>
      have hseries : e.series.metric = first.series.metric ∧
          e.series.values = first.series.values ↔ first = e := by
        rw [← series_inj (e := first), eq_comm (a := first.series)]
        rcases e.series with ⟨metric, values⟩
        rcases first.series with ⟨metric', values'⟩
        rw [Series.mk.injEq]
      rw [List.foldl_cons, ih, record_eq, Tally.count_increment, List.count_cons]
      simp only [hseries, beq_iff_eq]
      omega

/-- What the record of each event leaves alone, the record of all of them does. -/
theorem recordAll_induction
    (kept : Tally → Prop)
    (hrecord : ∀ t e, kept t → kept (record t e))
    (events : List ResolutionEvent)
    (ht : kept t) :
    kept (recordAll t events) := by
  unfold recordAll
  split
  case isTrue hhas =>
    clear hhas
    induction events generalizing t with
    | nil => exact ht
    | cons e rest ih => exact ih (hrecord t e ht)
  case isFalse => exact ht

/-- Events are counted in the metrics of their own series. -/
theorem countersOf_recordAll
    (t : Tally)
    (events : List ResolutionEvent)
    {m : Metric}
    (hother : ∀ e : ResolutionEvent, m ≠ e.series.metric) :
    (recordAll t events).countersOf m = t.countersOf m := by
  apply recordAll_induction (fun t' => t'.countersOf m = t.countersOf m) _ events rfl
  intro t' e h
  rw [record_eq, Tally.countersOf_increment t' e.series.values (hother e), h]

/-- Nothing is measured of an event. -/
@[simp] theorem histograms_recordAll
    (t : Tally)
    (events : List ResolutionEvent) :
    (recordAll t events).histograms = t.histograms := by
  apply recordAll_induction (fun t' => t'.histograms = t.histograms) _ events rfl
  intro t' e h
  rw [record_eq, Tally.increment, h]

@[simp] theorem service_recordAll
    (t : Tally)
    (events : List ResolutionEvent) :
    (recordAll t events).service = t.service := by
  apply recordAll_induction (fun t' => t'.service = t.service) _ events rfl
  intro t' e h
  rw [record_eq, Tally.increment, h]

end ResolutionEvent

end Records

end Turnstile
