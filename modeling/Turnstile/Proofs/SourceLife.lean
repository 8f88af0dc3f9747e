import Turnstile.Proofs.RuleSources
import Turnstile.Service.Basic

/-!
# The life of a remote source of rules

A source is started, perhaps more than once, and stopped, while the texts in its store and
its connection change.  Whether rules can be read depends on the client, which a start makes
before it asks for a sign of life.  So a start can end in three ways: the address of the
store is refused and nothing is made; the client is made and the store gives no sign of
life; or the start completes.

**What is known of a run.**  A source has a client iff one of its starts completed or
stopped halfway; the invariant is proved for one event and carried over a run.

**Results.**
* `start_cases`: how a start ends, and what it leaves.
* `isOpen_after`, `isOpen_run`: when a source has a client.
* `not_started_until_client_is_made`: when a source says that it was not started.
* `halfway_start_is_taken_for_started`: a failed start after which it does not.
-/

namespace Turnstile
namespace RemoteSource

variable {s : RemoteSource} {event : SourceEvent} {events : List SourceEvent}

section Starts

/-- The source with a client. -/
def withClient
    (s : RemoteSource) : RemoteSource :=
  { s with store := { s.store with isOpen := true } }

/-- A start completes. -/
def Completes
    (s : RemoteSource) : Prop :=
  s.start.2 = none

/-- A start makes a client and fails nevertheless. -/
def StopsHalfway
    (s : RemoteSource) : Prop :=
  s.refusal = none ∧ s.start.2 ≠ none

/-- A start is refused, stops halfway or completes. -/
theorem start_cases
    (s : RemoteSource) :
    (∃ text, s.refusal = some text ∧ s.start = (s, some (RuleSource.startFailure text))) ∨
    (s.refusal = none ∧ ∃ text, s.store.life = .error text ∧
      s.start = (s.withClient, some (RuleSource.startFailure text))) ∨
    (s.refusal = none ∧ (∃ answer, s.store.life = .ok answer) ∧ s.start = (s.withClient, none)) := by
  cases hrefusal : s.refusal with
  | some text => exact .inl ⟨text, rfl, by simp only [start, hrefusal]⟩
  | none =>
      right
      cases hlife : s.store.life with
      | error text =>
          refine .inl ⟨rfl, text, rfl, ?_⟩
          simp only [start, hrefusal, Remote.start, hlife, withClient, Option.map_some]
      | ok answer =>
          refine .inr ⟨rfl, ⟨answer, rfl⟩, ?_⟩
          simp only [start, hrefusal, Remote.start, hlife, withClient, Option.map_none]

/-- A start makes a client iff it completes or stops halfway. -/
theorem completes_or_stopsHalfway_iff :
    s.Completes ∨ s.StopsHalfway ↔ s.refusal = none := by
  rcases start_cases s with ⟨text, hrefusal, hstart⟩ | ⟨hrefusal, text, -, hstart⟩ |
    ⟨hrefusal, -, hstart⟩
  · simp [Completes, StopsHalfway, hrefusal, hstart]
  · simp [Completes, StopsHalfway, hrefusal, hstart]
  · simp [Completes, hrefusal, hstart]

/-- A start that fails says why, and leaves the source as it was unless it stops halfway; then
the source has a client. -/
theorem start_of_failure
    {failure : Failure}
    (hfailure : s.start.2 = some failure) :
    (∃ text, failure = RuleSource.startFailure text) ∧
      (¬ s.StopsHalfway → s.start.1 = s) ∧
      (s.StopsHalfway → s.start.1 = s.withClient) := by
  rcases start_cases s with ⟨text, hrefusal, hstart⟩ | ⟨hrefusal, text, -, hstart⟩ |
    ⟨-, -, hstart⟩
  · rw [hstart] at hfailure
    refine ⟨⟨text, (Option.some.inj hfailure).symm⟩, fun _ => by rw [hstart], ?_⟩
    rintro ⟨hnone, -⟩
    rw [hrefusal] at hnone
    cases hnone
  · rw [hstart] at hfailure
    have hhalfway : s.StopsHalfway := ⟨hrefusal, by simp [hstart]⟩
    exact ⟨⟨text, (Option.some.inj hfailure).symm⟩, fun h => absurd hhalfway h,
      fun _ => by rw [hstart]⟩
  · rw [hstart] at hfailure
    cases hfailure

/-- The service starts a source whose address is not refused in the same way. -/
theorem startRules_source
    (hrefusal : s.refusal = none) :
    Engine.startRules s.source =
      match s.start with
      | (started, none) => .ok started.source
      | (_, some failure) => .error failure := by
  rcases start_cases s with ⟨text, hsome, -⟩ | ⟨-, text, hlife, hstart⟩ |
    ⟨-, ⟨answer, hlife⟩, hstart⟩
  · rw [hrefusal] at hsome
    cases hsome
  · simp only [hstart, source, Engine.startRules, Remote.start, hlife]
  · simp only [hstart, source, Engine.startRules, Remote.start, hlife, withClient]

end Starts

section Runs

/-- Some start of a run is such that a property holds of the source where it is started. -/
def HasStart
    (p : RemoteSource → Prop)
    (s : RemoteSource)
    (events : List SourceEvent) : Prop :=
  ∃ before after, events = before ++ .start :: after ∧ p (s.run before)

variable {p q : RemoteSource → Prop}

theorem not_hasStart_nil :
    ¬ s.HasStart p [] := by
  rintro ⟨before, after, hevents, -⟩
  simp at hevents

/-- A run that goes on has such a start at once or later. -/
theorem hasStart_cons_iff :
    s.HasStart p (event :: events) ↔ (event = .start ∧ p s) ∨ (s.after event).HasStart p events := by
  constructor
  · rintro ⟨before, after, hevents, hp⟩
    rcases before with _ | ⟨first, before⟩
    · exact .inl ⟨(List.cons.inj hevents).1, hp⟩
    · obtain ⟨rfl, htail⟩ := List.cons.inj hevents
      exact .inr ⟨before, after, htail, hp⟩
  · rintro (⟨rfl, hp⟩ | ⟨before, after, rfl, hp⟩)
    · exact ⟨[], events, rfl, hp⟩
    · exact ⟨event :: before, after, rfl, hp⟩

/-- After an event there is a client iff there was one or the event made it. -/
theorem isOpen_after :
    (s.after event).store.isOpen = true ↔
      s.store.isOpen = true ∨ (event = .start ∧ (s.Completes ∨ s.StopsHalfway)) := by
  cases event with
  | start =>
      rw [completes_or_stopsHalfway_iff]
      rcases start_cases s with ⟨text, hrefusal, hstart⟩ | ⟨hrefusal, text, -, hstart⟩ |
        ⟨hrefusal, -, hstart⟩
      · simp [after, hstart, hrefusal]
      · simp [after, hstart, hrefusal, withClient]
      · simp [after, hstart, hrefusal, withClient]
  | stop | load | stored values | connected life isBroken => simp [after]

/-- After a run there is a client iff there was one, or a start completed or stopped halfway. -/
theorem isOpen_run :
    (s.run events).store.isOpen = true ↔
      s.store.isOpen = true ∨ s.HasStart Completes events ∨ s.HasStart StopsHalfway events := by
  induction events generalizing s with
  | nil => simp [run, not_hasStart_nil]
  | cons event events ih =>
      have hrun : s.run (event :: events) = (s.after event).run events := rfl
      rw [hrun, ih, isOpen_after, hasStart_cons_iff, hasStart_cons_iff]
      tauto

/-- Reading says that the source was not started iff there is no client. -/
theorem raws_source_eq_notStarted_iff :
    s.source.raws = .error .notStarted ↔ s.store.isOpen = false :=
  RuleSource.raws_eq_error_iff

/-- In a run from before the first start, reading says that the source was not started iff no
start completed and none stopped halfway.  A start that fails leaves the source as it was
unless it stops halfway, and then with a client. -/
theorem not_started_until_client_is_made
    (key : String)
    (refusal : Option String)
    (values : Members String)
    (events : List SourceEvent) :
    let s := (initial key refusal values).run events
    (s.source.raws = .error .notStarted ↔
      ¬ (initial key refusal values).HasStart Completes events ∧
        ¬ (initial key refusal values).HasStart StopsHalfway events) ∧
    ∀ failure, s.start.2 = some failure →
      (∃ text, failure = RuleSource.startFailure text) ∧
        (¬ s.StopsHalfway → s.start.1 = s) ∧
        (s.StopsHalfway → s.start.1 = s.withClient) := by
  intro s
  refine ⟨?_, fun failure => start_of_failure⟩
  have hclosed : (initial key refusal values).store.isOpen = false := rfl
  rw [raws_source_eq_notStarted_iff, ← Bool.not_eq_true, isOpen_run, hclosed]
  simp

/-- A start of a source whose address is refused fails, and the source stays as it was. -/
theorem refused_start_changes_nothing :
    ((initial "gate:rules" (some "no scheme") []).run [.start]).start.2 =
        some (RuleSource.startFailure "no scheme") ∧
      ((initial "gate:rules" (some "no scheme") []).run [.start]).start.1 =
        (initial "gate:rules" (some "no scheme") []).run [.start] ∧
      ((initial "gate:rules" (some "no scheme") []).run [.start]).source.raws =
        .error .notStarted := by
  obtain ⟨hraws, hfails⟩ :=
    not_started_until_client_is_made "gate:rules" (some "no scheme") [] [.start]
  have hnone : ∀ p, (p = Completes ∨ p = StopsHalfway) →
      ¬ (initial "gate:rules" (some "no scheme") []).HasStart p [.start] := by
    intro p hp hstart
    rcases hasStart_cons_iff.mp hstart with ⟨-, hp'⟩ | hlater
    · rcases hp with rfl | rfl
      · cases hp'
      · cases hp'.1
    · exact not_hasStart_nil hlater
  have hstays := (hfails _ rfl).2.1 fun hhalfway => by cases hhalfway.1
  exact ⟨rfl, hstays, hraws.mpr ⟨hnone _ (.inl rfl), hnone _ (.inr rfl)⟩⟩

/-- A source to which the store will bring an error in the place of a sign of life. -/
def goneSource : RemoteSource := (initial "gate:rules" none []).after (.connected (.error "gone") false)

/-- A first start fails and changes the source, and rules are read as if it had completed. -/
theorem halfway_start_is_taken_for_started :
    goneSource.start.2 = some (RuleSource.startFailure "gone") ∧
      goneSource.start.1 ≠ goneSource ∧
      ¬ goneSource.HasStart Completes [.start] ∧
      (goneSource.run [.start]).source.raws = .ok [] := by
  refine ⟨rfl, ?_, ?_, rfl⟩
  · intro h
    cases congrArg (fun s => s.store.isOpen) h
  · rw [hasStart_cons_iff]
    rintro (⟨-, hcompletes⟩ | hlater)
    · cases hcompletes
    · exact not_hasStart_nil hlater

end Runs

end RemoteSource
end Turnstile
