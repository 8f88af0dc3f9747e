import Turnstile.Proofs.Conversion
import Turnstile.Proofs.RuleReading

/-!
# Entries that cannot be read

A malformed member of an entry takes its default, with three exceptions: a bound or a
priority that is an integer too large for a double, a priority that is a numeral among
information separators, and an infinite number of seconds in the condition on the click
mark.  An entry *disturbs* the list it stands in if one of them is reached, and then
nothing of the list is read.  Any other entry adds at most its own rule.

**Results.**
* `exists_decodeActive_iff`: the entries that can be read are those that do not disturb.
* `entry_leaves_others_as_they_are`: a list with and without an entry.
-/

namespace Turnstile
namespace Rule

section Members

/-- A bound is an integer too large for a double. -/
def isOverlargeBound : Json → Bool
  | .int n => Double.overflows n
  | _ => false

theorem exists_bound_iff
    (v : Json) :
    (∃ found, bound v = .ok found) ↔ isOverlargeBound v = false := by
  cases v with
  | int n =>
      rw [isOverlargeBound, ← exists_toDouble_int_iff]
      exact exists_bind_pure_iff
  | _ => simp [bound, isOverlargeBound]

theorem exists_decodePriority_iff
    (v : Json) :
    (∃ priority, decodePriority v = .ok priority) ↔ resistsConversion v = false := by
  unfold decodePriority
  by_cases hnumeric : isNumeric v = true
  · rw [if_pos hnumeric, ← exists_toDouble_iff hnumeric]
    exact exists_bind_pure_iff
  · rw [if_neg hnumeric]
    have hresists : resistsConversion v = false := by
      -- A text that is no numeral is not converted at all, whatever it is made of.
      cases v with
      | int n => exact absurd rfl hnumeric
      | string s =>
          rw [resistsConversion, Bool.and_eq_false_iff]
          exact .inr (Bool.eq_false_iff.mpr hnumeric)
      | _ => rfl
    exact iff_of_true ⟨_, rfl⟩ hresists

/-- An infinite number. -/
def isInfinite : Json → Bool
  | .float (.infinite _) => true
  | _ => false

theorem exists_decodeSeconds_iff
    (v : Json) :
    (∃ seconds, decodeSeconds v = .ok seconds) ↔ isInfinite v = false := by
  cases v with
  | float x => cases x <;> simp [decodeSeconds, isInfinite]
  | _ => simp [decodeSeconds, isInfinite]

/-- A condition that cannot be read: on the click mark, with an infinite number of seconds. -/
def isUnreadable
    (condition : String × Json) : Bool :=
  condition.1 == clickCondition && isInfinite (condition.2.unnamed.member "seconds")

theorem exists_decodeCondition_iff
    (key : String)
    (v : Json) :
    (∃ e, decodeCondition key v.unnamed = .ok e) ↔ isUnreadable (key, v) = false := by
  unfold decodeCondition isUnreadable
  generalize v.unnamed = v
  by_cases hparameters : parameterConditions.contains key = true
  · have hkey : (key == clickCondition) = false := by
      rw [beq_eq_false_iff_ne]
      rintro rfl
      exact absurd hparameters (by decide)
    rw [if_pos hparameters, hkey, Bool.false_and]
    cases v <;> simp
  rw [if_neg hparameters]
  by_cases hclick : key = clickCondition
  · rw [if_pos hclick, beq_iff_eq.mpr hclick, Bool.true_and, ← exists_decodeSeconds_iff]
    cases v with
    | object members => exact exists_bind_pure_iff
    | _ => exact iff_of_true ⟨_, rfl⟩ ⟨none, rfl⟩
  · rw [if_neg hclick, beq_eq_false_iff_ne.mpr hclick, Bool.false_and]
    exact iff_of_true ⟨_, rfl⟩ rfl

/-- Some condition cannot be read. -/
def areUnreadable : Json → Bool
  | .object members => members.any isUnreadable
  | _ => false

theorem exists_decodeConditions_iff
    (v : Json) :
    (∃ conditions, decodeConditions v = .ok conditions) ↔ areUnreadable v = false := by
  cases v with
  | object members =>
      simp only [decodeConditions, areUnreadable, exists_mapM_iff, List.any_eq_false,
        Bool.not_eq_true]
      apply forall₂_congr
      rintro ⟨key, value⟩ _
      rw [← exists_decodeCondition_iff]
      exact exists_bind_pure_iff
  | _ => simp [decodeConditions, areUnreadable]

end Members

section Entries

/-- An entry that cannot be read at a time. -/
inductive Disturbs
    (now : Moment) : Json → Prop where
  /-- The start of its window is too large a number. -/
  | start {members : Members Json}
      (henabled : disables ((Json.object members).member "enabled") = false)
      (hstart : isOverlargeBound ((Json.object members).member "start_at") = true) :
      Disturbs now (.object members)
  /-- It has started, and the end of its window is too large a number. -/
  | stop {members : Members Json} {start : Option Moment}
      (henabled : disables ((Json.object members).member "enabled") = false)
      (hstart : bound ((Json.object members).member "start_at") = .ok start)
      (hstarted : (start.any fun start => now.isBefore start) = false)
      (hstop : isOverlargeBound ((Json.object members).member "end_at") = true) :
      Disturbs now (.object members)
  /-- It is active, and its priority does not convert. -/
  | priority {members : Members Json}
      (hactive : isActive now (.object members) = .ok true)
      (hpriority : resistsConversion ((Json.object members).member "priority") = true) :
      Disturbs now (.object members)
  /-- It is active, and its conditions have an infinite number of seconds. -/
  | conditions {members : Members Json}
      (hactive : isActive now (.object members) = .ok true)
      (hconditions : areUnreadable ((Json.object members).member "conditions") = true) :
      Disturbs now (.object members)

theorem exists_decode_iff
    (members : Members Json) :
    (∃ r, decode members = .ok r) ↔
      resistsConversion ((Json.object members).member "priority") = false ∧
      isOverlargeBound ((Json.object members).member "start_at") = false ∧
      isOverlargeBound ((Json.object members).member "end_at") = false ∧
      areUnreadable ((Json.object members).member "conditions") = false := by
  simp only [← exists_decodePriority_iff, ← exists_bound_iff, ← exists_decodeConditions_iff,
    decode, bind_eq_ok_iff, pure_eq_ok_iff]
  constructor
  · rintro ⟨r, priority, hp, startAt, hs, endAt, he, conditions, hc, -⟩
    exact ⟨⟨priority, hp⟩, ⟨startAt, hs⟩, ⟨endAt, he⟩, conditions, hc⟩
  · rintro ⟨⟨priority, hp⟩, ⟨startAt, hs⟩, ⟨endAt, he⟩, conditions, hc⟩
    exact ⟨_, priority, hp, startAt, hs, endAt, he, conditions, hc, rfl⟩

theorem isActive_eq_ok_iff
    {now : Moment}
    {members : Members Json}
    {active : Bool} :
    isActive now (.object members) = .ok active ↔
      disables ((Json.object members).member "enabled") = true ∧ active = false ∨
      disables ((Json.object members).member "enabled") = false ∧
        ∃ start, bound ((Json.object members).member "start_at") = .ok start ∧
          ((start.any fun start => now.isBefore start) = true ∧ active = false ∨
            (start.any fun start => now.isBefore start) = false ∧
              ∃ stop, bound ((Json.object members).member "end_at") = .ok stop ∧
                active = !(stop.any fun stop => stop.isBefore now)) := by
  cases henabled : disables ((Json.object members).member "enabled") with
  | true =>
      simp only [isActive, henabled, if_true, pure_eq_ok_iff, true_and, Bool.true_eq_false,
        false_and, or_false]
      exact eq_comm
  | false =>
      simp only [isActive, henabled, Bool.false_eq_true, if_false, bind_eq_ok_iff, false_and,
        true_and, false_or]
      refine exists_congr fun start => and_congr_right fun _ => ?_
      cases hstarted : start.any fun start => now.isBefore start with
      | true =>
          simp only [if_true, pure_eq_ok_iff, true_and, Bool.true_eq_false, false_and, or_false]
          exact eq_comm
      | false =>
          simp only [Bool.false_eq_true, if_false, bind_eq_ok_iff, pure_eq_ok_iff, false_and,
            true_and, false_or]
          exact exists_congr fun stop => and_congr_right fun _ => eq_comm

/-- An object can be read iff it can be told whether it is active, and if so its rule read. -/
theorem exists_decodeActive_object_iff
    {now : Moment}
    {members : Members Json} :
    (∃ found, decodeActive now (.object members) = .ok found) ↔
      ∃ active, isActive now (.object members) = .ok active ∧
        (active = true → ∃ r, decode members = .ok r) := by
  simp only [decodeActive, bind_eq_ok_iff]
  rw [exists_comm]
  apply exists_congr
  intro active
  cases active with
  | true => simp only [if_true, exists_and_left, exists_bind_pure_iff, true_imp_iff]
  | false => simp [pure, Except.pure]

theorem bounds_of_isActive
    {now : Moment}
    {members : Members Json}
    (h : isActive now (.object members) = .ok true) :
    isOverlargeBound ((Json.object members).member "start_at") = false ∧
      isOverlargeBound ((Json.object members).member "end_at") = false := by
  rcases isActive_eq_ok_iff.mp h with ⟨-, hfalse⟩ | ⟨-, start, hstart, hcases⟩
  · cases hfalse
  rcases hcases with ⟨-, hfalse⟩ | ⟨-, stop, hstop, -⟩
  · cases hfalse
  · exact ⟨(exists_bound_iff _).mp ⟨start, hstart⟩, (exists_bound_iff _).mp ⟨stop, hstop⟩⟩

/-- It can be told whether an entry is active unless a bound of its window disturbs. -/
theorem exists_isActive
    {now : Moment}
    {members : Members Json}
    (h : ¬ Disturbs now (.object members)) :
    ∃ active, isActive now (.object members) = .ok active := by
  simp only [isActive_eq_ok_iff]
  cases henabled : disables ((Json.object members).member "enabled") with
  | true =>
      exact ⟨false, .inl ⟨rfl, rfl⟩⟩
  | false =>
      have hstart : isOverlargeBound ((Json.object members).member "start_at") = false := by
        rw [← Bool.not_eq_true]
        exact fun hover => h (.start henabled hover)
      obtain ⟨start, hstart⟩ := (exists_bound_iff _).mpr hstart
      cases hstarted : start.any fun start => now.isBefore start with
      | true =>
          exact ⟨false, .inr ⟨rfl, start, hstart, .inl ⟨hstarted, rfl⟩⟩⟩
      | false =>
          have hstop : isOverlargeBound ((Json.object members).member "end_at") = false := by
            rw [← Bool.not_eq_true]
            exact fun hover => h (.stop henabled hstart hstarted hover)
          obtain ⟨stop, hstop⟩ := (exists_bound_iff _).mpr hstop
          exact ⟨_, .inr ⟨rfl, start, hstart, .inr ⟨hstarted, stop, hstop, rfl⟩⟩⟩

theorem not_disturbs_of_decode
    {now : Moment}
    {members : Members Json}
    {active : Bool}
    (hactive : isActive now (.object members) = .ok active)
    (hdecoded : active = true → ∃ r, decode members = .ok r) :
    ¬ Disturbs now (.object members) := by
  intro hdisturbs
  -- A bound that disturbs is read before the activity is told; the rest is read after it.
  cases hdisturbs with
  | start henabled hover =>
      rcases isActive_eq_ok_iff.mp hactive with ⟨hdisabled, -⟩ | ⟨-, start, hstart, -⟩
      · simp [henabled] at hdisabled
      · simp [(exists_bound_iff _).mp ⟨start, hstart⟩] at hover
  | stop henabled hstart hstarted hover =>
      rcases isActive_eq_ok_iff.mp hactive with ⟨hdisabled, -⟩ | ⟨-, start, hstart', hcases⟩
      · simp [henabled] at hdisabled
      obtain rfl := Except.ok.inj (hstart.symm.trans hstart')
      rcases hcases with ⟨hnot, -⟩ | ⟨-, stop, hstop, -⟩
      · simp [hstarted] at hnot
      · simp [(exists_bound_iff _).mp ⟨stop, hstop⟩] at hover
  | priority hactive' hresists =>
      obtain rfl := Except.ok.inj (hactive.symm.trans hactive')
      have hreadable := ((exists_decode_iff members).mp (hdecoded rfl)).1
      simp [hreadable] at hresists
  | conditions hactive' hunreadable =>
      obtain rfl := Except.ok.inj (hactive.symm.trans hactive')
      have hreadable := ((exists_decode_iff members).mp (hdecoded rfl)).2.2.2
      simp [hreadable] at hunreadable

/-- The entries that can be read are those that do not disturb. -/
theorem exists_decodeActive_iff
    {now : Moment}
    {raw : Json} :
    (∃ found, decodeActive now raw = .ok found) ↔ ¬ Disturbs now raw := by
  cases raw with
  | object members =>
      rw [exists_decodeActive_object_iff]
      constructor
      · rintro ⟨active, hactive, hdecoded⟩
        exact not_disturbs_of_decode hactive hdecoded
      · intro h
        obtain ⟨active, hactive⟩ := exists_isActive h
        refine ⟨active, hactive, ?_⟩
        rintro rfl
        -- An active entry has both of its bounds read already.
        obtain ⟨hstart, hstop⟩ := bounds_of_isActive hactive
        refine (exists_decode_iff members).mpr ⟨?_, hstart, hstop, ?_⟩
        · rw [← Bool.not_eq_true]
          exact fun hresists => h (.priority hactive hresists)
        · rw [← Bool.not_eq_true]
          exact fun hunreadable => h (.conditions hactive hunreadable)
  | _ => exact iff_of_true ⟨none, rfl⟩ nofun

theorem exists_normalize_iff
    {now : Moment}
    {raws : List Json} :
    (∃ rules, normalize now raws = .ok rules) ↔ ∀ raw ∈ raws, ¬ Disturbs now raw := by
  simp only [← exists_decodeActive_iff, normalize_eq_ok_iff, exists_and_left, exists_eq,
    and_true]

/-- An entry that can be read gives no rule iff it is not active. -/
theorem activeRule?_eq_none_iff
    {now : Moment}
    {raw : Json}
    (h : ¬ Disturbs now raw) :
    activeRule? now raw = none ↔ isActive now raw = .ok false := by
  obtain ⟨found, hfound⟩ := exists_decodeActive_iff.mpr h
  rw [← decodeActive_eq_none_iff, activeRule?, hfound, foundBy_ok, Except.ok.injEq]

end Entries

section Lists

/-- The place of the rule of an entry between two lists: how many rules come before it. -/
def placeBetween
    (now : Moment)
    (r : Rule)
    (xs ys : List Json) : Nat :=
  (ahead r.priority (xs.filterMap (activeRule? now)) (ys.filterMap (activeRule? now))).length

/-- A rule between two lists takes its place in their order. -/
theorem mergeSort_precedes_insert
    (r : Rule)
    (left right : List Rule) :
    ((left ++ r :: right).mergeSort precedes)[(ahead r.priority left right).length]? = some r ∧
      ((left ++ r :: right).mergeSort precedes).eraseIdx (ahead r.priority left right).length =
        (left ++ right).mergeSort precedes := by
  have hwith := mergeSort_precedes_between (p := r.priority) left [r] right (by simp)
  have hwithout := mergeSort_precedes_between (p := r.priority) left [] right nofun
  have hlength : (ahead r.priority left right).length =
      ((ahead r.priority left right).mergeSort precedes).length :=
    (List.length_mergeSort _).symm
  rw [List.append_assoc, List.singleton_append, List.append_assoc, List.singleton_append] at hwith
  rw [List.append_nil, List.append_nil] at hwithout
  rw [hwith, hwithout, hlength]
  constructor
  · rw [List.getElem?_append_right (Nat.le_refl _), Nat.sub_self]
    rfl
  · rw [List.eraseIdx_append_of_length_le (Nat.le_refl _), Nat.sub_self]
    rfl

/--
**An entry leaves the others as they are.**  A list is read iff no entry of it disturbs,
and of the entries that do not disturb only inactive ones give no rule.  In a list that is
read, an entry adds its own rule in its place, or nothing: without it the list comes to the
same rules in the same order.
-/
theorem entry_leaves_others_as_they_are
    (now : Moment)
    (xs ys : List Json)
    (e : Json) :
    (∀ raws, (∃ rules, normalize now raws = .ok rules) ↔ ∀ raw ∈ raws, ¬ Disturbs now raw) ∧
    (∀ raw, ¬ Disturbs now raw →
      (activeRule? now raw = none ↔ isActive now raw = .ok false)) ∧
    ∀ rules, normalize now (xs ++ e :: ys) = .ok rules →
      ∃ rest, normalize now (xs ++ ys) = .ok rest ∧
        match activeRule? now e with
        | none => rules = rest
        | some r =>
          rules[placeBetween now r xs ys]? = some r ∧
            rules.eraseIdx (placeBetween now r xs ys) = rest := by
  refine ⟨fun raws => exists_normalize_iff, fun raw => activeRule?_eq_none_iff, ?_⟩
  intro rules hrules
  obtain ⟨hread, rfl⟩ := normalize_eq_ok_iff.mp hrules
  have hrest : ∀ raw ∈ xs ++ ys, ∃ found, decodeActive now raw = .ok found := by
    intro raw hraw
    apply hread
    simp only [List.mem_append, List.mem_cons] at hraw ⊢
    tauto
  refine ⟨_, normalize_eq_ok_iff.mpr ⟨hrest, rfl⟩, ?_⟩
  simp only [List.filterMap_append, List.filterMap_cons]
  cases activeRule? now e with
  | none => rfl
  | some r => exact mergeSort_precedes_insert r _ _

/-- An entry with an identifier and nothing else. -/
def plainEntry
    (id : String) : Json :=
  .object [("id", .string id)]

/-- An entry whose members are malformed. -/
def malformedEntry : Json :=
  .object
    [("id", .array []), ("enabled", .int 1), ("priority", .string "high"),
      ("start_at", .string "soon"), ("end_at", .float (.infinite true)),
      ("conditions", .string ""), ("criteria", .bool true), ("action", .null)]

/-- The rule of a malformed entry goes between those of its neighbours, which it leaves alone. -/
theorem malformed_entry_leaves_neighbours :
    ∃ rules rest,
      normalize .first ([plainEntry "a"] ++ malformedEntry :: [plainEntry "b"]) = .ok rules ∧
      normalize .first ([plainEntry "a"] ++ [plainEntry "b"]) = .ok rest ∧
      (rules[1]?).isSome ∧ rules.eraseIdx 1 = rest := by
  have hreadable : ∀ raw ∈ [plainEntry "a"] ++ malformedEntry :: [plainEntry "b"],
      ¬ Disturbs .first raw := by
    simp only [List.cons_append, List.nil_append, List.forall_mem_cons, ← exists_decodeActive_iff]
    exact ⟨⟨_, rfl⟩, ⟨_, rfl⟩, ⟨_, rfl⟩, nofun⟩
  obtain ⟨rules, hrules⟩ := exists_normalize_iff.mpr hreadable
  obtain ⟨rest, hrest, hplaced⟩ :=
    (entry_leaves_others_as_they_are .first [plainEntry "a"] [plainEntry "b"]
      malformedEntry).2.2 rules hrules
  refine ⟨rules, rest, hrules, hrest, ?_⟩
  cases hr : activeRule? .first malformedEntry with
  | none =>
      cases hr
  | some r =>
      rw [hr] at hplaced
      have hplace : placeBetween .first r [plainEntry "a"] [plainEntry "b"] = 1 := by
        obtain rfl := Option.some.inj hr
        rfl
      simp only [hplace] at hplaced
      exact ⟨Option.isSome_of_eq_some hplaced.1, hplaced.2⟩

/-- An entry whose window starts at a number of four hundred digits. -/
def overlargeEntry : Json :=
  .object [("id", .string "a"), ("start_at", .int (10 ^ 400))]

/-- An integer too large for a double as a bound takes the neighbouring rules down. -/
theorem overlarge_bound_takes_neighbour_down :
    (∃ rules, normalize .first [plainEntry "b"] = .ok rules ∧ rules.length = 1) ∧
      ¬ ∃ rules, normalize .first [overlargeEntry, plainEntry "b"] = .ok rules := by
  constructor
  · exact ⟨_, rfl, List.length_mergeSort _⟩
  · rw [exists_normalize_iff]
    intro hreadable
    have hover : Double.overflows (10 ^ 400) = true := by decide +kernel
    exact hreadable overlargeEntry List.mem_cons_self (.start rfl hover)

end Lists

end Rule
end Turnstile
