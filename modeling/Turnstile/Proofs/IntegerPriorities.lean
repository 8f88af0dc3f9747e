import Turnstile.Proofs.EntryFaults
import Turnstile.Proofs.RoundingOrder

/-!
# Integers as priorities

A priority is converted to a double before its integer part is taken, also where it is an
integer already.  So the rules of integer priorities stand in the order of the integers as
far as doubles tell these apart; integers that share their double tie, and then the list
decides.  An integer too large for a double gives no rule as a number, and the default
priority as a text.

**Results.**
* `placeOf_lt_placeOf_iff`: where the rules of two entries of a list stand.
* `decodePriority_of_givesInteger`: the priority that an integer gives.
* `integers_order_rules_as_doubles_do`: the order of two entries with integer priorities.
-/

namespace Turnstile

namespace Numeral

/-- The integer that a numeral without an exponent denotes. -/
def toInt
    (n : Numeral) : Int :=
  if n.negative then -(n.digits : Int) else n.digits

/-- A numeral without an exponent converts as its integer does, but for the sign of zero. -/
theorem truncate?_toDouble
    {n : Numeral}
    (hplain : n.exponent = 0) :
    n.toDouble.truncate? = (Double.ofInt n.toInt).truncate? := by
  obtain ⟨negative, digits, exponent⟩ := n
  obtain rfl : exponent = 0 := hplain
  have hdouble : toDouble ⟨negative, digits, 0⟩ = Double.ofDecimal negative digits 0 := rfl
  rw [hdouble]
  rcases Nat.eq_zero_or_pos digits with rfl | hpos
  · have hzero : Numeral.toInt ⟨negative, 0, 0⟩ = 0 := by
      cases negative <;> rfl
    have hrounded : Double.nearestInt 0 = 0 :=
      Double.nearestInt_of_natAbs_le (by decide)
    rw [hzero, Double.truncate?_ofInt (by decide +kernel), hrounded, Double.ofDecimal,
      if_pos rfl, Double.truncate?_finite, Nat.zero_div]
    cases negative <;> rfl
  · have hsign : decide (Numeral.toInt ⟨negative, digits, 0⟩ < 0) = negative := by
      cases negative with
      | false => exact decide_eq_false (by simp [toInt])
      | true => exact decide_eq_true (by simpa [toInt] using hpos)
    have hsize : (Numeral.toInt ⟨negative, digits, 0⟩).natAbs = digits := by
      cases negative <;> simp [toInt]
    have hone : Double.tenPower (0 : Int).toNat = 1 := rfl
    rw [Double.ofDecimal, if_neg (by omega), if_neg (by decide), if_neg (by omega),
      if_pos le_rfl, hone, Nat.mul_one, Double.ofInt, hsign, hsize]

end Numeral

namespace Rule

section Places

variable {now : Moment} {raws : List Json} {rules : List Rule}

theorem length_ahead
    (p : Int)
    (left right : List Rule) :
    (ahead p left right).length =
      left.countP (fun r => decide (r.priority ≤ p)) +
        right.countP fun r => decide (r.priority < p) := by
  rw [ahead, List.length_append, List.countP_eq_length_filter, List.countP_eq_length_filter]

/-- With a larger bound at least as many priorities are within it. -/
theorem countP_priority_le
    {p q : Int → Prop}
    [DecidablePred p]
    [DecidablePred q]
    (h : ∀ priority, p priority → q priority)
    (rs : List Rule) :
    rs.countP (fun r => decide (p r.priority)) ≤ rs.countP fun r => decide (q r.priority) := by
  apply List.countP_mono_left
  intro r _ hr
  exact decide_eq_true (h r.priority (of_decide_eq_true hr))

/-- The first of two entries comes first unless its rule has the higher priority number. -/
theorem length_ahead_lt_of_le
    {r s : Rule}
    (before between after : List Rule)
    (h : r.priority ≤ s.priority) :
    (ahead r.priority before (between ++ s :: after)).length <
      (ahead s.priority (before ++ r :: between) after).length := by
  have hbefore := countP_priority_le (p := (· ≤ r.priority)) (q := (· ≤ s.priority))
    (fun _ hp => hp.trans h) before
  have hbetween := countP_priority_le (p := (· < r.priority)) (q := (· ≤ s.priority))
    (fun _ hp => (hp.trans_le h).le) between
  have hafter := countP_priority_le (p := (· < r.priority)) (q := (· < s.priority))
    (fun _ hp => hp.trans_le h) after
  rw [length_ahead, length_ahead, List.countP_append, List.countP_append, List.countP_cons,
    List.countP_cons, if_neg (by simpa using h), if_pos (by simpa using h)]
  omega

theorem length_ahead_lt_of_lt
    {r s : Rule}
    (before between after : List Rule)
    (h : s.priority < r.priority) :
    (ahead s.priority (before ++ r :: between) after).length <
      (ahead r.priority before (between ++ s :: after)).length := by
  have hbefore := countP_priority_le (p := (· ≤ s.priority)) (q := (· ≤ r.priority))
    (fun _ hp => hp.trans h.le) before
  have hbetween := countP_priority_le (p := (· ≤ s.priority)) (q := (· < r.priority))
    (fun _ hp => hp.trans_lt h) between
  have hafter := countP_priority_le (p := (· < s.priority)) (q := (· < r.priority))
    (fun _ hp => hp.trans h) after
  rw [length_ahead, length_ahead, List.countP_append, List.countP_append, List.countP_cons,
    List.countP_cons, if_neg (by simpa using h), if_pos (by simpa using h)]
  omega

/-- The place of the rule of the entry at an index: how many rules of the list come before. -/
def placeOf
    (now : Moment)
    (raws : List Json)
    (i : Nat)
    (r : Rule) : Nat :=
  placeBetween now r (raws.take i) (raws.drop (i + 1))

/-- The rule of the entry at an index has its place among the rules of the list. -/
structure StandsAt
    (now : Moment)
    (raws : List Json)
    (rules : List Rule)
    (i : Nat)
    (r : Rule) : Prop where
  given : rules[placeOf now raws i r]? = some r
  others : normalize now (raws.eraseIdx i) = .ok (rules.eraseIdx (placeOf now raws i r))

/-- A list around the entry at an index. -/
theorem eq_take_append_cons_drop
    {raw : Json}
    {i : Nat}
    (hi : raws[i]? = some raw) :
    raws = raws.take i ++ raw :: raws.drop (i + 1) := by
  obtain ⟨hlt, rfl⟩ := List.getElem?_eq_some_iff.mp hi
  rw [← List.drop_eq_getElem_cons hlt, List.take_append_drop]

theorem standsAt_of_activeRule?
    {raw : Json}
    {i : Nat}
    {r : Rule}
    (hnormal : normalize now raws = .ok rules)
    (hi : raws[i]? = some raw)
    (hr : activeRule? now raw = some r) :
    StandsAt now raws rules i r := by
  obtain ⟨hread, rfl⟩ := normalize_eq_ok_iff.mp hnormal
  have hsplit := congrArg (List.filterMap (activeRule? now)) (eq_take_append_cons_drop hi)
  rw [List.filterMap_append, List.filterMap_cons_some hr] at hsplit
  have hinsert := mergeSort_precedes_insert r ((raws.take i).filterMap (activeRule? now))
    ((raws.drop (i + 1)).filterMap (activeRule? now))
  rw [← hsplit] at hinsert
  refine ⟨hinsert.1, normalize_eq_ok_iff.mpr ⟨?_, ?_⟩⟩
  · intro other hother
    exact hread other (List.mem_of_mem_eraseIdx hother)
  · rw [List.eraseIdx_eq_take_drop_succ raws i, List.filterMap_append]
    exact hinsert.2

/-- Where the rules of two entries stand, the first of which comes first in the list. -/
theorem placeOf_lt_placeOf_of_lt
    {raw raw' : Json}
    {i j : Nat}
    {r s : Rule}
    (hi : raws[i]? = some raw)
    (hj : raws[j]? = some raw')
    (hr : activeRule? now raw = some r)
    (hs : activeRule? now raw' = some s)
    (hij : i < j) :
    (r.priority ≤ s.priority → placeOf now raws i r < placeOf now raws j s) ∧
      (s.priority < r.priority → placeOf now raws j s < placeOf now raws i r) := by
  -- Both places are read off one list: what is before, between and after the two entries.
  have hlater : (raws.drop (i + 1))[j - (i + 1)]? = some raw' := by
    rw [List.getElem?_drop, Nat.add_sub_of_le hij, hj]
  have hdrop := eq_take_append_cons_drop hlater
  rw [List.drop_drop, ← Nat.add_assoc, Nat.add_sub_of_le hij] at hdrop
  have htake : raws.take j =
      raws.take i ++ raw :: (raws.drop (i + 1)).take (j - (i + 1)) := by
    have hsplit := congrArg (List.take j) (eq_take_append_cons_drop hi)
    have hlength : (raws.take i).length = i := by
      rw [List.length_take_of_le]
      exact (List.getElem?_eq_some_iff.mp hi).1.le
    rw [hsplit, List.take_append, hlength, List.take_of_length_le (by omega),
      List.take_cons (by omega)]
    congr 3
  generalize (raws.drop (i + 1)).take (j - (i + 1)) = between at hdrop htake
  rw [placeOf, placeOf, placeBetween, placeBetween, htake, hdrop, List.filterMap_append,
    List.filterMap_append, List.filterMap_cons_some hr, List.filterMap_cons_some hs]
  exact ⟨length_ahead_lt_of_le _ _ _, length_ahead_lt_of_lt _ _ _⟩

/-- The rules of two entries stand in the order of their priorities, ties as in the list. -/
theorem placeOf_lt_placeOf_iff
    {raw raw' : Json}
    {i j : Nat}
    {r s : Rule}
    (hi : raws[i]? = some raw)
    (hj : raws[j]? = some raw')
    (hr : activeRule? now raw = some r)
    (hs : activeRule? now raw' = some s) :
    placeOf now raws i r < placeOf now raws j s ↔
      r.priority < s.priority ∨ r.priority = s.priority ∧ i < j := by
  rcases Nat.lt_trichotomy i j with hlt | rfl | hgt
  · have hplaces := placeOf_lt_placeOf_of_lt hi hj hr hs hlt
    rcases lt_or_ge s.priority r.priority with hless | hmore
    · have hplace := hplaces.2 hless
      omega
    · have hplace := hplaces.1 hmore
      omega
  · obtain rfl := Option.some.inj (hi.symm.trans hj)
    obtain rfl := Option.some.inj (hr.symm.trans hs)
    omega
  · have hplaces := placeOf_lt_placeOf_of_lt hj hi hs hr hgt
    rcases lt_or_ge r.priority s.priority with hless | hmore
    · have hplace := hplaces.2 hless
      omega
    · have hplace := hplaces.1 hmore
      omega

end Places

section Integers

/-- A value is an integer, or a text that writes one. -/
inductive GivesInteger : Json → Int → Prop where
  | number (n : Int) :
      GivesInteger (.int n) n
  | text {s : String} {n : Numeral}
      (hread : Numeral.read? s = some n)
      (hplain : n.exponent = 0) :
      GivesInteger (.string s) n.toInt

/-- The priority that an integer gives. -/
def priorityOfInt
    (n : Int) : Int :=
  (Double.ofInt n).truncate?.getD defaultPriority

/-- An integer gives the priority of the integer that it is rounded to. -/
theorem priorityOfInt_of_not_overflows
    {n : Int}
    (h : Double.overflows n = false) :
    priorityOfInt n = Double.nearestInt n := by
  rw [priorityOfInt, Double.truncate?_ofInt h, Option.getD_some]

/-- An integer too large for a double gives the default priority. -/
theorem priorityOfInt_of_overflows
    {n : Int}
    (h : Double.overflows n = true) :
    priorityOfInt n = defaultPriority := by
  obtain ⟨negative, hinfinite⟩ := (Double.ofInt_eq_infinite_iff n).mpr h
  rw [priorityOfInt, hinfinite]
  rfl

theorem decodePriority_of_givesInteger
    {v : Json}
    {n p : Int}
    (hgives : GivesInteger v n)
    (hpriority : decodePriority v = .ok p) :
    p = priorityOfInt n := by
  cases hgives with
  | number n =>
      obtain ⟨x, hx, hp⟩ := bind_eq_ok_iff.mp hpriority
      rw [toDouble] at hx
      rw [priorityOfInt, ← eq_of_withinRange hx]
      exact (pure_eq_ok_iff.mp hp).symm
  | @text s numeral hread hplain =>
      have hnumeric : isNumeric (.string s) = true := by rw [isNumeric, hread]; rfl
      rw [decodePriority, if_pos hnumeric] at hpriority
      obtain ⟨x, hx, hp⟩ := bind_eq_ok_iff.mp hpriority
      have hconverted : x = numeral.toDouble := by
        rw [toDouble_string hread] at hx
        cases hany : s.toList.any Text.isSeparator with
        | true => simp [hany] at hx
        | false => simpa [hany] using hx.symm
      rw [priorityOfInt, ← Numeral.truncate?_toDouble hplain, ← hconverted]
      exact (pure_eq_ok_iff.mp hp).symm

/-- Integers that are not too large give priorities in order, equal ones for equal doubles. -/
theorem priorityOfInt_lt_iff
    {p q : Int}
    (hp : Double.overflows p = false)
    (hq : Double.overflows q = false)
    (hpq : p < q) :
    priorityOfInt p ≤ priorityOfInt q ∧
      (priorityOfInt p < priorityOfInt q ↔ Double.ofInt p ≠ Double.ofInt q) := by
  have hle := Double.nearestInt_le_nearestInt hpq.le
  rw [priorityOfInt_of_not_overflows hp, priorityOfInt_of_not_overflows hq, ne_eq,
    Double.ofInt_eq_ofInt_iff hp hq]
  exact ⟨hle, lt_iff_le_and_ne.trans (and_iff_right hle)⟩

theorem priorityOfInt_of_natAbs_le
    {n : Int}
    (h : n.natAbs ≤ Double.exactLimit) :
    priorityOfInt n = n := by
  rw [priorityOfInt_of_not_overflows (Double.overflows_of_natAbs_le h),
    Double.nearestInt_of_natAbs_le h]

/-- An active entry whose priority is an integer gives a rule, which has its place. -/
theorem exists_rule_of_givesInteger
    {now : Moment}
    {raws : List Json}
    {rules : List Rule}
    {members : Members Json}
    {i : Nat}
    {n : Int}
    (hnormal : normalize now raws = .ok rules)
    (hi : raws[i]? = some (.object members))
    (hactive : isActive now (.object members) = .ok true)
    (hgives : GivesInteger ((Json.object members).member "priority") n) :
    ∃ r,
      decode members = .ok r ∧ activeRule? now (.object members) = some r ∧
        StandsAt now raws rules i r ∧ r.priority = priorityOfInt n := by
  obtain ⟨hread, -⟩ := normalize_eq_ok_iff.mp hnormal
  obtain ⟨active, hactive', hdecoded⟩ :=
    exists_decodeActive_object_iff.mp (hread _ (List.mem_of_getElem? hi))
  obtain rfl := Except.ok.inj (hactive.symm.trans hactive')
  obtain ⟨r, hr⟩ := hdecoded rfl
  have hgiven : activeRule? now (.object members) = some r := by
    rw [activeRule?, foundBy_eq_some_iff, decodeActive_eq_some_iff]
    exact ⟨members, rfl, hactive, hr⟩
  exact ⟨r, hr, hgiven, standsAt_of_activeRule? hnormal hi hgiven,
    decodePriority_of_givesInteger hgives (decode_eq_ok_iff.mp hr).1⟩

/--
**Integers order rules as doubles do.**  Of a list that is read, two active entries whose
priorities are integers give rules that stand in the order of these integers, wherever the
entries stand, unless both integers are rounded to one double: then the list decides.  Up to
a magnitude of `2 ^ 53` this does not happen.  An integer text too large for a double gives
the default priority instead.
-/
theorem integers_order_rules_as_doubles_do
    {now : Moment}
    {raws : List Json}
    {rules : List Rule}
    {members members' : Members Json}
    {i j : Nat}
    {p q : Int}
    (hnormal : normalize now raws = .ok rules)
    (hi : raws[i]? = some (.object members))
    (hj : raws[j]? = some (.object members'))
    (hactive : isActive now (.object members) = .ok true)
    (hactive' : isActive now (.object members') = .ok true)
    (hp : GivesInteger ((Json.object members).member "priority") p)
    (hq : GivesInteger ((Json.object members').member "priority") q)
    (hpq : p < q) :
    ∃ r s,
      decode members = .ok r ∧ StandsAt now raws rules i r ∧
      decode members' = .ok s ∧ StandsAt now raws rules j s ∧
      (placeOf now raws i r < placeOf now raws j s ↔
        r.priority < s.priority ∨ r.priority = s.priority ∧ i < j) ∧
      (Double.overflows p = false → Double.overflows q = false →
        (placeOf now raws i r < placeOf now raws j s ↔
          Double.ofInt p ≠ Double.ofInt q ∨ i < j)) ∧
      (p.natAbs ≤ Double.exactLimit → q.natAbs ≤ Double.exactLimit →
        placeOf now raws i r < placeOf now raws j s) ∧
      (Double.overflows p = true → r.priority = defaultPriority) ∧
      (Double.overflows q = true → s.priority = defaultPriority) := by
  obtain ⟨r, hdecoded, hr, hstands, hpriority⟩ :=
    exists_rule_of_givesInteger hnormal hi hactive hp
  obtain ⟨s, hdecoded', hs, hstands', hpriority'⟩ :=
    exists_rule_of_givesInteger hnormal hj hactive' hq
  have hplaces := placeOf_lt_placeOf_iff hi hj hr hs
  refine ⟨r, s, hdecoded, hstands, hdecoded', hstands', hplaces, ?_, ?_, ?_, ?_⟩
  · intro hfits hfits'
    obtain ⟨hle, hlt⟩ := priorityOfInt_lt_iff hfits hfits' hpq
    rw [hplaces, hpriority, hpriority', ← hlt]
    omega
  · intro hexact hexact'
    rw [hplaces, hpriority, hpriority', priorityOfInt_of_natAbs_le hexact,
      priorityOfInt_of_natAbs_le hexact']
    exact .inl hpq
  · intro hover
    rw [hpriority, priorityOfInt_of_overflows hover]
  · intro hover
    rw [hpriority', priorityOfInt_of_overflows hover]

/-- An entry with an identifier and a priority. -/
def priorityEntry
    (id : String)
    (priority : Json) : Json :=
  .object [("id", .string id), ("priority", priority)]

/-- Two entries, the second of which has the lower priority number, as a text. -/
def swappedEntries : List Json :=
  [priorityEntry "a" (.int 20), priorityEntry "b" (.string "10")]

/-- The lower number comes first, though it stands second and is a text. -/
theorem lower_number_comes_first :
    ∃ rules r s,
      normalize .first swappedEntries = .ok rules ∧
      StandsAt .first swappedEntries rules 1 r ∧ r.id = some "b" ∧
      StandsAt .first swappedEntries rules 0 s ∧ s.id = some "a" ∧
      placeOf .first swappedEntries 1 r < placeOf .first swappedEntries 0 s := by
  have hread : ∀ raw ∈ swappedEntries, ∃ found, decodeActive .first raw = .ok found := by
    intro raw hraw
    have hok : ∀ raw ∈ swappedEntries, (decodeActive .first raw).isOk = true := by
      decide +kernel
    exact exists_of_isOk (hok raw hraw)
  have hnormal := normalize_eq_ok_iff.mpr ⟨hread, rfl⟩
  have hten : Numeral.read? "10" = some ⟨false, 10, 0⟩ := by decide +kernel
  obtain ⟨r, s, hr, hstands, hs, hstands', -, -, hexact, -⟩ :=
    integers_order_rules_as_doubles_do (i := 1) (j := 0) (p := 10) (q := 20) hnormal rfl rfl
      rfl rfl (.text hten rfl) (.number 20) (by decide)
  refine ⟨_, r, s, hnormal, hstands, ?_, hstands', ?_, hexact ?_ ?_⟩
  · exact (decode_eq_ok_iff.mp hr).2.2.2.2.1
  · exact (decode_eq_ok_iff.mp hs).2.2.2.2.1
  · decide
  · decide

/-- The next integer after `2 ^ 53` shares its double, and so the list decides. -/
theorem next_integer_after_exact_limit_ties :
    ∃ rules,
      normalize .first
        [priorityEntry "b" (.int (Double.exactLimit + 1)),
          priorityEntry "a" (.int Double.exactLimit)] = .ok rules ∧
      rules.map (·.id) = [some "b", some "a"] := by
  refine ⟨_, normalize_eq_ok_of_inPriorityOrder ?_ ?_, ?_⟩
  · decide +kernel
  · decide +kernel
  · decide +kernel

end Integers

end Rule
end Turnstile
