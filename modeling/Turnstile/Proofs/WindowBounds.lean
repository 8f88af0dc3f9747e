import Turnstile.Proofs.EntryFaults
import Turnstile.Proofs.LocalTimes

/-!
# Bounds of windows

A bound is the same moment however it is given.  The text of a moment that a bound gives is a
bound that gives it again, whole seconds are counted exactly from the start of 1970, and a text
without offset is in universal time.

**Windows.**  Whether a rule is active depends on the instants of its bounds only, so that it
makes no difference whether they are given as seconds or as texts.

**Results.**
* `bound_text`: the text of a bound is read back.
* `bound_int`: the moment of a number of seconds.
* `textBound?_append_offset`: a text without offset, with `Z`, and with the offset written out.
* `isActive_congr`: activity depends on the instants of the bounds.
* `window_bounds_are_read_faithfully`: all of these.
-/

namespace Turnstile
namespace Rule

section Texts

variable {m : Moment}

theorem bound_string
    (s : String) :
    bound (.string s) = .ok (textBound? s) :=
  rfl

/-- A text without blanks at its ends that does not end with `Z` is read as it is. -/
theorem textBound?_eq_read?
    {s : String}
    (htrimmed : Text.IsTrimmed s.toList)
    (hlast : s.toList.getLast? ≠ some 'Z') :
    textBound? s = Moment.read? s.toList := by
  rw [textBound?, Text.trimmed_eq_self htrimmed]
  simp only [if_neg hlast]

/-- A moment with a settled offset is read back from its text. -/
theorem textBound?_text
    (h : Moment.IsSettledOffset m.offset) :
    textBound? m.text = some m := by
  have hcodes := Moment.codesWithin_text m
  have hblank : ∀ c ∈ m.text.toList, Text.isBlank c = false := by
    intro c hc
    have hbounds := hcodes c hc
    simp only [Text.isBlank, Text.isBlankCode, Bool.or_eq_false_iff, Bool.and_eq_false_iff,
      decide_eq_false_iff_not, beq_eq_false_iff_ne]
    omega
  have hlast : m.text.toList.getLast? ≠ some 'Z' := by
    intro hlast
    exact absurd (hcodes 'Z' (List.mem_of_getLast? hlast)) (by decide)
  rw [textBound?_eq_read? (Text.isTrimmed_of_forall hblank) hlast, Moment.read?_text h]

/-- The offset of a bound is settled. -/
theorem isSettledOffset_of_bound
    {v : Json}
    (h : bound v = .ok (some m)) :
    Moment.IsSettledOffset m.offset := by
  have hepoch : ∀ {micros}, Moment.ofEpochMicros? micros = some m →
      Moment.IsSettledOffset m.offset :=
    fun hread => .inl (Moment.wall_of_ofWall? hread).2
  cases v with
  | null => cases h
  | bool b => cases h
  | int n =>
      obtain ⟨x, -, hread⟩ := bind_eq_ok_iff.mp h
      exact hepoch (pure_eq_ok_iff.mp hread)
  | float x =>
      obtain ⟨micros, -, hread⟩ := Option.bind_eq_some_iff.mp (Except.ok.inj h)
      exact hepoch hread
  | string | halved | array | object | misnamed =>
      exact Moment.isSettledOffset_of_read? (Except.ok.inj h)

/-- The text of a bound is a bound that gives the same moment. -/
theorem bound_text
    {v : Json}
    (h : bound v = .ok (some m)) :
    bound (.string m.text) = .ok (some m) := by
  rw [bound_string, textBound?_text (isSettledOffset_of_bound h)]

/-- A text without offset gives the same bound with either mark of universal time. -/
theorem textBound?_append_offset
    {s : String}
    (htrimmed : Text.IsTrimmed s.toList)
    (hlocal : Moment.HasLocalTime s.toList)
    (h : textBound? s = some m) :
    textBound? (s ++ "Z") = some m ∧ textBound? (s ++ "+00:00") = some m := by
  rw [textBound?_eq_read? htrimmed hlocal.getLast?_ne] at h
  have hne : s.toList ≠ [] := by
    intro hnil
    rw [hnil] at h
    cases h
  have hoffset := Moment.read?_append_offset hlocal h
  constructor
  · have hchars : (s ++ "Z").toList = s.toList ++ ['Z'] := String.toList_append
    have htrimmed' := htrimmed.append hne (show ['Z'].any Text.isBlank = false by decide)
    rw [textBound?, hchars, Text.trimmed_eq_self htrimmed']
    simp only [List.getLast?_concat, if_true, List.dropLast_concat, hoffset]
  · have hchars : (s ++ "+00:00").toList = s.toList ++ "+00:00".toList := String.toList_append
    have htrimmed' := htrimmed.append hne
      (show "+00:00".toList.any Text.isBlank = false by decide)
    rw [textBound?_eq_read?, hchars, hoffset]
    · rwa [hchars]
    · rw [hchars, List.getLast?_append_of_ne_nil _ (by decide)]
      decide

end Texts

section Seconds

variable {n n' : Int}

/-- A number of seconds from the start of 1970 to a second of the years 1 to 9999. -/
structure IsSecond
    (n : Int) : Prop where
  le : -62135596800 ≤ n
  ge : n ≤ 253402300799

instance (n : Int) : Decidable (IsSecond n) :=
  decidable_of_iff (-62135596800 ≤ n ∧ n ≤ 253402300799)
    ⟨fun h => ⟨h.1, h.2⟩, fun h => ⟨h.le, h.ge⟩⟩

/-- The start of 1970. -/
def epoch : Moment :=
  { Moment.first with wall := 62135596800000000, wall_lt := by decide }

theorem textBound?_epoch :
    textBound? "1970-01-01T00:00:00Z" = some epoch := by
  decide +kernel

/-- Seconds of these years are small enough for a double. -/
theorem bound_int_eq
    (h : IsSecond n) :
    bound (.int n) = .ok (Moment.ofEpochMicros? (n * microsPerSecond)) := by
  have hsmall : Double.overflows n = false := by
    have hlow := h.le
    have hhigh := h.ge
    have hpower : 2 ^ 40 + Nat.pow 2 (Double.limitBits - 54) ≤ Nat.pow 2 Double.limitBits := by
      decide +kernel
    rw [Double.overflows, decide_eq_false_iff_not]
    generalize Nat.pow 2 (Double.limitBits - 54) = spacing at hpower ⊢
    generalize Nat.pow 2 Double.limitBits = limit at hpower ⊢
    omega
  obtain ⟨x, hx⟩ := (exists_toDouble_int_iff n).mpr hsmall
  rw [bound, hx]
  rfl

/-- Seconds are counted exactly. -/
theorem bound_int
    (h : IsSecond n) :
    ∃ m, bound (.int n) = .ok (some m) ∧ m.instant = epoch.instant + n * microsPerSecond := by
  obtain ⟨m, hm⟩ : ∃ m, Moment.ofEpochMicros? (n * microsPerSecond) = some m := by
    have hlow := h.le
    have hhigh := h.ge
    rw [Moment.ofEpochMicros?, Moment.exists_ofWall?_iff (by decide), Moment.epochSeconds,
      microsPerSecond, clockSpan]
    omega
  have hepoch : epoch.instant = Moment.epochSeconds * microsPerSecond := by
    decide
  obtain ⟨hwall, hoffset⟩ := Moment.wall_of_ofWall? hm
  refine ⟨m, by rw [bound_int_eq h, hm], ?_⟩
  rw [Moment.instant, hwall, hoffset, Int.sub_zero, hepoch]

/-- The first and the last second as texts. -/
theorem bound_int_limits :
    bound (.string "0001-01-01T00:00:00Z") = bound (.int (-62135596800)) ∧
      bound (.string "9999-12-31T23:59:59Z") = bound (.int 253402300799) := by
  rw [bound_int_eq (by decide), bound_int_eq (by decide), bound_string, bound_string]
  constructor <;>
    · rw [Except.ok.injEq]
      decide +kernel

/-- Bounds are in the order of their seconds. -/
theorem isBefore_iff_of_bound_int
    {m m' : Moment}
    (hn : IsSecond n)
    (hn' : IsSecond n')
    (h : bound (.int n) = .ok (some m))
    (h' : bound (.int n') = .ok (some m')) :
    m.isBefore m' = true ↔ n < n' := by
  obtain ⟨found, hfound, hinstant⟩ := bound_int hn
  obtain ⟨found', hfound', hinstant'⟩ := bound_int hn'
  cases h.symm.trans hfound
  cases h'.symm.trans hfound'
  rw [Moment.isBefore, decide_eq_true_iff, hinstant, hinstant', microsPerSecond]
  omega

end Seconds

section Activity

variable {now : Moment} {members members' : Members Json}

/-- The instant that a bound gives, if it gives one. -/
def instant?
    (v : Json) : Except Fault (Option Int) :=
  (bound v).map (Option.map Moment.instant)

theorem instant?_of_bound
    {v : Json}
    {m : Moment}
    (h : bound v = .ok (some m)) :
    instant? v = .ok (some m.instant) := by
  rw [instant?, h]
  rfl

/-- Activity depends on the instants of the bounds only. -/
theorem isActive_eq :
    isActive now (.object members) =
      if disables ((Json.object members).member "enabled") then .ok false
      else
        (instant? ((Json.object members).member "start_at")).bind fun start =>
          if start.any fun first => now.instant < first then .ok false
          else
            (instant? ((Json.object members).member "end_at")).bind fun stop =>
              .ok !(stop.any fun last => last < now.instant) := by
  rw [isActive]
  simp only [instant?]
  split
  · rfl
  · cases bound ((Json.object members).member "start_at") with
    | error fault => rfl
    | ok start =>
        cases bound ((Json.object members).member "end_at") with
        | error fault =>
            cases start <;> rfl
        | ok stop =>
            cases start <;> cases stop <;> rfl

/-- Two values give the same bound: they are the same, or whole seconds and a text of them. -/
inductive SameBound : Json → Json → Prop where
  | same (v : Json) : SameBound v v
  | second {n : Int} {s : String} {m : Moment}
      (hn : IsSecond n)
      (hs : textBound? s = some m)
      (hinstant : m.instant = epoch.instant + n * microsPerSecond) :
      SameBound (.int n) (.string s)

theorem SameBound.instant?_eq
    {v v' : Json}
    (h : SameBound v v') :
    instant? v = instant? v' := by
  cases h with
  | same v => rfl
  | second hn hs hinstant =>
      obtain ⟨m, hm, hm'⟩ := bound_int hn
      rw [instant?_of_bound hm, instant?_of_bound ((bound_string _).trans (congrArg _ hs)), hm',
        hinstant]

/-- Windows with the same bounds are active alike. -/
theorem isActive_congr
    (henabled : (Json.object members).member "enabled" = (Json.object members').member "enabled")
    (hstart : SameBound ((Json.object members).member "start_at")
      ((Json.object members').member "start_at"))
    (hend : SameBound ((Json.object members).member "end_at")
      ((Json.object members').member "end_at")) :
    isActive now (.object members) = isActive now (.object members') := by
  rw [isActive_eq, isActive_eq, henabled, hstart.instant?_eq, hend.instant?_eq]

end Activity

section Results

/--
**Window bounds are read faithfully.**  The text of a moment that a bound gives is a bound that
gives it again, with the same offset.  Whole seconds of the years 1 to 9999 are all taken, lie
exactly that far from the start of 1970, and are in the order of their moments.  A trimmed text
with a time of day and without offset gives the same moment with either mark of universal time
written after it.  So a rule is active alike at any time whether its window is given as seconds
or as texts of them.
-/
theorem window_bounds_are_read_faithfully :
    (∀ v m, bound v = .ok (some m) → bound (.string m.text) = .ok (some m)) ∧
    (bound (.string "1970-01-01T00:00:00Z") = .ok (some epoch) ∧
      bound (.string "0001-01-01T00:00:00Z") = bound (.int (-62135596800)) ∧
      bound (.string "9999-12-31T23:59:59Z") = bound (.int 253402300799)) ∧
    (∀ n, IsSecond n →
      ∃ m, bound (.int n) = .ok (some m) ∧ m.instant = epoch.instant + n * microsPerSecond) ∧
    (∀ n n' m m', IsSecond n → IsSecond n' →
      bound (.int n) = .ok (some m) → bound (.int n') = .ok (some m') →
      (m.isBefore m' = true ↔ n < n')) ∧
    (∀ s m, Text.IsTrimmed s.toList → Moment.HasLocalTime s.toList →
      bound (.string s) = .ok (some m) →
      bound (.string (s ++ "Z")) = .ok (some m) ∧
        bound (.string (s ++ "+00:00")) = .ok (some m)) ∧
    ∀ now members members',
      (Json.object members).member "enabled" = (Json.object members').member "enabled" →
      SameBound ((Json.object members).member "start_at")
        ((Json.object members').member "start_at") →
      SameBound ((Json.object members).member "end_at") ((Json.object members').member "end_at") →
      isActive now (.object members) = isActive now (.object members') := by
  refine ⟨fun _ _ => bound_text, ⟨?_, bound_int_limits⟩, fun _ => bound_int,
    fun _ _ _ _ => isBefore_iff_of_bound_int, ?_, fun _ _ _ => isActive_congr⟩
  · rw [bound_string, textBound?_epoch]
  · intro s m htrimmed hlocal h
    obtain ⟨hmark, hoffset⟩ := textBound?_append_offset htrimmed hlocal (Except.ok.inj h)
    rw [bound_string, bound_string, hmark, hoffset]
    exact ⟨rfl, rfl⟩

/-- The second before the start of 1970. -/
def beforeEpoch : Moment :=
  { Moment.first with wall := 62135596799000000, wall_lt := by decide }

/-- The second before 1970 is read alike as a number and as texts, and ends a window alike. -/
theorem second_before_epoch_is_read_alike :
    bound (.string beforeEpoch.text) = .ok (some beforeEpoch) ∧
      (∃ m, bound (.int (-1)) = .ok (some m) ∧ m.instant = epoch.instant + -1 * microsPerSecond) ∧
      bound (.string "1969-12-31 23:59:59Z") = .ok (some beforeEpoch) ∧
      isActive epoch (.object [("end_at", .int (-1))]) =
        isActive epoch (.object [("end_at", .string "1969-12-31 23:59:59")]) := by
  obtain ⟨hback, -, hseconds, -, hmarks, hactive⟩ := window_bounds_are_read_faithfully
  have hread : textBound? "1969-12-31 23:59:59" = some beforeEpoch := by
    decide +kernel
  have hlocal : Moment.HasLocalTime "1969-12-31 23:59:59".toList :=
    ⟨10, by decide, by decide⟩
  have htrimmed : Text.IsTrimmed "1969-12-31 23:59:59".toList := by
    decide
  have hbound : bound (.string "1969-12-31 23:59:59") = .ok (some beforeEpoch) := by
    rw [bound_string, hread]
  refine ⟨hback _ _ hbound, hseconds (-1) (by decide), ?_, ?_⟩
  · exact (hmarks "1969-12-31 23:59:59" beforeEpoch htrimmed hlocal hbound).1
  · exact hactive epoch _ _ rfl (.same .null) (.second (by decide) hread (by decide))

end Results
end Rule
end Turnstile
