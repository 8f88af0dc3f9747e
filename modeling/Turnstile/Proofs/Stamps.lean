import Mathlib.Data.List.Lex
import Turnstile.Proofs.CalendarDays
import Turnstile.Proofs.NumberText
import Turnstile.Proofs.SignedMessage

/-!
# Stamps

A stamp writes a second of universal time, which can be read off it, and from the year 1000 on
stamps are in the order of what they write.

**Reading.**  Numbers with marks after them.  The marks are no digits, so that each number ends
at its mark.

**Order.**  Numbers of one width are in the order of their digits.  All numbers of a stamp but
the year have two digits; the year is not filled up to four, and has four from 1000 on only.

**Results.**
* `numbers?_marked`: numbers between marks are read back.
* `stampSeconds?_stamp`: the second that a stamp writes.
* `marked_lt`: numbers between marks are in the order of their texts.
* `stamp_lt`: later stamps from the year 1000 on are greater texts.
-/

namespace Turnstile

/-- The day on a clock is one of the calendar. -/
theorem Moment.day_lt
    (m : Moment) :
    m.wall / microsPerDay < Date.dayCount :=
  Nat.div_lt_of_lt_mul (by simpa [clockSpan, Date.dayCount, microsPerDay] using m.wall_lt)

namespace SharedAccess

section Reading

/-- The number that decimal digits write. -/
def digits?
    (cs : List Char) : Option Nat :=
  if cs ≠ [] ∧ cs.all Json.isDecimal then some (Json.digitsValue cs) else none

/-- The numbers that marks end. -/
def numbers? : List Char → List Char → Option (List Nat)
  | [], [] => some []
  | [], _ :: _ => none
  | mark :: marks, cs =>
    match Text.cut mark cs with
    | (digits, some rest) => do return (← digits? digits) :: (← numbers? marks rest)
    | (_, none) => none

/-- The marks of a stamp. -/
def stampMarks : List Char := ['-', '-', 'T', ':', ':', 'Z']

/-- The second of universal time, from the start of year 1, that a stamp writes. -/
def stampSeconds?
    (text : String) : Option Nat :=
  match numbers? stampMarks text.toList with
  | some [year, month, day, hour, minute, second] =>
    if hour < 24 ∧ minute < 60 ∧ second < 60 then
      (Date.toDay? ⟨year, month, day⟩).map fun number =>
        number * 86400 + hour * 3600 + minute * 60 + second
    else none
  | _ => none

/-- Numbers, each filled up to a width and with a mark after it. -/
def marked : List (Nat × Char) → List Nat → List Char
  | (width, mark) :: shape, n :: ns =>
    (Moment.padded width n).toList ++ mark :: marked shape ns
  | _, _ => []

theorem toList_padded
    (width n : Nat) :
    (Moment.padded width n).toList =
      List.replicate (width - (Nat.toDigits 10 n).length) '0' ++ Nat.toDigits 10 n := by
  have hdigits : (toString n).toList = Nat.toDigits 10 n := Nat.toList_repr
  rw [Moment.padded, String.toList_append, String.toList_ofList, ← String.length_toList, hdigits]

theorem areDigits_padded
    (width n : Nat) :
    Json.AreDigits (Moment.padded width n).toList := by
  rw [toList_padded]
  exact Json.areDigits_append (Json.areDigits_zeros _) (Json.areDigits_toDigits n)

theorem digitsValue_padded
    (width n : Nat) :
    Json.digitsValue (Moment.padded width n).toList = n := by
  rw [toList_padded, Json.digitsValue_zeros_append, Json.digitsValue_toDigits]

theorem digits?_padded
    (width n : Nat) :
    digits? (Moment.padded width n).toList = some n := by
  have hne : (Moment.padded width n).toList ≠ [] := by
    simp [toList_padded, Nat.toDigits_ne_nil]
  rw [digits?, if_pos ⟨hne, List.all_eq_true.mpr (areDigits_padded width n)⟩, digitsValue_padded]

/-- Numbers between marks are read back. -/
theorem numbers?_marked
    {shape : List (Nat × Char)}
    {ns : List Nat}
    (hlength : shape.length = ns.length)
    (hmarks : ∀ field ∈ shape, Json.isDecimal field.2 = false) :
    numbers? (shape.map Prod.snd) (marked shape ns) = some ns := by
  induction shape generalizing ns with
  | nil =>
      obtain rfl := List.length_eq_zero_iff.mp hlength.symm
      rfl
  | cons field shape ih =>
      obtain ⟨width, mark⟩ := field
      cases ns with
      | nil => cases hlength
      | cons n ns =>
          rw [List.forall_mem_cons] at hmarks
          have hfree : mark ∉ (Moment.padded width n).toList := by
            intro hmem
            rw [areDigits_padded width n mark hmem] at hmarks
            cases hmarks.1
          have hrest := ih (Nat.succ.inj hlength) hmarks.2
          simp [numbers?, marked, Text.cut_append_cons hfree, digits?_padded, hrest]

end Reading

section Stamps

/-- The numbers of a stamp. -/
def stampNumbers
    (m : Moment) : List Nat :=
  [m.date.year, m.date.month, m.date.day, m.clock.1, m.clock.2.1, m.clock.2.2.1]

/-- The marks of a stamp, with the widths up to which the numbers are filled up. -/
def stampShape
    (yearWidth : Nat) : List (Nat × Char) :=
  [(yearWidth, '-'), (2, '-'), (2, 'T'), (2, ':'), (2, ':'), (2, 'Z')]

/-- The year is not filled up. -/
theorem toList_stamp
    (m : Moment) :
    (stamp m).toList = marked (stampShape 0) (stampNumbers m) := by
  have hyear : (Moment.padded 0 m.date.year).toList = Nat.toDigits 10 m.date.year := by
    rw [toList_padded, Nat.zero_sub, List.replicate_zero, List.nil_append]
  simp [stamp, marked, stampShape, stampNumbers, hyear]

/-- The second that a stamp writes. -/
theorem stampSeconds?_stamp
    (m : Moment) :
    stampSeconds? (stamp m) = some (m.wall / microsPerSecond) := by
  have hlength : (stampShape 0).length = (stampNumbers m).length := rfl
  have hmarks : ∀ field ∈ stampShape 0, Json.isDecimal field.2 = false := by decide
  have hnumbers := numbers?_marked hlength hmarks
  rw [← toList_stamp] at hnumbers
  have hdate : Date.toDay? m.date = some (m.wall / microsPerDay) := by
    rw [Moment.date, Date.toDay?_ofDay m.day_lt]
  have hclock : m.clock.1 < 24 ∧ m.clock.2.1 < 60 ∧ m.clock.2.2.1 < 60 ∧
      m.wall / microsPerDay * 86400 + m.clock.1 * 3600 + m.clock.2.1 * 60 + m.clock.2.2.1 =
        m.wall / microsPerSecond := by
    simp only [Moment.clock, Moment.clockParts, microsPerDay, microsPerSecond]
    omega
  rw [stampSeconds?, show stampMarks = (stampShape 0).map Prod.snd from rfl, hnumbers]
  simp only [stampNumbers, hclock, hdate, and_self, if_true, Option.map_some]

end Stamps

section Order

/-- Digits of one length are in the order of their values. -/
theorem digits_lt
    {cs cs' : List Char}
    (hlength : cs.length = cs'.length)
    (hdigits : Json.AreDigits cs)
    (hdigits' : Json.AreDigits cs')
    (h : Json.digitsValue cs < Json.digitsValue cs')
    (rest rest' : List Char) :
    List.Lex (· < ·) (cs ++ rest) (cs' ++ rest') := by
  induction cs generalizing cs' with
  | nil =>
      obtain rfl := List.length_eq_zero_iff.mp hlength.symm
      exact absurd h (Nat.lt_irrefl _)
  | cons c cs ih =>
      cases cs' with
      | nil => cases hlength
      | cons c' cs' =>
          rw [Json.AreDigits, List.forall_mem_cons] at hdigits hdigits'
          have hcs : cs.length = cs'.length := Nat.succ.inj hlength
          rw [Json.digitsValue_cons, Json.digitsValue_cons, hcs] at h
          rcases Nat.lt_trichotomy c.toNat c'.toNat with hc | hc | hc
          · exact .rel hc
          · obtain rfl := Char.toNat_inj.mp hc
            exact .cons (ih hcs hdigits.2 hdigits'.2 (Nat.lt_of_add_lt_add_left h))
          · -- A greater first digit outweighs all that follows it.
            have hpos : 48 ≤ c'.toNat := by
              have hdecimal := hdigits'.1
              rw [Json.isDecimal, Bool.and_eq_true, decide_eq_true_iff] at hdecimal
              exact hdecimal.1
            have hle : 10 ^ cs'.length * (c'.toNat - 48 + 1) ≤
                10 ^ cs'.length * (c.toNat - 48) := Nat.mul_le_mul_left _ (by omega)
            have hlt := Json.digitsValue_lt hdigits'.2
            rw [Nat.mul_succ] at hle
            omega

theorem length_padded
    {width n : Nat}
    (hwidth : 0 < width)
    (h : n < 10 ^ width) :
    (Moment.padded width n).toList.length = width := by
  have hle := (Nat.length_toDigits_le_iff (by omega) hwidth).mpr h
  rw [toList_padded, List.length_append, List.length_replicate]
  omega

/-- Numbers that are filled up to one width are in the order of their texts. -/
theorem padded_lt
    {width n n' : Nat}
    (hfits : n' < 10 ^ width)
    (h : n < n')
    (rest rest' : List Char) :
    List.Lex (· < ·) ((Moment.padded width n).toList ++ rest)
      ((Moment.padded width n').toList ++ rest') := by
  have hwidth : 0 < width := by
    refine Nat.pos_of_ne_zero ?_
    rintro rfl
    omega
  apply digits_lt
  · rw [length_padded hwidth (Nat.lt_trans h hfits), length_padded hwidth hfits]
  · exact areDigits_padded width n
  · exact areDigits_padded width n'
  · rwa [digitsValue_padded, digitsValue_padded]

/-- Numbers between marks are in the order of their texts. -/
theorem marked_lt
    {shape : List (Nat × Char)}
    {ns ns' : List Nat}
    (hlength : shape.length = ns.length)
    (hfits : List.Forall₂ (fun field n => n < 10 ^ field.1) shape ns')
    (h : List.Lex (· < ·) ns ns') :
    List.Lex (· < ·) (marked shape ns) (marked shape ns') := by
  induction hfits generalizing ns with
  | nil => cases h
  | @cons field n' shape ns' hn' hrest ih =>
      cases h with
      | nil => cases hlength
      | rel hlt => exact padded_lt hn' hlt _ _
      | cons hlex =>
          exact List.Lex.append_left _ (.cons (ih (Nat.succ.inj hlength) hlex)) _

/-- A year from 1000 on needs not be filled up. -/
theorem toList_stamp_of_le
    {m : Moment}
    (hyear : 1000 ≤ m.date.year) :
    (stamp m).toList = marked (stampShape 4) (stampNumbers m) := by
  have hlength : 4 ≤ (Nat.toDigits 10 m.date.year).length := by
    refine Nat.lt_of_not_le fun hle => ?_
    have hlt := (Nat.length_toDigits_le_iff (by omega) (by omega)).mp hle
    omega
  have hpadded : (Moment.padded 4 m.date.year).toList = (Moment.padded 0 m.date.year).toList := by
    rw [toList_padded, toList_padded, Nat.sub_eq_zero_of_le hlength, Nat.zero_sub]
  rw [toList_stamp]
  simp only [stampShape, stampNumbers, marked, hpadded]

/-- The numbers of a later second are greater: compared by the first that differs. -/
theorem stampNumbers_lt
    {m m' : Moment}
    (h : m.wall / microsPerSecond < m'.wall / microsPerSecond) :
    List.Lex (· < ·) (stampNumbers m) (stampNumbers m') := by
  rcases Nat.lt_trichotomy (m.wall / microsPerDay) (m'.wall / microsPerDay) with hday | hday | hday
  · obtain hyear | ⟨hyear, hmonth | ⟨hmonth, hdate⟩⟩ := Date.ofDay_precedes hday
    · exact .rel hyear
    · rw [stampNumbers, stampNumbers, show m.date.year = m'.date.year from hyear]
      exact .cons (.rel hmonth)
    · rw [stampNumbers, stampNumbers, show m.date.year = m'.date.year from hyear,
        show m.date.month = m'.date.month from hmonth]
      exact .cons (.cons (.rel hdate))
  · have hdate : m.date = m'.date := congrArg Date.ofDay hday
    have hclock : m.clock.1 < m'.clock.1 ∨ m.clock.1 = m'.clock.1 ∧
        (m.clock.2.1 < m'.clock.2.1 ∨ m.clock.2.1 = m'.clock.2.1 ∧
          m.clock.2.2.1 < m'.clock.2.2.1) := by
      simp only [Moment.clock, Moment.clockParts]
      rw [microsPerDay] at hday ⊢
      rw [microsPerSecond] at h ⊢
      omega
    rw [stampNumbers, stampNumbers, hdate]
    obtain hhour | ⟨hhour, hminute | ⟨hminute, hsecond⟩⟩ := hclock
    · exact .cons (.cons (.cons (.rel hhour)))
    · rw [hhour]
      exact .cons (.cons (.cons (.cons (.rel hminute))))
    · rw [hhour, hminute]
      exact .cons (.cons (.cons (.cons (.cons (.rel hsecond)))))
  · rw [microsPerDay] at hday
    rw [microsPerSecond] at h
    omega

/-- The numbers of a stamp have no more digits than are filled up to. -/
theorem stampNumbers_fit
    (m : Moment) :
    List.Forall₂ (fun field n => n < 10 ^ field.1) (stampShape 4) (stampNumbers m) := by
  obtain ⟨hyear, hmonth, hday⟩ := Date.ofDay_bounds m.day_lt
  have hclock : m.clock.1 < 100 ∧ m.clock.2.1 < 100 ∧ m.clock.2.2.1 < 100 := by
    simp only [Moment.clock, Moment.clockParts, microsPerDay, microsPerSecond]
    omega
  rw [Date.maxYear] at hyear
  refine .cons (Nat.lt_of_le_of_lt hyear (by decide)) <|
    .cons (Nat.lt_of_le_of_lt hmonth (by decide)) <|
    .cons (Nat.lt_of_le_of_lt hday (by decide)) <|
    .cons hclock.1 <| .cons hclock.2.1 <| .cons hclock.2.2 .nil

/-- Later stamps from the year 1000 on are greater texts. -/
theorem stamp_lt
    {m m' : Moment}
    (hyear : 1000 ≤ m.date.year)
    (h : m.wall / microsPerSecond < m'.wall / microsPerSecond) :
    stamp m < stamp m' := by
  have hdays : m.wall / microsPerDay ≤ m'.wall / microsPerDay := by
    rw [microsPerSecond] at h
    rw [microsPerDay]
    omega
  have hyear' : 1000 ≤ m'.date.year :=
    Date.le_year_ofDay_iff.mpr (Nat.le_trans (Date.le_year_ofDay_iff.mp hyear) hdays)
  rw [String.lt_iff, toList_stamp_of_le hyear, toList_stamp_of_le hyear']
  exact marked_lt rfl (stampNumbers_fit m') (stampNumbers_lt h)

/-- A moment and the stamp some seconds after it. -/
theorem stampAfter?_eq_some
    {now : Moment}
    {seconds : Int}
    {text : String}
    (h : stampAfter? now seconds = some text) :
    ∃ utc : Moment, (utc.wall : Int) = now.instant + seconds * microsPerSecond ∧
      text = stamp utc := by
  obtain ⟨shifted, hshifted, hstamp⟩ := Option.bind_eq_some_iff.mp h
  obtain ⟨utc, hutc, htext⟩ := Option.map_eq_some_iff.mp hstamp
  obtain ⟨hwall, hoffset⟩ := Moment.wall_of_ofWall? hshifted
  refine ⟨utc, ?_, htext.symm⟩
  rw [(Moment.wall_of_ofWall? hutc).1, Moment.instant, Moment.instant, hwall, hoffset]
  omega

end Order

end SharedAccess
end Turnstile
