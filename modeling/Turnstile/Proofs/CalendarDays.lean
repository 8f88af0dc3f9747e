import Turnstile.Time.Calendar

/-!
# Days and dates

The date of a day number is a date of the calendar, and that day is its number.  Years,
months and days count up with the day numbers: of two days the later one has the later date,
compared by year, then by month, then by day.

**Cycles.**  The cycles of 400, 100, 4 and 1 years, of which the last century and the last
year are a day longer, leave of a day number the day of its year.

**Results.**
* `monthOf_spec`: the month in which a day of a year lies.
* `le_year_ofDay_iff`: the year in which a day lies.
* `toDay?_ofDay`: the day number of the date of a day.
* `ofDay_precedes`: dates are in the order of their days.
-/

namespace Turnstile
namespace Date

section Months

theorem daysOf_cons
    (length : Nat)
    (lengths : List Nat) :
    daysOf (length :: lengths) = length + daysOf lengths := by
  have hfold : ∀ (ls : List Nat) (n : Nat), ls.foldl (· + ·) n = n + ls.foldl (· + ·) 0 := by
    intro ls
    induction ls with
    | nil => simp
    | cons l ls ih =>
        intro n
        rw [List.foldl_cons, List.foldl_cons, ih (n + l), ih (0 + l)]
        omega
  rw [daysOf, List.foldl_cons, hfold lengths (0 + length), Nat.zero_add, daysOf]

/-- A day lies in the month that is reached by counting off the months before it. -/
theorem monthOf_spec
    {lengths : List Nat}
    {day : Nat}
    (hday : day < daysOf lengths)
    (month : Nat) :
    ∃ before,
      monthOf month day lengths =
        (month + before, day - daysOf (lengths.take before) + 1) ∧
      before < lengths.length ∧
      daysOf (lengths.take before) ≤ day ∧
      day < daysOf (lengths.take before) + lengths.getD before 0 := by
  induction lengths generalizing day month with
  | nil =>
      simp [daysOf] at hday
  | cons length rest ih =>
      rw [daysOf_cons] at hday
      rw [monthOf]
      by_cases hfirst : day < length
      · refine ⟨0, ?_, by simp, by simp [daysOf], by simpa [daysOf] using hfirst⟩
        rw [if_pos hfirst]
        simp [daysOf]
      · obtain ⟨before, hmonth, hlength, hlow, hhigh⟩ :=
          @ih (day - length) (by omega) (month + 1)
        refine ⟨before + 1, ?_, by simpa using hlength, ?_, ?_⟩
        · rw [if_neg hfirst, hmonth, List.take_succ_cons, daysOf_cons]
          congr 1
          · omega
          · omega
        · rw [List.take_succ_cons, daysOf_cons]
          omega
        · rw [List.take_succ_cons, daysOf_cons, List.getD_cons_succ]
          omega

/-- The days of a year are those of its months. -/
theorem daysOf_monthLengths
    (year : Nat) :
    daysOf (monthLengths year) = if isLeap year then 366 else 365 := by
  cases h : isLeap year <;> simp [monthLengths, daysOf, h]

/-- The months up to one month have the days of those before it, and its own. -/
theorem daysOf_take_succ
    {lengths : List Nat}
    {before : Nat}
    (hbefore : before < lengths.length) :
    daysOf (lengths.take (before + 1)) = daysOf (lengths.take before) + lengths.getD before 0 := by
  induction lengths generalizing before with
  | nil =>
      simp at hbefore
  | cons length rest ih =>
      cases before with
      | zero => simp [daysOf]
      | succ before =>
          rw [List.take_succ_cons, List.take_succ_cons, daysOf_cons, daysOf_cons,
            List.getD_cons_succ, ih (by simpa using hbefore)]
          omega

theorem daysOf_take_le
    (lengths : List Nat)
    {before before' : Nat}
    (h : before ≤ before') :
    daysOf (lengths.take before) ≤ daysOf (lengths.take before') := by
  induction lengths generalizing before before' with
  | nil => simp
  | cons length rest ih =>
      cases before with
      | zero => simp [daysOf]
      | succ before =>
          obtain ⟨more, rfl⟩ : ∃ more, before' = more + 1 := ⟨before' - 1, by omega⟩
          rw [List.take_succ_cons, List.take_succ_cons, daysOf_cons, daysOf_cons]
          exact Nat.add_le_add_left (ih (by omega)) length

end Months

section Years

variable {day : Nat}

/-- The year of a day number. -/
def yearOfDay
    (day : Nat) : Nat :=
  let centuries := min (day % 146097 / 36524) 3
  let inCentury := day % 146097 - centuries * 36524
  let years := min (inCentury % 1461 / 365) 3
  day / 146097 * 400 + centuries * 100 + inCentury / 1461 * 4 + years + 1

/-- The day of its year of a day number, from 0. -/
def dayOfYear
    (day : Nat) : Nat :=
  let centuries := min (day % 146097 / 36524) 3
  let inCentury := day % 146097 - centuries * 36524
  let years := min (inCentury % 1461 / 365) 3
  inCentury % 1461 - years * 365

theorem isLeap_iff
    (year : Nat) :
    isLeap year = true ↔ year % 4 = 0 ∧ (year % 100 ≠ 0 ∨ year % 400 = 0) := by
  simp [isLeap]

/-- The years before the year of a day, by cycles, and the days in these cycles. -/
structure Cycles
    (day eras centuries fours years : Nat) : Prop where
  year_eq : yearOfDay day = 400 * eras + 100 * centuries + 4 * fours + years + 1
  day_eq : day = 146097 * eras + 36524 * centuries + 1461 * fours + 365 * years + dayOfYear day
  centuries_le : centuries ≤ 3
  fours_le : fours ≤ 24
  years_le : years ≤ 3
  /-- Only the last year of a cycle has a day more, but not that of the last cycle of a century,
  unless the century is the last of its cycle. -/
  dayOfYear_lt : dayOfYear day < 365 ∨
    dayOfYear day = 365 ∧ years = 3 ∧ (fours = 24 → centuries = 3)

theorem exists_cycles
    (day : Nat) :
    ∃ eras centuries fours years, Cycles day eras centuries fours years := by
  refine ⟨day / 146097, min (day % 146097 / 36524) 3,
    (day % 146097 - min (day % 146097 / 36524) 3 * 36524) / 1461,
    min ((day % 146097 - min (day % 146097 / 36524) 3 * 36524) % 1461 / 365) 3, ?_⟩
  constructor
  · simp only [yearOfDay]
    omega
  · simp only [dayOfYear]
    omega
  · omega
  · omega
  · omega
  · simp only [dayOfYear]
    omega

theorem yearOfDay_pos
    (day : Nat) :
    1 ≤ yearOfDay day := by
  rw [yearOfDay]
  omega

/-- A day is counted from the start of its year. -/
theorem daysBeforeYear_add_dayOfYear
    (day : Nat) :
    daysBeforeYear (yearOfDay day) + dayOfYear day = day := by
  obtain ⟨eras, centuries, fours, years, h⟩ := exists_cycles day
  have hyear := h.year_eq
  have hday := h.day_eq
  have hcenturies := h.centuries_le
  have hfours := h.fours_le
  have hyears := h.years_le
  rw [daysBeforeYear]
  omega

/-- A day lies in its year. -/
theorem dayOfYear_lt
    (day : Nat) :
    dayOfYear day < daysOf (monthLengths (yearOfDay day)) := by
  obtain ⟨eras, centuries, fours, years, h⟩ := exists_cycles day
  have hyear := h.year_eq
  have hcenturies := h.centuries_le
  have hfours := h.fours_le
  have hlt := h.dayOfYear_lt
  have hleap := isLeap_iff (yearOfDay day)
  rw [daysOf_monthLengths]
  split
  next => omega
  next hcommon =>
    rw [hleap] at hcommon
    omega

/-- A year is followed by the next after its days. -/
theorem daysBeforeYear_succ
    {year : Nat}
    (hyear : 1 ≤ year) :
    daysBeforeYear (year + 1) = daysBeforeYear year + daysOf (monthLengths year) := by
  obtain ⟨before, rfl⟩ : ∃ before, year = before + 1 := ⟨year - 1, by omega⟩
  have hfours : (before + 1) / 4 = before / 4 + if 4 ∣ before + 1 then 1 else 0 :=
    Nat.succ_div
  have hcenturies : (before + 1) / 100 = before / 100 + if 100 ∣ before + 1 then 1 else 0 :=
    Nat.succ_div
  have heras : (before + 1) / 400 = before / 400 + if 400 ∣ before + 1 then 1 else 0 :=
    Nat.succ_div
  have hfewer : before / 100 ≤ before / 4 := Nat.div_le_div_left (by omega) (by omega)
  have hleap : isLeap (before + 1) = true ↔
      4 ∣ before + 1 ∧ (¬ 100 ∣ before + 1 ∨ 400 ∣ before + 1) := by
    rw [isLeap_iff, Nat.dvd_iff_mod_eq_zero, Nat.dvd_iff_mod_eq_zero, Nat.dvd_iff_mod_eq_zero]
  have hera : 400 ∣ before + 1 → 100 ∣ before + 1 := Nat.dvd_trans (by decide)
  have hcentury : 100 ∣ before + 1 → 4 ∣ before + 1 := Nat.dvd_trans (by decide)
  simp only [daysBeforeYear, Nat.add_sub_cancel, daysOf_monthLengths, hleap, hfours, hcenturies,
    heras]
  clear hfours hcenturies heras hleap
  generalize before / 4 = fours at hfewer ⊢
  generalize before / 100 = centuries at hfewer ⊢
  by_cases hfour : 4 ∣ before + 1
  · by_cases hhundred : 100 ∣ before + 1
    · by_cases hlast : 400 ∣ before + 1
      · simp only [hfour, hhundred, hlast, if_true, not_true, or_true, and_true]
        omega
      · simp only [hfour, hhundred, hlast, if_true, if_false, not_true, or_false, and_false]
        omega
    · simp only [hfour, hhundred, mt hera hhundred, if_true, if_false, not_false_iff, true_or,
        and_true]
      omega
  · simp only [hfour, mt hcentury hfour, mt hera (mt hcentury hfour), if_false, false_and]
    omega

theorem daysBeforeYear_le
    {year year' : Nat}
    (h : year ≤ year') :
    daysBeforeYear year ≤ daysBeforeYear year' := by
  induction h with
  | refl => exact Nat.le_refl _
  | @step later hlater ih =>
      cases later with
      | zero => simpa [daysBeforeYear] using ih
      | succ later =>
          rw [daysBeforeYear_succ (Nat.succ_pos later)]
          exact Nat.le_trans ih (Nat.le_add_right _ _)

/-- The year of a day is the last that starts by then. -/
theorem le_yearOfDay_iff
    {year : Nat} :
    year ≤ yearOfDay day ↔ daysBeforeYear year ≤ day := by
  have hday := daysBeforeYear_add_dayOfYear day
  constructor
  · intro h
    have hle := daysBeforeYear_le h
    omega
  · intro h
    refine Nat.le_of_not_lt fun hlater => ?_
    have hlt := dayOfYear_lt day
    have hnext := daysBeforeYear_succ (yearOfDay_pos day)
    have hle := daysBeforeYear_le (show yearOfDay day + 1 ≤ year from hlater)
    omega

theorem yearOfDay_le_maxYear
    (hday : day < dayCount) :
    yearOfDay day ≤ maxYear := by
  have hcount := daysBeforeYear_add_dayOfYear day
  rw [daysBeforeYear] at hcount
  rw [dayCount] at hday
  rw [maxYear]
  omega

end Years

section Dates

variable {day day' : Nat}

/-- The date of a day: its year, and the month in which the day of the year lies. -/
theorem ofDay_spec
    (day : Nat) :
    ∃ before,
      ofDay day =
        ⟨yearOfDay day, before + 1,
          dayOfYear day - daysOf ((monthLengths (yearOfDay day)).take before) + 1⟩ ∧
      before < 12 ∧
      daysOf ((monthLengths (yearOfDay day)).take before) ≤ dayOfYear day ∧
      dayOfYear day <
        daysOf ((monthLengths (yearOfDay day)).take before) +
          (monthLengths (yearOfDay day)).getD before 0 := by
  obtain ⟨before, hmonth, hlength, hlow, hhigh⟩ := monthOf_spec (dayOfYear_lt day) 1
  refine ⟨before, ?_, hlength, hlow, hhigh⟩
  have hofDay : ofDay day =
      ⟨yearOfDay day, (monthOf 1 (dayOfYear day) (monthLengths (yearOfDay day))).1,
        (monthOf 1 (dayOfYear day) (monthLengths (yearOfDay day))).2⟩ := by
    simp only [ofDay, yearOfDay, dayOfYear]
  rw [hofDay, hmonth, Nat.add_comm 1 before]

/-- The year of the date of a day is the last that starts by then. -/
theorem le_year_ofDay_iff
    {year : Nat} :
    year ≤ (ofDay day).year ↔ daysBeforeYear year ≤ day := by
  obtain ⟨before, hdate, -⟩ := ofDay_spec day
  rw [hdate, le_yearOfDay_iff]

/-- The day number of the date of a day. -/
theorem toDay?_ofDay
    (hday : day < dayCount) :
    toDay? (ofDay day) = some day := by
  obtain ⟨before, hdate, hmonth, hlow, hhigh⟩ := ofDay_spec day
  have hcount := daysBeforeYear_add_dayOfYear day
  have hpos := yearOfDay_pos day
  have hmax := yearOfDay_le_maxYear hday
  have hvalid : (1 ≤ yearOfDay day ∧ yearOfDay day ≤ maxYear ∧ 1 ≤ before + 1 ∧ before + 1 ≤ 12) ∧
      1 ≤ dayOfYear day - daysOf ((monthLengths (yearOfDay day)).take before) + 1 ∧
      dayOfYear day - daysOf ((monthLengths (yearOfDay day)).take before) + 1 ≤
        (monthLengths (yearOfDay day)).getD before 0 := by
    omega
  rw [hdate, toDay?, if_pos (by simpa [and_assoc] using hvalid)]
  simp only [Nat.add_sub_cancel, Option.some.injEq]
  omega

theorem getD_monthLengths_le
    (year before : Nat) :
    (monthLengths year).getD before 0 ≤ 31 := by
  have hall : ∀ length ∈ monthLengths year, length ≤ 31 := by
    cases h : isLeap year <;> simp [monthLengths, h]
  rw [List.getD_eq_getElem?_getD]
  cases hget : (monthLengths year)[before]? with
  | none => simp
  | some length => exact hall length (List.mem_of_getElem? hget)

/-- The year of a day has four digits, the month and the day of the month two. -/
theorem ofDay_bounds
    (hday : day < dayCount) :
    (ofDay day).year ≤ maxYear ∧ (ofDay day).month ≤ 12 ∧ (ofDay day).day ≤ 31 := by
  obtain ⟨before, hdate, hmonth, hlow, hhigh⟩ := ofDay_spec day
  have hmax := yearOfDay_le_maxYear hday
  have hlength := getD_monthLengths_le (yearOfDay day) before
  rw [hdate]
  refine ⟨hmax, ?_, ?_⟩
  · exact hmonth
  · simp only
    omega

/-- A date comes before another: compared by year, then by month, then by day. -/
def Precedes
    (a b : Date) : Prop :=
  a.year < b.year ∨
    a.year = b.year ∧ (a.month < b.month ∨ a.month = b.month ∧ a.day < b.day)

/-- Dates are in the order of their days. -/
theorem ofDay_precedes
    (h : day < day') :
    (ofDay day).Precedes (ofDay day') := by
  obtain ⟨before, hdate, hmonth, hlow, hhigh⟩ := ofDay_spec day
  obtain ⟨before', hdate', hmonth', hlow', hhigh'⟩ := ofDay_spec day'
  have hcount := daysBeforeYear_add_dayOfYear day
  have hcount' := daysBeforeYear_add_dayOfYear day'
  rw [hdate, hdate']
  rcases Nat.lt_trichotomy (yearOfDay day) (yearOfDay day') with hyear | hyear | hyear
  · exact .inl hyear
  · refine .inr ⟨hyear, ?_⟩
    simp only [hyear] at hcount hlow hhigh ⊢
    -- A month before the other ends before the other starts.
    have hle : before ≤ before' := by
      refine Nat.le_of_not_lt fun hlater => ?_
      have hnext := @daysOf_take_succ (monthLengths (yearOfDay day')) before' hmonth'
      have htake := daysOf_take_le (monthLengths (yearOfDay day'))
        (show before' + 1 ≤ before from hlater)
      omega
    rcases Nat.lt_or_eq_of_le hle with hbefore | rfl
    · exact .inl (by omega)
    · exact .inr ⟨rfl, by omega⟩
  · have hlate := mt le_yearOfDay_iff.mpr (Nat.not_le_of_lt hyear)
    omega

end Dates

end Date
end Turnstile
