import Turnstile.Proofs.Stamps

/-!
# Moments that are read back

The text of a moment is read as that moment, if its offset is none or at least a second.  The
offsets of the moments that are read are of this kind, for a reader takes an offset below a
second for none.

**Layout.**  A date, a separator, a time, a fraction if there is one, and an offset in the form
of a time.  Each number is filled up to its width, so that the readers stop where it ends.

**Results.**
* `readDate_dateChars_append`: the day of a date is read back.
* `readTimeParts_timeChars_append`: the parts of a time are read back.
* `readOffset_offsetText`: an offset is read back.
* `read?_text`: a moment is read back.
* `isSettledOffset_of_read?`: the offsets of the moments that are read.
-/

namespace Turnstile
namespace Moment

open SharedAccess (areDigits_padded digitsValue_padded length_padded)

section Numbers

variable {width n : Nat}

/-- A number that is filled up to its width is read up to its end. -/
theorem readDigits_padded_append
    (hwidth : 0 < width)
    (h : n < 10 ^ width)
    (rest : List Char) :
    readDigits width ((padded width n).toList ++ rest) = some (n, rest) := by
  have hlength := length_padded hwidth h
  have hdigits : (padded width n).toList.all Json.isDecimal = true :=
    List.all_eq_true.mpr (areDigits_padded width n)
  rw [readDigits]
  simp only [List.take_left' hlength, List.drop_left' hlength]
  rw [if_pos (by simp [hlength, hdigits]), digitsValue_padded]

theorem length_padded_two
    (h : n < 100) :
    (padded 2 n).toList.length = 2 :=
  length_padded (by omega) h

theorem readDigits_two_append
    (h : n < 100)
    (rest : List Char) :
    readDigits 2 ((padded 2 n).toList ++ rest) = some (n, rest) :=
  readDigits_padded_append (by omega) h rest

/-- A number of two digits starts with a digit. -/
theorem exists_padded_two_eq_cons
    (h : n < 100) :
    ∃ digit more, (padded 2 n).toList = digit :: more ∧ Json.isDecimal digit = true := by
  have hlength := length_padded_two h
  cases hchars : (padded 2 n).toList with
  | nil =>
      rw [hchars] at hlength
      cases hlength
  | cons digit more =>
      refine ⟨digit, more, rfl, areDigits_padded 2 n digit ?_⟩
      rw [hchars]
      exact List.mem_cons_self

end Numbers

section Dates

/-- The characters of a date. -/
def dateChars
    (date : Date) : List Char :=
  (padded 4 date.year).toList ++ '-' ::
    ((padded 2 date.month).toList ++ '-' :: (padded 2 date.day).toList)

/-- The parts of a date have no more digits than are filled up to. -/
structure Fits
    (date : Date) : Prop where
  year_lt : date.year < 10000
  month_lt : date.month < 100
  day_lt : date.day < 100

theorem fits_date
    (m : Moment) :
    Fits m.date := by
  obtain ⟨hyear, hmonth, hday⟩ := Date.ofDay_bounds m.day_lt
  rw [Date.maxYear] at hyear
  rw [date]
  exact ⟨by omega, by omega, by omega⟩

variable {date : Date}

theorem Fits.length_year
    (h : Fits date) :
    (padded 4 date.year).toList.length = 4 :=
  length_padded (by omega) h.year_lt

theorem length_dateChars
    (h : Fits date) :
    (dateChars date).length = 10 := by
  simp [dateChars, h.length_year, length_padded_two h.month_lt, length_padded_two h.day_lt]

/-- The reader finds where the date ends. -/
theorem dateLength_dateChars_append
    (h : Fits date)
    (rest : List Char) :
    dateLength (dateChars date ++ rest) = some 10 := by
  have hlength : (dateChars date ++ rest).length ≠ 7 := by
    rw [List.length_append, length_dateChars h]
    omega
  obtain ⟨digit, more, hmonth, hdigit⟩ := exists_padded_two_eq_cons h.month_lt
  have hchars : dateChars date ++ rest =
      (padded 4 date.year).toList ++ '-' :: digit ::
        (more ++ '-' :: (padded 2 date.day).toList ++ rest) := by
    simp [dateChars, hmonth]
  have hyear := h.length_year
  have hdash : (dateChars date ++ rest)[4]? = some '-' := by
    rw [hchars, List.getElem?_append_right (by omega), hyear]
    rfl
  have hweek : (dateChars date ++ rest)[5]? ≠ some 'W' := by
    rw [hchars, List.getElem?_append_right (by omega), hyear]
    rintro ⟨⟩
    cases hdigit
  rw [dateLength, if_neg hlength, if_pos hdash, if_neg hweek]

/-- The day of a date is read back. -/
theorem readDate_dateChars_append
    (h : Fits date)
    (rest : List Char) :
    readDate 10 (dateChars date ++ rest) = Date.toDay? date := by
  obtain ⟨digit, more, hmonth, hdigit⟩ := exists_padded_two_eq_cons h.month_lt
  have hweek : ((padded 2 date.month).toList ++
      '-' :: ((padded 2 date.day).toList ++ rest)).head? ≠ some 'W' := by
    rw [hmonth]
    rintro ⟨⟩
    cases hdigit
  have hchars : dateChars date ++ rest =
      (padded 4 date.year).toList ++ '-' ::
        ((padded 2 date.month).toList ++ '-' :: ((padded 2 date.day).toList ++ rest)) := by
    simp [dateChars]
  rw [readDate, hchars, readDigits_padded_append (by omega) h.year_lt]
  simp only [Option.bind_eq_bind, Option.bind_some, List.head?_cons, if_true, List.drop_one,
    List.tail_cons, if_neg hweek, readDigits_two_append h.month_lt,
    readDigits_two_append h.day_lt, skipDash, decide_true]

end Dates

section Times

variable {parts : List Nat} {left room n : Nat} {rest : List Char}

/-- A part that a colon follows: colons separate the parts. -/
theorem readTimeParts_colon
    (separated : Option Bool)
    (hseparated : separated ≠ some false)
    (h : n < 100)
    (hroom : 3 < room) :
    readTimeParts separated parts (left + 1) room ((padded 2 n).toList ++ ':' :: rest) =
      readTimeParts (some true) (parts ++ [n]) left (room - 3) rest := by
  have hcolons : separated.getD true = true := by
    cases separated with
    | none => rfl
    | some flag =>
        cases flag with
        | true => rfl
        | false => exact absurd rfl hseparated
  rw [readTimeParts, readDigits_two_append h]
  simp [hcolons, Nat.not_le_of_lt hroom]

/-- The last part. -/
theorem readTimeParts_last
    (separated : Option Bool)
    (h : n < 100)
    (hroom : room ≤ 3) :
    readTimeParts separated parts (left + 1) room ((padded 2 n).toList ++ rest) =
      some ⟨parts ++ [n], 0, rest.headD endMark != endMark⟩ := by
  rw [readTimeParts, readDigits_two_append h]
  simp [hroom]

/-- The last part before a fraction. -/
theorem readTimeParts_point
    (separated : Option Bool)
    (h : n < 100)
    (hroom : 3 < room) :
    readTimeParts separated parts (left + 1) room ((padded 2 n).toList ++ '.' :: rest) =
      readFraction (parts ++ [n]) (room - 3) rest := by
  rw [readTimeParts, readDigits_two_append h]
  simp [Nat.not_le_of_lt hroom]

/-- A fraction of six digits. -/
theorem readFraction_padded_append
    (h : n < microsPerSecond)
    (hrest : Text.StartsNo Json.isDecimal rest) :
    readFraction parts 6 ((padded 6 n).toList ++ rest) =
      some ⟨parts, n, rest.headD endMark != endMark⟩ := by
  have hrest' : rest.dropWhile Json.isDecimal = rest :=
    Text.dropWhile_append_of_startsNo (List.forall_mem_nil _) hrest
  rw [readFraction, Nat.min_self, readDigits_padded_append (by omega) h]
  simp [hrest', Double.tenPower]

/-- The characters of a time. -/
def timeChars
    (hour minute second micros : Nat) : List Char :=
  (padded 2 hour).toList ++ ':' :: ((padded 2 minute).toList ++
    ':' :: ((padded 2 second).toList ++ (fractionText micros).toList))

/-- The parts of a time are in range. -/
structure IsTimeOfDay
    (hour minute second micros : Nat) : Prop where
  hour_lt : hour < 24
  minute_lt : minute < 60
  second_lt : second < 60
  micros_lt : micros < microsPerSecond

variable {hour minute second micros : Nat}

theorem IsTimeOfDay.two_digits
    (h : IsTimeOfDay hour minute second micros) :
    hour < 100 ∧ minute < 100 ∧ second < 100 := by
  have hhour := h.hour_lt
  have hminute := h.minute_lt
  have hsecond := h.second_lt
  omega

theorem length_timeChars
    (h : IsTimeOfDay hour minute second micros) :
    (timeChars hour minute second micros).length = if micros = 0 then 8 else 15 := by
  obtain ⟨hhour, hminute, hsecond⟩ := h.two_digits
  have hfraction : (padded 6 micros).toList.length = 6 := length_padded (by omega) h.micros_lt
  simp only [timeChars, List.length_append, List.length_cons, length_padded_two hhour,
    length_padded_two hminute, length_padded_two hsecond, fractionText]
  split
  · rfl
  · rw [String.toList_append, List.length_append, hfraction]
    rfl

/-- The parts of a time are read back, whatever follows it but a digit. -/
theorem readTimeParts_timeChars_append
    (h : IsTimeOfDay hour minute second micros)
    (hrest : Text.StartsNo Json.isDecimal rest) :
    readTimeParts none [] 3 (timeChars hour minute second micros).length
        (timeChars hour minute second micros ++ rest) =
      some ⟨[hour, minute, second], micros, rest.headD endMark != endMark⟩ := by
  obtain ⟨hhour, hminute, hsecond⟩ := h.two_digits
  rw [length_timeChars h]
  by_cases hzero : micros = 0
  · subst hzero
    have hchars : timeChars hour minute second 0 ++ rest =
        (padded 2 hour).toList ++ ':' :: ((padded 2 minute).toList ++
          ':' :: ((padded 2 second).toList ++ rest)) := by
      simp [timeChars, fractionText]
    rw [hchars, if_pos rfl, readTimeParts_colon none nofun hhour (show 3 < 8 by omega),
      readTimeParts_colon (some true) nofun hminute (show 3 < 8 - 3 by omega),
      readTimeParts_last (some true) hsecond (show 8 - 3 - 3 ≤ 3 by omega)]
    rfl
  · have hchars : timeChars hour minute second micros ++ rest =
        (padded 2 hour).toList ++ ':' :: ((padded 2 minute).toList ++
          ':' :: ((padded 2 second).toList ++ '.' :: ((padded 6 micros).toList ++ rest))) := by
      simp [timeChars, fractionText, hzero]
    rw [hchars, if_neg hzero, readTimeParts_colon none nofun hhour (show 3 < 15 by omega),
      readTimeParts_colon (some true) nofun hminute (show 3 < 15 - 3 by omega),
      readTimeParts_point (some true) hsecond (show 3 < 15 - 3 - 3 by omega)]
    exact readFraction_padded_append h.micros_lt hrest

/-- The hour and the minute alone are read back. -/
theorem readTimeParts_minute
    (hhour : hour < 100)
    (hminute : minute < 100) :
    readTimeParts none [] 3 5 ((padded 2 hour).toList ++ ':' :: (padded 2 minute).toList) =
      some ⟨[hour, minute], 0, false⟩ := by
  rw [readTimeParts_colon none nofun hhour (show 3 < 5 by omega),
    ← List.append_nil (padded 2 minute).toList,
    readTimeParts_last (some true) hminute (show 5 - 3 ≤ 3 by omega)]
  rfl

end Times

section Offsets

variable {offset : Int} {hour minute second micros : Nat}

/-- Hour, minute, second and microsecond of a number of microseconds below a day. -/
theorem exists_clockParts_eq
    {total : Nat}
    (h : total < microsPerDay) :
    ∃ hour minute second micros,
      clockParts total = (hour, minute, second, micros) ∧
      IsTimeOfDay hour minute second micros ∧
      (hour * 3600 + minute * 60 + second) * microsPerSecond + micros = total := by
  rw [microsPerDay] at h
  refine ⟨_, _, _, _, rfl, ⟨?_, ?_, ?_, ?_⟩, ?_⟩ <;>
    · simp only [microsPerSecond]
      omega

/-- An offset that is none or at least a second. -/
def IsSettledOffset
    (offset : Int) : Prop :=
  offset = 0 ∨ microsPerSecond ≤ offset.natAbs

/-- The characters of an offset after its sign: whole minutes have no more. -/
def offsetChars
    (hour minute second micros : Nat) : List Char :=
  if second = 0 ∧ micros = 0 then (padded 2 hour).toList ++ ':' :: (padded 2 minute).toList
  else timeChars hour minute second micros

theorem toList_offsetText
    (hclock : clockParts offset.natAbs = (hour, minute, second, micros)) :
    (offsetText offset).toList =
      (if offset < 0 then '-' else '+') :: offsetChars hour minute second micros := by
  simp only [offsetText, hclock, offsetChars, String.toList_append]
  by_cases hwhole : second = 0 ∧ micros = 0
  · split <;> simp [hwhole]
  · have hnot : ¬ (decide (second = 0) && decide (micros = 0)) = true := by
      simpa using hwhole
    rw [if_neg hwhole, if_neg hnot]
    split <;> simp [timeChars]

/-- The parts of an offset are read back. -/
theorem readTimeParts_offsetChars
    (h : IsTimeOfDay hour minute second micros) :
    ∃ t, readTimeParts none [] 3 (offsetChars hour minute second micros).length
        (offsetChars hour minute second micros) = some t ∧
      t.followed = false ∧ t.seconds = hour * 3600 + minute * 60 + second ∧ t.micros = micros := by
  obtain ⟨hhour, hminute, -⟩ := h.two_digits
  rw [offsetChars]
  split
  · next hwhole =>
      obtain ⟨rfl, rfl⟩ := hwhole
      have hlength : ((padded 2 hour).toList ++ ':' :: (padded 2 minute).toList).length = 5 := by
        simp [length_padded_two hhour, length_padded_two hminute]
      rw [hlength]
      exact ⟨_, readTimeParts_minute hhour hminute, rfl, rfl, rfl⟩
  · have hread := @readTimeParts_timeChars_append [] _ _ _ _ h nofun
    rw [List.append_nil] at hread
    exact ⟨_, hread, rfl, rfl, rfl⟩

/-- The microseconds of an offset in the form of a time, which is none below a second. -/
def offsetSize
    (t : TimeText) : Int :=
  if t.seconds = 0 then 0 else t.seconds * microsPerSecond + t.micros

/-- An offset with a sign is read as a time. -/
theorem readOffset_cons
    {mark : Char}
    {cs : List Char}
    {t : TimeText}
    (hmark : mark ≠ 'Z')
    (hread : readTimeParts none [] 3 cs.length cs = some t)
    (hfollowed : t.followed = false) :
    readOffset (mark :: cs) = some (if mark == '-' then -offsetSize t else offsetSize t) := by
  rw [readOffset]
  · simp only [hread, Option.bind_eq_bind, Option.bind_some, hfollowed, Bool.false_eq_true,
      if_false]
    rfl
  · exact hmark

/-- An offset is read back. -/
theorem readOffset_offsetText
    (hlt : offset.natAbs < microsPerDay)
    (h : IsSettledOffset offset) :
    readOffset (offsetText offset).toList = some offset := by
  obtain ⟨hour, minute, second, micros, hclock, htime, htotal⟩ := exists_clockParts_eq hlt
  obtain ⟨t, hread, hfollowed, hseconds, htmicros⟩ := readTimeParts_offsetChars htime
  -- The offset has a second to show, or is none.
  have hsize : offsetSize t = offset.natAbs := by
    rw [offsetSize, hseconds, htmicros, ← htotal]
    have hmicros := htime.micros_lt
    rw [IsSettledOffset, ← Int.natAbs_eq_zero, ← htotal] at h
    rw [microsPerSecond] at h hmicros ⊢
    split <;> omega
  rw [toList_offsetText hclock]
  by_cases hnegative : offset < 0
  · rw [if_pos hnegative, readOffset_cons (by decide) hread hfollowed, if_pos (by decide), hsize]
    exact congrArg some (by omega)
  · rw [if_neg hnegative, readOffset_cons (by decide) hread hfollowed, if_neg (by decide), hsize]
    exact congrArg some (by omega)

/-- An offset that is read is none or at least a second. -/
theorem isSettledOffset_of_readOffset
    {cs : List Char}
    (h : readOffset cs = some offset) :
    IsSettledOffset offset := by
  unfold readOffset at h
  split at h
  · split at h
    · exact .inl (Option.some.inj h).symm
    · cases h
  · next mark rest _ =>
      obtain ⟨t, hread, hsize⟩ := Option.bind_eq_some_iff.mp h
      split at hsize
      · cases hsize
      · have hoffset := Option.some.inj hsize
        rw [IsSettledOffset, microsPerSecond]
        rw [microsPerSecond] at hoffset
        by_cases hzero : t.seconds = 0
        · simp only [hzero, if_true, neg_zero, ite_self] at hoffset
          exact .inl hoffset.symm
        · simp only [if_neg hzero] at hoffset
          right
          split at hoffset <;> omega
  · exact .inl (Option.some.inj h).symm

end Offsets

section Characters

variable {low high : Nat} {cs cs' : List Char}

/-- The codes of all characters lie within bounds. -/
def CodesWithin
    (low high : Nat)
    (cs : List Char) : Prop :=
  ∀ c ∈ cs, low ≤ c.toNat ∧ c.toNat ≤ high

@[simp] theorem codesWithin_nil :
    CodesWithin low high [] :=
  List.forall_mem_nil _

@[simp] theorem codesWithin_cons_iff
    {c : Char} :
    CodesWithin low high (c :: cs) ↔ (low ≤ c.toNat ∧ c.toNat ≤ high) ∧ CodesWithin low high cs :=
  List.forall_mem_cons

@[simp] theorem codesWithin_append_iff :
    CodesWithin low high (cs ++ cs') ↔ CodesWithin low high cs ∧ CodesWithin low high cs' :=
  List.forall_mem_append

theorem CodesWithin.mono
    {low' high' : Nat}
    (h : CodesWithin low high cs)
    (hlow : low' ≤ low)
    (hhigh : high ≤ high') :
    CodesWithin low' high' cs :=
  fun c hc => ⟨Nat.le_trans hlow (h c hc).1, Nat.le_trans (h c hc).2 hhigh⟩

theorem codesWithin_padded
    (width n : Nat) :
    CodesWithin 48 57 (padded width n).toList := by
  intro c hc
  have hdigit := areDigits_padded width n c hc
  rw [Json.isDecimal, Bool.and_eq_true, decide_eq_true_iff, decide_eq_true_iff] at hdigit
  exact hdigit

theorem codesWithin_timeChars
    (hour minute second micros : Nat) :
    CodesWithin 46 58 (timeChars hour minute second micros) := by
  have hdigits : ∀ width n, CodesWithin 46 58 (padded width n).toList :=
    fun width n => (codesWithin_padded width n).mono (by omega) (by omega)
  have hfraction : CodesWithin 46 58 (fractionText micros).toList := by
    rw [fractionText]
    split
    · exact codesWithin_nil
    · rw [String.toList_append, codesWithin_append_iff]
      exact ⟨by simp, hdigits 6 micros⟩
  simp [timeChars, hdigits, hfraction]

/-- ASCII characters are places. -/
theorem places_of_codesWithin
    (h : CodesWithin low high cs)
    (hhigh : high < 128) :
    places cs = cs := by
  induction cs with
  | nil =>
      rfl
  | cons c cs ih =>
      obtain ⟨⟨-, hc⟩, hcs⟩ := codesWithin_cons_iff.mp h
      have hbytes : Utf8.encodeChar c = [c.toNat] := if_pos (show c.toNat < 0x80 by omega)
      rw [places] at ih ⊢
      rw [Utf8.encode, List.flatMap_cons, hbytes, List.map_append, ← Utf8.encode, ih hcs]
      simp [Char.ofNat_toNat]

end Characters

section Texts

variable {hour minute second micros : Nat}

/-- No character of a time starts an offset. -/
theorem startsOffset_of_mem_timeChars
    {c : Char}
    (hc : c ∈ timeChars hour minute second micros) :
    startsOffset c = false := by
  obtain ⟨hlow, hhigh⟩ := codesWithin_timeChars hour minute second micros c hc
  by_contra hstarts
  have hmarks : (c = '+' ∨ c = '-') ∨ c = 'Z' := by
    simpa only [startsOffset, Bool.not_eq_false, Bool.or_eq_true, beq_iff_eq] using hstarts
  rcases hmarks with (rfl | rfl) | rfl <;> exact absurd (And.intro hlow hhigh) (by decide)

/-- A time and an offset are read apart: the time ends where the offset starts. -/
theorem readTime_append_mark
    {cs : List Char}
    (hinside : ∀ c ∈ cs, startsOffset c = false)
    {mark : Char}
    (hmark : startsOffset mark = true)
    {zone : List Char}
    {t : TimeText}
    (hread : readTimeParts none [] 3 cs.length (cs ++ mark :: zone) = some t)
    {total : Nat}
    (htotal : t.micros? = some total) :
    readTime (cs ++ mark :: zone) =
      (readOffset (mark :: zone)).map fun offset => (total, offset) := by
  have hnone : ∀ c ∈ cs, (!startsOffset c) = true := by
    intro c hc
    rw [hinside c hc, Bool.not_false]
  have hstop : Text.StartsNo (fun c => !startsOffset c) (mark :: zone) := by
    rintro c ⟨⟩
    simp [hmark]
  rw [readTime, Text.takeWhile_append_of_startsNo hnone hstop,
    Text.dropWhile_append_of_startsNo hnone hstop, hread]
  simp only [Option.bind_eq_bind, Option.bind_some, List.isEmpty_cons, Bool.false_and,
    Bool.false_eq_true, if_false, htotal]
  cases readOffset (mark :: zone) <;> rfl

theorem readTime_timeChars_append
    (h : IsTimeOfDay hour minute second micros)
    {mark : Char}
    (hmark : startsOffset mark = true)
    (hdigit : Json.isDecimal mark = false)
    (zone : List Char) :
    readTime (timeChars hour minute second micros ++ mark :: zone) =
      (readOffset (mark :: zone)).map fun offset =>
        ((hour * 3600 + minute * 60 + second) * microsPerSecond + micros, offset) := by
  have hread := readTimeParts_timeChars_append h
    (show Text.StartsNo Json.isDecimal (mark :: zone) by rintro c ⟨⟩; exact hdigit)
  refine readTime_append_mark (fun _ => startsOffset_of_mem_timeChars) hmark hread ?_
  rw [TimeText.micros?, if_pos (by simp [h.hour_lt, h.minute_lt, h.second_lt])]
  rfl

/-- The characters of a moment. -/
theorem toList_text
    (m : Moment) :
    m.text.toList =
      dateChars m.date ++ 'T' ::
        (timeChars m.clock.1 m.clock.2.1 m.clock.2.2.1 m.clock.2.2.2 ++
          (offsetText m.offset).toList) := by
  have hclock : m.clockText =
      padded 4 m.date.year ++ "-" ++ padded 2 m.date.month ++ "-" ++ padded 2 m.date.day ++ "T" ++
        padded 2 m.clock.1 ++ ":" ++ padded 2 m.clock.2.1 ++ ":" ++ padded 2 m.clock.2.2.1 := rfl
  simp [text, hclock, dateChars, timeChars]

/-- The characters of a moment are marks, digits and a letter of ASCII. -/
theorem codesWithin_text
    (m : Moment) :
    CodesWithin 43 84 m.text.toList := by
  have hdigits : ∀ width n, CodesWithin 43 84 (padded width n).toList :=
    fun width n => (codesWithin_padded width n).mono (by omega) (by omega)
  have htime : ∀ hour minute second micros,
      CodesWithin 43 84 (timeChars hour minute second micros) :=
    fun hour minute second micros =>
      (codesWithin_timeChars hour minute second micros).mono (by omega) (by omega)
  have hdate : CodesWithin 43 84 (dateChars m.date) := by
    simp [dateChars, hdigits]
  have hoffset : CodesWithin 43 84 (offsetText m.offset).toList := by
    rw [toList_offsetText rfl, codesWithin_cons_iff, offsetChars]
    constructor
    · split <;> decide
    · split
      · simp [hdigits]
      · exact htime _ _ _ _
  simp [toList_text, hdate, htime, hoffset]

theorem ofWall?_wall
    (m : Moment) :
    ofWall? m.wall m.offset = some m := by
  have hwall : (m.wall : Int).toNat = m.wall := Int.toNat_natCast m.wall
  rw [ofWall?, dif_pos ⟨Int.natCast_nonneg _, hwall ▸ m.wall_lt, m.offset_lt⟩]
  simp only [hwall]

/-- The microseconds of the day and the offset that follow a date. -/
def readRest
    (rest : List Char) : Option (Nat × Int) :=
  if rest.isEmpty then some (0, 0) else readTime (rest.drop (width rest))

theorem readPlaces?_eq
    (cs : List Char) :
    readPlaces? cs =
      if cs.length < 7 then none
      else
        (dateLength cs).bind fun length => (readDate length cs).bind fun day =>
          (readRest (cs.drop length)).bind fun found =>
            ofWall? (day * microsPerDay + found.1 : Nat) found.2 := by
  rw [readPlaces?]
  split
  · rfl
  · simp only [readRest, Option.bind_eq_bind]
    refine Option.bind_congr fun length _ => Option.bind_congr fun day _ => ?_
    split <;> rfl

/-- A moment with a settled offset is read back. -/
theorem read?_text
    {m : Moment}
    (h : IsSettledOffset m.offset) :
    read? m.text.toList = some m := by
  obtain ⟨hour, minute, second, micros, hclock, hclockTime, htotal⟩ :=
    exists_clockParts_eq (Nat.mod_lt m.wall (show 0 < microsPerDay by decide))
  have hfits := fits_date m
  have hlength := length_dateChars hfits
  have hday : readDate 10 (dateChars m.date ++
      'T' :: (timeChars hour minute second micros ++ (offsetText m.offset).toList)) =
        some (m.wall / microsPerDay) := by
    rw [readDate_dateChars_append hfits, date, Date.toDay?_ofDay m.day_lt]
  have hrest : readRest
      ('T' :: (timeChars hour minute second micros ++ (offsetText m.offset).toList)) =
        some (m.wall % microsPerDay, m.offset) := by
    have hoffset := readOffset_offsetText m.offset_lt h
    have hwidth : ∀ rest, width ('T' :: rest) = 1 := fun _ => rfl
    rw [toList_offsetText rfl] at hoffset ⊢
    rw [readRest, if_neg (by simp), hwidth, List.drop_one, List.tail_cons,
      readTime_timeChars_append hclockTime (by split <;> rfl) (by split <;> rfl), hoffset, htotal]
    rfl
  have hlong : ¬ (dateChars m.date ++
      'T' :: (timeChars hour minute second micros ++ (offsetText m.offset).toList)).length < 7 := by
    rw [List.length_append, hlength]
    omega
  rw [read?, places_of_codesWithin (codesWithin_text m) (by omega), toList_text,
    show m.clock = (hour, minute, second, micros) from hclock, readPlaces?_eq, if_neg hlong,
    dateLength_dateChars_append hfits, Option.bind_some, hday, Option.bind_some,
    List.drop_left' hlength, hrest, Option.bind_some, Nat.div_add_mod', ofWall?_wall]

theorem isSettledOffset_of_readTime
    {cs : List Char}
    {offset : Int}
    (h : readTime cs = some (micros, offset)) :
    IsSettledOffset offset := by
  obtain ⟨t, -, h⟩ := Option.bind_eq_some_iff.mp h
  split at h
  · cases h
  obtain ⟨total, -, h⟩ := Option.bind_eq_some_iff.mp h
  obtain ⟨read, hread, h⟩ := Option.bind_eq_some_iff.mp h
  cases h
  exact isSettledOffset_of_readOffset hread

/-- The offset of a moment that is read is settled. -/
theorem isSettledOffset_of_read?
    {m : Moment}
    {cs : List Char}
    (h : read? cs = some m) :
    IsSettledOffset m.offset := by
  rw [read?, readPlaces?_eq] at h
  split at h
  · cases h
  obtain ⟨length, -, h⟩ := Option.bind_eq_some_iff.mp h
  obtain ⟨day, -, h⟩ := Option.bind_eq_some_iff.mp h
  obtain ⟨⟨micros, offset⟩, hrest, h⟩ := Option.bind_eq_some_iff.mp h
  rw [(wall_of_ofWall? h).2]
  rw [readRest] at hrest
  split at hrest
  · cases hrest
    exact .inl rfl
  · exact isSettledOffset_of_readTime hrest

end Texts
end Moment
end Turnstile
