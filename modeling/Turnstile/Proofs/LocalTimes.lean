import Turnstile.Proofs.MomentText

/-!
# Times without offset

A text with a date and a time of day but no offset is in universal time: it gives the moment
that it gives with the offset of universal time written after it.

**Endings.**  What is written after a text changes nothing about how its date and the parts of
its time are read, because each reader takes as much as it knows to be there.  Only whether
something follows the time depends on it.

**Results.**
* `readDate_append`, `dateLength_append`: the date of a text with an ending.
* `readTimeParts_append`: the parts of a time with an ending.
* `read?_append_offset`: a text without offset, and the same text with one.
-/

namespace Turnstile
namespace Moment

section Dates

variable {cs rest : List Char} {count value : Nat} (ending : List Char)

theorem readDigits_eq_some
    (h : readDigits count cs = some (value, rest)) :
    count ≤ cs.length ∧ rest = cs.drop count := by
  unfold readDigits at h
  simp only at h
  split at h
  · next hdigits =>
      rw [Bool.and_eq_true, decide_eq_true_iff, List.length_take] at hdigits
      exact ⟨by omega, (congrArg Prod.snd (Option.some.inj h)).symm⟩
  · cases h

theorem readDigits_append
    (h : readDigits count cs = some (value, rest)) :
    readDigits count (cs ++ ending) = some (value, rest ++ ending) := by
  have hcount := (readDigits_eq_some h).1
  unfold readDigits at h ⊢
  rw [List.take_append_of_le_length hcount, List.drop_append_of_le_length hcount]
  simp only at h ⊢
  split at h
  · next hdigits =>
      obtain ⟨rfl, rfl⟩ := Prod.mk.inj (Option.some.inj h)
      rw [if_pos hdigits]
  · cases h

theorem skipDash_append
    {dashed : Bool}
    (h : skipDash dashed cs = some rest) :
    skipDash dashed (cs ++ ending) = some (rest ++ ending) := by
  unfold skipDash at h ⊢
  cases dashed with
  | false =>
      obtain rfl := Option.some.inj h
      rfl
  | true =>
      simp only [if_true] at h ⊢
      split at h
      · next hdash =>
          obtain rfl := Option.some.inj h
          cases cs with
          | nil => cases hdash
          | cons c cs => exact if_pos hdash
      · cases h

/-- An ending does not change the day of a date. -/
theorem readDate_append
    {length day : Nat}
    (hlength : 7 ≤ cs.length)
    (h : readDate length cs = some day) :
    readDate length (cs ++ ending) = some day := by
  unfold readDate at h ⊢
  simp only [Option.bind_eq_bind] at h ⊢
  obtain ⟨⟨year, afterYear⟩, hyear, h⟩ := Option.bind_eq_some_iff.mp h
  obtain ⟨-, hafterYear⟩ := readDigits_eq_some hyear
  have hlong : 3 ≤ afterYear.length := by
    rw [hafterYear, List.length_drop]
    omega
  have hhead : (afterYear ++ ending).head? = afterYear.head? :=
    List.head?_append_of_ne_nil _ (by rintro rfl; cases hlong)
  simp only [readDigits_append ending hyear, Option.bind_some, hhead] at h ⊢
  generalize hdashed : decide (afterYear.head? = some '-') = dashed at h ⊢
  have hrest : (if afterYear.head? = some '-' then (afterYear ++ ending).drop 1
      else afterYear ++ ending) =
        (if afterYear.head? = some '-' then afterYear.drop 1 else afterYear) ++ ending := by
    split
    · exact List.drop_append_of_le_length (by omega)
    · rfl
  have hlengths : 2 ≤ (if afterYear.head? = some '-' then afterYear.drop 1
      else afterYear).length ∧
      (if afterYear.head? = some '-' then afterYear.drop 1 else afterYear).length ≤ cs.length := by
    have hshort : afterYear.length ≤ cs.length := by
      rw [hafterYear, List.length_drop]
      omega
    split
    · rw [List.length_drop]
      omega
    · omega
  rw [hrest]
  generalize (if afterYear.head? = some '-' then afterYear.drop 1 else afterYear) = rest
    at h hlengths ⊢
  rw [List.head?_append_of_ne_nil _ (by rintro rfl; cases hlengths.1),
    List.drop_append_of_le_length (by omega)]
  by_cases hweek : rest.head? = some 'W'
  · rw [if_pos hweek] at h ⊢
    obtain ⟨⟨week, afterWeek⟩, hread, h⟩ := Option.bind_eq_some_iff.mp h
    obtain ⟨-, hafterWeek⟩ := readDigits_eq_some hread
    -- As many characters are read of both texts.
    have hcount : (cs ++ ending).length - (afterWeek ++ ending).length =
        cs.length - afterWeek.length := by
      rw [hafterWeek, List.length_append, List.length_append]
      omega
    simp only [readDigits_append ending hread, Option.bind_some, hcount]
    simp only at h
    split at h
    · next hlater =>
        obtain ⟨afterDash, hdash, h⟩ := Option.bind_eq_some_iff.mp h
        obtain ⟨⟨weekday, afterDay⟩, hday, h⟩ := Option.bind_eq_some_iff.mp h
        simp only [if_pos hlater, skipDash_append ending hdash, Option.bind_some,
          readDigits_append ending hday]
        exact h
    · next hlater =>
        rw [if_neg hlater]
        exact h
  · rw [if_neg hweek] at h ⊢
    obtain ⟨⟨month, afterMonth⟩, hmonth, h⟩ := Option.bind_eq_some_iff.mp h
    obtain ⟨afterDash, hdash, h⟩ := Option.bind_eq_some_iff.mp h
    obtain ⟨⟨number, afterDay⟩, hday, h⟩ := Option.bind_eq_some_iff.mp h
    simp only [readDigits_append ending hmonth, Option.bind_some, skipDash_append ending hdash,
      readDigits_append ending hday]
    exact h

variable {ending}

/-- An ending after a time does not change where the date ends. -/
theorem dateLength_append
    {length : Nat}
    (hdate : 7 ≤ cs.length)
    (hlength : length < cs.length)
    (hending : Text.StartsNo Json.isDecimal ending)
    (h : dateLength cs = some length) :
    dateLength (cs ++ ending) = some length := by
  have hseven : cs.length ≠ 7 := by
    intro hseven
    rw [dateLength, if_pos hseven] at h
    cases h
    omega
  have hat : ∀ i, i < cs.length → (cs ++ ending)[i]? = cs[i]? :=
    fun i => List.getElem?_append_left
  have hlong : (cs ++ ending).length = cs.length + ending.length := List.length_append
  unfold dateLength at h ⊢
  simp only [hat 4 (by omega), hat 5 (by omega)] at h ⊢
  rw [if_neg hseven] at h
  rw [if_neg (by omega)]
  by_cases hdash : cs[4]? = some '-'
  · rw [if_pos hdash] at h ⊢
    by_cases hweek : cs[5]? = some 'W'
    · rw [if_pos hweek] at h ⊢
      by_cases hsecond : cs[8]? = some '-'
      · rw [if_pos hsecond] at h
        have hnine := (List.getElem?_eq_some_iff.mp hsecond).1
        split at h
        · cases h
        · -- A text of ten characters is a date alone.
          have hten : 10 < cs.length := by
            refine Nat.lt_of_not_le fun hle => ?_
            simp only [List.getElem?_eq_none hle, Option.map_none, Option.getD_none,
              Bool.false_eq_true, if_false, Option.some.injEq] at h
            omega
          rw [hat 8 hnine, if_pos hsecond, if_neg (by omega)]
          simpa only [hat 10 hten] using h
      · rw [if_neg hsecond] at h
        obtain rfl := Option.some.inj h
        rw [hat 8 hlength, if_neg hsecond]
    · rwa [if_neg hweek] at h ⊢
  · rw [if_neg hdash] at h ⊢
    by_cases hweek : cs[4]? = some 'W'
    · rw [if_pos hweek] at h ⊢
      rw [List.drop_append_of_le_length hdate, Text.takeWhile_append_eq hending]
      exact h
    · rwa [if_neg hweek] at h ⊢

end Dates

section Times

variable {cs : List Char} {t : TimeText} (ending : List Char)

theorem readFraction_append
    {parts : List Nat}
    (h : readFraction parts cs.length cs = some t) :
    ∃ followed, readFraction parts cs.length (cs ++ ending) =
      some ⟨t.parts, t.micros, followed⟩ := by
  obtain ⟨⟨value, rest⟩, hread, h⟩ := Option.bind_eq_some_iff.mp h
  obtain rfl := Option.some.inj h
  rw [readFraction, readDigits_append ending hread]
  exact ⟨_, rfl⟩

/-- An ending changes neither the parts of a time nor its microseconds. -/
theorem readTimeParts_append
    {separated : Option Bool}
    {parts : List Nat}
    {left : Nat}
    (h : readTimeParts separated parts left cs.length cs = some t) :
    ∃ followed, readTimeParts separated parts left cs.length (cs ++ ending) =
      some ⟨t.parts, t.micros, followed⟩ := by
  induction left generalizing separated parts cs with
  | zero =>
      rw [readTimeParts] at h ⊢
      exact readFraction_append ending h
  | succ left ih =>
      rw [readTimeParts] at h ⊢
      simp only [Option.bind_eq_bind] at h ⊢
      obtain ⟨⟨value, rest⟩, hread, h⟩ := Option.bind_eq_some_iff.mp h
      obtain ⟨hcount, hrest⟩ := readDigits_eq_some hread
      have hroom : rest.length = cs.length - 2 := by
        rw [hrest, List.length_drop]
      rw [readDigits_append ending hread, Option.bind_some]
      by_cases hshort : cs.length ≤ 3
      · simp only [if_pos hshort] at h ⊢
        obtain rfl := Option.some.inj h
        exact ⟨_, rfl⟩
      · simp only [if_neg hshort] at h ⊢
        have hhead : (rest ++ ending).headD endMark = rest.headD endMark := by
          cases rest with
          | nil =>
              rw [List.length_nil] at hroom
              omega
          | cons c rest => rfl
        have hdrop : (rest ++ ending).drop 1 = rest.drop 1 ++ ending :=
          List.drop_append_of_le_length (by omega)
        have hafter : (rest.drop 1).length = cs.length - 3 := by
          rw [List.length_drop]
          omega
        rw [hhead, hdrop, ← hafter, ← hroom]
        rw [← hafter, ← hroom] at h
        split at h
        · next hcolon =>
            rw [if_pos hcolon]
            exact ih h
        · next hcolon =>
            rw [if_neg hcolon]
            split at h
            · next hpoint =>
                rw [if_pos hpoint]
                exact readFraction_append ending h
            · next hpoint =>
                rw [if_neg hpoint]
                split at h
                · next hbare =>
                    rw [if_pos hbare]
                    exact ih h
                · cases h

variable {micros : Nat} {offset : Int}

/-- A time without offset has none, and is read the same before one. -/
theorem readTime_append_offset
    (hlocal : ∀ c ∈ cs, startsOffset c = false)
    {mark : Char}
    (hmark : startsOffset mark = true)
    (zone : List Char)
    (h : readTime cs = some (micros, offset)) :
    offset = 0 ∧
      readTime (cs ++ mark :: zone) =
        (readOffset (mark :: zone)).map fun read => (micros, read) := by
  have hinside : ∀ c ∈ cs, (!startsOffset c) = true := by
    intro c hc
    rw [hlocal c hc, Bool.not_false]
  rw [readTime, List.takeWhile_eq_self_iff.mpr hinside, List.dropWhile_eq_nil_iff.mpr hinside] at h
  obtain ⟨t, hread, h⟩ := Option.bind_eq_some_iff.mp h
  split at h
  · cases h
  obtain ⟨total, htotal, h⟩ := Option.bind_eq_some_iff.mp h
  cases h
  obtain ⟨followed, hread'⟩ := readTimeParts_append (mark :: zone) hread
  exact ⟨rfl, readTime_append_mark hlocal hmark hread' htotal⟩

/-- What follows a date is a separator and a time of day without offset. -/
structure IsLocalTime
    (rest : List Char) : Prop where
  time_ne_nil : rest.drop (width rest) ≠ []
  no_offset : ∀ c ∈ rest.drop (width rest), startsOffset c = false

instance (rest : List Char) : Decidable (IsLocalTime rest) :=
  decidable_of_iff
    (rest.drop (width rest) ≠ [] ∧ (rest.drop (width rest)).any startsOffset = false)
    ⟨fun h => ⟨h.1, by simpa using h.2⟩, fun h => ⟨h.time_ne_nil, by simpa using h.no_offset⟩⟩

theorem IsLocalTime.width_lt
    {rest : List Char}
    (h : IsLocalTime rest) :
    width rest < rest.length := by
  refine Nat.lt_of_not_le fun hle => h.time_ne_nil ?_
  exact List.drop_eq_nil_of_le hle

theorem readRest_append_offset
    {rest : List Char}
    (hlocal : IsLocalTime rest)
    {mark : Char}
    (hmark : startsOffset mark = true)
    (zone : List Char)
    (h : readRest rest = some (micros, offset)) :
    offset = 0 ∧
      readRest (rest ++ mark :: zone) =
        (readOffset (mark :: zone)).map fun read => (micros, read) := by
  cases rest with
  | nil =>
      exact absurd rfl hlocal.time_ne_nil
  | cons separator time =>
      have hwidth : width (separator :: time ++ mark :: zone) = width (separator :: time) := rfl
      have hinside := Nat.le_of_lt hlocal.width_lt
      rw [readRest, if_neg (by simp)] at h
      rw [readRest, if_neg (by simp), hwidth, List.drop_append_of_le_length hinside]
      exact readTime_append_offset hlocal.no_offset hmark zone h

end Times

section Texts

variable {cs : List Char}

theorem places_append
    (cs cs' : List Char) :
    places (cs ++ cs') = places cs ++ places cs' := by
  rw [places, places, places, Utf8.encode, Utf8.encode, Utf8.encode, List.flatMap_append,
    List.map_append]

/-- A text has a time of day after its date, and no offset after the time. -/
def HasLocalTime
    (cs : List Char) : Prop :=
  ∃ length, dateLength (places cs) = some length ∧ IsLocalTime ((places cs).drop length)

/-- A text with a time of day without offset does not end with the mark of universal time. -/
theorem HasLocalTime.getLast?_ne
    (h : HasLocalTime cs) :
    cs.getLast? ≠ some 'Z' := by
  intro hlast
  obtain ⟨start, rfl⟩ := List.getLast?_eq_some_iff.mp hlast
  obtain ⟨length, -, hne, hlocal⟩ := h
  rw [places_append, show places ['Z'] = ['Z'] by decide] at hne hlocal
  -- The time is an end of the text, and is not empty.
  generalize htime : ((places start ++ ['Z']).drop length).drop
    (width ((places start ++ ['Z']).drop length)) = time at hne hlocal
  have hend : time <:+ places start ++ ['Z'] := by
    rw [← htime]
    exact (List.drop_suffix _ _).trans (List.drop_suffix _ _)
  obtain ⟨before, hbefore⟩ := hend
  have hlast := congrArg List.getLast? hbefore
  rw [List.getLast?_append_of_ne_nil _ hne, List.getLast?_concat] at hlast
  exact absurd (hlocal 'Z' (List.mem_of_getLast? hlast)) (by decide)

/-- A text without offset gives the same moment with the offset of universal time. -/
theorem read?_append_offset
    {m : Moment}
    (hlocal : HasLocalTime cs)
    (h : read? cs = some m) :
    read? (cs ++ "+00:00".toList) = some m := by
  obtain ⟨length, hlength, hrest⟩ := hlocal
  rw [read?, readPlaces?_eq] at h
  split at h
  · cases h
  next hlong =>
    rw [hlength, Option.bind_some] at h
    obtain ⟨day, hday, h⟩ := Option.bind_eq_some_iff.mp h
    obtain ⟨⟨micros, offset⟩, hfound, h⟩ := Option.bind_eq_some_iff.mp h
    have hshort : length < (places cs).length := by
      have hwidth := hrest.width_lt
      rw [List.length_drop] at hwidth
      omega
    have hzone : places "+00:00".toList = '+' :: "00:00".toList := by
      decide
    have hnone : readOffset ('+' :: "00:00".toList) = some 0 := by
      decide
    have hmark : startsOffset '+' = true := rfl
    obtain ⟨rfl, happended⟩ := readRest_append_offset hrest hmark "00:00".toList hfound
    rw [hnone, Option.map_some] at happended
    rw [read?, places_append, hzone, readPlaces?_eq, if_neg (by rw [List.length_append]; omega),
      dateLength_append (by omega) hshort (by rintro c ⟨⟩; rfl) hlength, Option.bind_some,
      readDate_append _ (by omega) hday, Option.bind_some,
      List.drop_append_of_le_length (Nat.le_of_lt hshort), happended, Option.bind_some]
    exact h

end Texts

end Moment
end Turnstile
