import Turnstile.Proofs.QuotedText

/-!
# How deep documents are read

The readers of values, of the items of arrays and of the members of objects call each other
to a given depth.  Each leaves a suffix of the text that it is given.  So what stands inside
brackets is read from a shorter text, and a depth of twice the length of the text and one is
never used up: reading at any greater depth gives the same.

**Results.**
* `leavesSuffixAt`: what the readers leave.
* `readValue_eq_of_le`: all depths that are enough for a text give the same value.
* `readChars_eq`: a document may be read at any such depth.
-/

namespace Turnstile
namespace Json

section Suffixes

variable {cs rest : List Char} {v : Json}

theorem skipSpacing_isSuffix
    (cs : List Char) :
    skipSpacing cs <:+ cs :=
  List.dropWhile_suffix _

theorem length_skipSpacing_le
    (cs : List Char) :
    (skipSpacing cs).length ≤ cs.length :=
  (skipSpacing_isSuffix cs).length_le

/-- What follows the first character after blanks. -/
theorem isSuffix_of_skipSpacing
    {c : Char}
    (h : skipSpacing cs = c :: rest) :
    rest <:+ cs :=
  (List.suffix_cons c rest).trans (h ▸ skipSpacing_isSuffix cs)

theorem exists_of_withPiece
    {piece : Piece}
    {read : Option (List Piece × List Char)}
    {pieces : List Piece}
    (h : withPiece piece read = some (pieces, rest)) :
    ∃ others, read = some (others, rest) := by
  rw [withPiece_eq, withPieces] at h
  obtain ⟨⟨others, left⟩, rfl, heq⟩ := Option.map_eq_some_iff.mp h
  obtain ⟨-, rfl⟩ := Prod.mk.inj heq
  exact ⟨others, rfl⟩

theorem isSuffix_of_readPieces
    {pieces : List Piece}
    (h : readPieces cs = some (pieces, rest)) :
    rest <:+ cs := by
  fun_induction readPieces cs generalizing pieces with
  | case1 => cases h
  | case2 after =>
      obtain ⟨-, rfl⟩ := Prod.mk.inj (Option.some.inj h)
      exact List.suffix_cons _ _
  | case3 a b c d after code hcode ih =>
      obtain ⟨others, hothers⟩ := exists_of_withPiece h
      exact (ih hothers).trans ⟨['\\', 'u', a, b, c, d], rfl⟩
  | case4 => cases h
  | case5 c after _ e he ih =>
      obtain ⟨others, hothers⟩ := exists_of_withPiece h
      exact (ih hothers).trans ⟨['\\', c], rfl⟩
  | case6 => cases h
  | case7 => cases h
  | case8 c after _ _ _ _ ih =>
      obtain ⟨others, hothers⟩ := exists_of_withPiece h
      exact (ih hothers).trans (List.suffix_cons _ _)

theorem isSuffix_of_readString
    {s : Wording}
    (h : readString cs = some (s, rest)) :
    rest <:+ cs := by
  obtain ⟨⟨pieces, left⟩, hread, heq⟩ := Option.map_eq_some_iff.mp h
  obtain ⟨-, rfl⟩ := Prod.mk.inj heq
  exact isSuffix_of_readPieces hread

theorem isSuffix_of_readIntegerPart
    {whole : List Char}
    (h : readIntegerPart cs = some (whole, rest)) :
    rest <:+ cs := by
  unfold readIntegerPart at h
  split at h
  · obtain ⟨-, rfl⟩ := Prod.mk.inj (Option.some.inj h)
    exact List.suffix_cons _ _
  · rw [Option.ite_none_right_eq_some] at h
    obtain ⟨-, rfl⟩ := Prod.mk.inj (Option.some.inj h.2)
    exact (List.dropWhile_suffix _).trans (List.suffix_cons _ _)
  · cases h

theorem readFraction_isSuffix
    (cs : List Char) :
    (readFraction cs).2 <:+ cs := by
  unfold readFraction
  split
  · split
    · exact List.suffix_refl _
    · exact (List.dropWhile_suffix _).trans (List.suffix_cons _ _)
  · exact List.suffix_refl _

/-- An exponent is its letter, a sign that may be left out, and digits. -/
theorem readExponent_cons
    (letter : Char)
    (rest : List Char) :
    readExponent (letter :: rest) =
      if letter == 'e' || letter == 'E' then
        if ((Text.signed rest).2.takeWhile isDecimal).isEmpty then none
        else
          some (if (Text.signed rest).1 then
              -(digitsValue ((Text.signed rest).2.takeWhile isDecimal) : Int)
            else digitsValue ((Text.signed rest).2.takeWhile isDecimal),
            (Text.signed rest).2.dropWhile isDecimal)
      else none := by
  unfold Text.signed
  rcases rest with _ | ⟨c, more⟩
  · rfl
  · by_cases hminus : c = '-'
    · subst hminus
      rfl
    · by_cases hplus : c = '+'
      · subst hplus
        rfl
      · simp [readExponent, hminus, hplus]

theorem signed_isSuffix
    (cs : List Char) :
    (Text.signed cs).2 <:+ cs := by
  unfold Text.signed
  split
  · exact List.suffix_cons _ _
  · exact List.suffix_cons _ _
  · exact List.suffix_refl _

theorem isSuffix_of_readExponent
    {exponent : Int}
    (h : readExponent cs = some (exponent, rest)) :
    rest <:+ cs := by
  cases cs with
  | nil => cases h
  | cons letter more =>
      rw [readExponent_cons, Option.ite_none_right_eq_some, Option.ite_none_left_eq_some] at h
      obtain ⟨-, -, heq⟩ := h
      obtain ⟨-, rfl⟩ := Prod.mk.inj (Option.some.inj heq)
      exact ((List.dropWhile_suffix _).trans (signed_isSuffix more)).trans (List.suffix_cons _ _)

theorem isSuffix_of_readUnsigned
    {negative : Bool}
    (h : readUnsigned negative cs = some (v, rest)) :
    rest <:+ cs := by
  unfold readUnsigned at h
  cases hwhole : readIntegerPart cs with
  | none =>
      simp [hwhole] at h
  | some read =>
      obtain ⟨whole, afterWhole⟩ := read
      have hfraction := (readFraction_isSuffix afterWhole).trans (isSuffix_of_readIntegerPart hwhole)
      simp only [hwhole] at h
      cases hexponent : readExponent (readFraction afterWhole).2 with
      | some read =>
          simp only [hexponent] at h
          obtain ⟨-, rfl⟩ := Prod.mk.inj (Option.some.inj h)
          exact (isSuffix_of_readExponent hexponent).trans hfraction
      | none =>
          simp only [hexponent] at h
          split at h
          · rw [Option.ite_none_right_eq_some] at h
            obtain ⟨-, rfl⟩ := Prod.mk.inj (Option.some.inj h.2)
            exact hfraction
          · obtain ⟨-, rfl⟩ := Prod.mk.inj (Option.some.inj h)
            exact hfraction

theorem isSuffix_of_expect?
    {word : List Char}
    (h : expect? word cs = some rest) :
    rest <:+ cs := by
  rw [expect?, Option.ite_none_right_eq_some] at h
  obtain rfl := Option.some.inj h.2
  exact List.drop_suffix _ _

theorem isSuffix_of_word
    {word : List Char}
    {w : Json}
    (h : (expect? word cs).map ((w, ·)) = some (v, rest)) :
    rest <:+ cs := by
  obtain ⟨after, hafter, heq⟩ := Option.map_eq_some_iff.mp h
  obtain ⟨-, rfl⟩ := Prod.mk.inj heq
  exact isSuffix_of_expect? hafter

theorem isSuffix_of_readScalar
    (h : readScalar cs = some (v, rest)) :
    rest <:+ cs := by
  unfold readScalar at h
  split at h
  · exact isSuffix_of_word h
  · exact isSuffix_of_word h
  · exact isSuffix_of_word h
  · exact isSuffix_of_word h
  · exact isSuffix_of_word h
  · split at h
    · rename_i after hafter
      obtain ⟨-, rfl⟩ := Prod.mk.inj (Option.some.inj h)
      exact (isSuffix_of_expect? hafter).trans (List.suffix_cons _ _)
    · exact (isSuffix_of_readUnsigned h).trans (List.suffix_cons _ _)
  · exact isSuffix_of_readUnsigned h

/-- What the readers leave at a depth is a suffix of what they are given. -/
structure LeavesSuffixAt
    (depth : Nat) : Prop where
  value : ∀ {cs v rest}, readValue depth cs = some (v, rest) → rest <:+ cs
  items : ∀ {cs items rest}, readItems depth cs = some (items, rest) → rest <:+ cs
  members : ∀ {cs members rest}, readMembers depth cs = some (members, rest) → rest <:+ cs

theorem LeavesSuffixAt.value_succ
    {depth : Nat}
    (h : LeavesSuffixAt depth)
    (hread : readValue (depth + 1) cs = some (v, rest)) :
    rest <:+ cs := by
  unfold readValue at hread
  split at hread
  · obtain ⟨⟨s, after⟩, hs, heq⟩ := Option.map_eq_some_iff.mp hread
    obtain ⟨-, rfl⟩ := Prod.mk.inj heq
    exact (isSuffix_of_readString hs).trans (List.suffix_cons _ _)
  · rename_i inside
    have hinside := (skipSpacing_isSuffix inside).trans (List.suffix_cons '[' inside)
    split at hread
    · rename_i after hempty
      obtain ⟨-, rfl⟩ := Prod.mk.inj (Option.some.inj hread)
      rw [hempty] at hinside
      exact (List.suffix_cons _ _).trans hinside
    · obtain ⟨⟨items, after⟩, hitems, heq⟩ := Option.map_eq_some_iff.mp hread
      obtain ⟨-, rfl⟩ := Prod.mk.inj heq
      exact (h.items hitems).trans hinside
  · rename_i inside
    have hinside := (skipSpacing_isSuffix inside).trans (List.suffix_cons '{' inside)
    split at hread
    · rename_i after hempty
      obtain ⟨-, rfl⟩ := Prod.mk.inj (Option.some.inj hread)
      rw [hempty] at hinside
      exact (List.suffix_cons _ _).trans hinside
    · obtain ⟨⟨members, after⟩, hmembers, heq⟩ := Option.map_eq_some_iff.mp hread
      obtain ⟨-, rfl⟩ := Prod.mk.inj heq
      exact (h.members hmembers).trans hinside
  · exact isSuffix_of_readScalar hread

theorem LeavesSuffixAt.items_succ
    {depth : Nat}
    (h : LeavesSuffixAt depth)
    {items : List Json}
    (hread : readItems (depth + 1) cs = some (items, rest)) :
    rest <:+ cs := by
  unfold readItems at hread
  split at hread
  · cases hread
  · rename_i item left hitem
    have hleft := h.value hitem
    split at hread
    · rename_i after hend
      obtain ⟨-, rfl⟩ := Prod.mk.inj (Option.some.inj hread)
      exact (isSuffix_of_skipSpacing hend).trans hleft
    · rename_i more hcomma
      obtain ⟨⟨others, after⟩, hothers, heq⟩ := Option.map_eq_some_iff.mp hread
      obtain ⟨-, rfl⟩ := Prod.mk.inj heq
      exact ((h.items hothers).trans (skipSpacing_isSuffix more)).trans
        ((isSuffix_of_skipSpacing hcomma).trans hleft)
    · cases hread

theorem LeavesSuffixAt.members_succ
    {depth : Nat}
    (h : LeavesSuffixAt depth)
    {members : Members Json}
    (hread : readMembers (depth + 1) cs = some (members, rest)) :
    rest <:+ cs := by
  unfold readMembers at hread
  split at hread
  · rename_i quoted
    split at hread
    · cases hread
    · rename_i name afterName hname
      have hquoted := (isSuffix_of_readString hname).trans (List.suffix_cons '"' quoted)
      split at hread
      · rename_i valueText hcolon
        have htext := (isSuffix_of_skipSpacing hcolon).trans hquoted
        split at hread
        · cases hread
        · rename_i value afterValue hvalue
          have hleft := ((h.value hvalue).trans (skipSpacing_isSuffix valueText)).trans htext
          split at hread
          · rename_i after hend
            obtain ⟨-, rfl⟩ := Prod.mk.inj (Option.some.inj hread)
            exact (isSuffix_of_skipSpacing hend).trans hleft
          · rename_i more hcomma
            obtain ⟨⟨others, after⟩, hothers, heq⟩ := Option.map_eq_some_iff.mp hread
            obtain ⟨-, rfl⟩ := Prod.mk.inj heq
            exact ((h.members hothers).trans (skipSpacing_isSuffix more)).trans
              ((isSuffix_of_skipSpacing hcomma).trans hleft)
          · cases hread
      · cases hread
  · cases hread

theorem leavesSuffixAt
    (depth : Nat) :
    LeavesSuffixAt depth := by
  induction depth with
  | zero => exact ⟨by simp [readValue], by simp [readItems], by simp [readMembers]⟩
  | succ depth ih => exact ⟨ih.value_succ, ih.items_succ, ih.members_succ⟩

end Suffixes

section Depths

variable {cs : List Char}

/-- A greater depth changes nothing for texts that are short enough for a depth. -/
structure EnoughAt
    (depth : Nat) : Prop where
  value : ∀ cs, 2 * cs.length + 1 ≤ depth → readValue (depth + 1) cs = readValue depth cs
  items : ∀ cs, 2 * cs.length + 2 ≤ depth → readItems (depth + 1) cs = readItems depth cs
  members : ∀ cs, 2 * cs.length + 2 ≤ depth → readMembers (depth + 1) cs = readMembers depth cs

theorem EnoughAt.value_succ
    {depth : Nat}
    (h : EnoughAt depth)
    (hlength : 2 * cs.length + 1 ≤ depth + 1) :
    readValue (depth + 2) cs = readValue (depth + 1) cs := by
  unfold readValue
  split
  · rfl
  · rename_i inside
    have hinside := length_skipSpacing_le inside
    rw [List.length_cons] at hlength
    split
    · rfl
    · rw [h.items _ (by omega)]
  · rename_i inside
    have hinside := length_skipSpacing_le inside
    rw [List.length_cons] at hlength
    split
    · rfl
    · rw [h.members _ (by omega)]
  · rfl

theorem EnoughAt.items_succ
    {depth : Nat}
    (h : EnoughAt depth)
    (hlength : 2 * cs.length + 2 ≤ depth + 1) :
    readItems (depth + 2) cs = readItems (depth + 1) cs := by
  unfold readItems
  rw [h.value cs (by omega)]
  split
  · rfl
  · rename_i item left hitem
    have hleft := ((leavesSuffixAt depth).value hitem).length_le
    split
    · rfl
    · rename_i more hcomma
      have hmore := length_skipSpacing_le left
      have hnext := length_skipSpacing_le more
      rw [hcomma, List.length_cons] at hmore
      rw [h.items _ (by omega)]
    · rfl

theorem EnoughAt.members_succ
    {depth : Nat}
    (h : EnoughAt depth)
    (hlength : 2 * cs.length + 2 ≤ depth + 1) :
    readMembers (depth + 2) cs = readMembers (depth + 1) cs := by
  unfold readMembers
  split
  · rename_i quoted
    rw [List.length_cons] at hlength
    split
    · rfl
    · rename_i name afterName hname
      have hafterName := (isSuffix_of_readString hname).length_le
      split
      · rename_i valueText hcolon
        have hvalueText := (isSuffix_of_skipSpacing hcolon).length_le
        have hspacing := length_skipSpacing_le valueText
        rw [h.value _ (by omega)]
        split
        · rfl
        · rename_i value afterValue hvalue
          have hafterValue := ((leavesSuffixAt depth).value hvalue).length_le
          split
          · rfl
          · rename_i more hcomma
            have hmore := (isSuffix_of_skipSpacing hcomma).length_le
            have hnext := length_skipSpacing_le more
            rw [h.members _ (by omega)]
          · rfl
      · rfl
  · rfl

theorem enoughAt
    (depth : Nat) :
    EnoughAt depth := by
  induction depth with
  | zero => exact ⟨fun _ h => by omega, fun _ h => by omega, fun _ h => by omega⟩
  | succ depth ih =>
      exact ⟨fun _ => ih.value_succ, fun _ => ih.items_succ, fun _ => ih.members_succ⟩

/-- A value is read alike at all depths that are enough for its text. -/
theorem readValue_eq_of_le
    {least depth : Nat}
    (hleast : 2 * cs.length + 1 ≤ least)
    (hdepth : least ≤ depth) :
    readValue depth cs = readValue least cs := by
  induction hdepth with
  | refl => rfl
  | @step depth hdepth ih => rw [(enoughAt depth).value cs (Nat.le_trans hleast hdepth), ih]

/-- A document may be read at any depth that is enough for its text. -/
theorem readChars_eq
    {depth : Nat}
    (hdepth : 2 * cs.length + 1 ≤ depth) :
    readChars cs =
      (readValue depth (skipSpacing cs)).bind fun read =>
        if (skipSpacing read.2).isEmpty then some read.1 else none := by
  have hspacing := length_skipSpacing_le cs
  have hall : ∀ other, 2 * cs.length + 1 ≤ other →
      readValue other (skipSpacing cs) =
        readValue (2 * (skipSpacing cs).length + 1) (skipSpacing cs) :=
    fun other hother => readValue_eq_of_le (Nat.le_refl _) (by omega)
  rw [readChars, hall _ (Nat.le_succ _), hall depth hdepth]
  cases readValue (2 * (skipSpacing cs).length + 1) (skipSpacing cs) <;> rfl

end Depths
end Json
end Turnstile
