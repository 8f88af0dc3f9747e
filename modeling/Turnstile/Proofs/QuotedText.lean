import Turnstile.Json.Reader
import Turnstile.Json.Writer

/-!
# Quoted texts

A quoted text reads back as the text, whichever characters are escaped.  A character
beyond the basic plane is escaped as two units, which are joined again because no unit
before them can be taken for the first of a pair.  So do halves of surrogate pairs, of which
none stands before its other half.
-/

namespace Turnstile

/-- A text of nothing but half of a surrogate pair. -/
def HalvedText.loneHalf : HalvedText :=
  ⟨[.high ⟨0, Nat.zero_lt_succ _⟩], rfl, rfl⟩

namespace Json

section Pieces

/-- What a character inside quotes is read as. -/
def piecesOf
    (asciiOnly : Bool)
    (c : Char) : List Piece :=
  if c.toNat < 32 || (asciiOnly && 126 < c.toNat) then
    if ['\n', '\r', '\t', Char.ofNat 12, Char.ofNat 8].contains c then [.char c]
    else if c.toNat < 0x10000 then [.unit c.toNat]
    else
      [.unit (0xD800 + (c.toNat - 0x10000) / 0x400),
        .unit (0xDC00 + (c.toNat - 0x10000) % 0x400)]
  else [.char c]

/-- Pieces in front of what was read. -/
def withPieces
    (pieces : List Piece)
    (read : Option (List Piece × List Char)) : Option (List Piece × List Char) :=
  read.map fun found => (pieces ++ found.1, found.2)

theorem withPiece_eq
    (piece : Piece)
    (read : Option (List Piece × List Char)) :
    withPiece piece read = withPieces [piece] read := by
  cases read with
  | none => rfl
  | some found => rfl

theorem hexDigit?_hexChar : ∀ n, n < 16 → hexDigit? (hexChar n) = some n := by
  decide

theorem readPieces_unitEscape
    {unit : Nat}
    (hunit : unit < 0x10000)
    (rest : List Char) :
    readPieces (unitEscape unit ++ rest) = withPieces [.unit unit] (readPieces rest) := by
  have hcode : hexUnit? (hexChar (unit / 4096 % 16)) (hexChar (unit / 256 % 16))
      (hexChar (unit / 16 % 16)) (hexChar (unit % 16)) = some unit := by
    have hvalue : (unit / 4096 % 16 * 16 + unit / 256 % 16) * 256 + unit / 16 % 16 * 16 +
        unit % 16 = unit := by
      omega
    simp only [hexUnit?, hexDigit?_hexChar _ (Nat.mod_lt _ (by decide : 0 < 16)), Option.bind_some,
      Option.pure_def, Option.bind_eq_bind, hvalue]
  rw [← withPiece_eq]
  simp only [unitEscape, List.cons_append, List.nil_append, readPieces, hcode]

theorem readPieces_plain
    {c : Char}
    (hquote : c ≠ '"')
    (hslash : c ≠ '\\')
    (hcontrol : ¬ c.toNat < 32)
    (rest : List Char) :
    readPieces (c :: rest) = withPieces [.char c] (readPieces rest) := by
  rw [← withPiece_eq, readPieces.eq_def]
  split
  · rename_i heq
    simp at heq
  · rename_i heq
    exact absurd (List.cons.inj heq).1 hquote
  · rename_i heq
    exact absurd (List.cons.inj heq).1 hslash
  · rename_i heq
    exact absurd (List.cons.inj heq).1 hslash
  · rename_i heq
    obtain ⟨rfl, rfl⟩ := List.cons.inj heq
    rw [if_neg hcontrol]

theorem eq_ofNat_of_toNat_eq
    {c : Char}
    {n : Nat}
    (h : c.toNat = n) :
    c = Char.ofNat n := by
  rw [← h, Char.ofNat_toNat]

/-- An escape by code is read as one unit, or two. -/
theorem readPieces_charEscape
    {code : Nat}
    (hcode : code < 0x110000)
    (rest : List Char) :
    readPieces (charEscape code ++ rest) =
      withPieces
        (if code < 0x10000 then [.unit code]
        else
          [.unit (0xD800 + (code - 0x10000) / 0x400), .unit (0xDC00 + (code - 0x10000) % 0x400)])
        (readPieces rest) := by
  unfold charEscape
  by_cases hbasic : code < 0x10000
  · rw [if_pos hbasic, if_pos hbasic, readPieces_unitEscape hbasic]
  · rw [if_neg hbasic, if_neg hbasic, List.append_assoc, readPieces_unitEscape (by omega),
      readPieces_unitEscape (by omega)]
    cases readPieces rest with
    | none => rfl
    | some found => rfl

/-- An escape by a letter is read as the character that it stands for. -/
theorem readPieces_shortEscape
    {letter e : Char}
    (hletter : shortEscape? letter = some e)
    (hunit : letter ≠ 'u')
    (rest : List Char) :
    readPieces (['\\', letter] ++ rest) = withPieces [.char e] (readPieces rest) := by
  rw [← withPiece_eq, readPieces.eq_def]
  split
  · rename_i heq
    simp at heq
  · rename_i heq
    simp at heq
  · rename_i heq
    have hcons := (List.cons.inj heq).2
    exact absurd (List.cons.inj hcons).1 hunit
  · rename_i heq
    have hcons := (List.cons.inj heq).2
    obtain ⟨rfl, rfl⟩ := List.cons.inj hcons
    rw [hletter]
    rfl
  · rename_i hnot heq
    obtain ⟨rfl, rfl⟩ := List.cons.inj heq
    exact absurd rfl (hnot letter rest rfl)

theorem isValidChar_toNat
    (c : Char) :
    c.toNat < 0xD800 ∨ 0xDFFF < c.toNat ∧ c.toNat < 0x110000 :=
  c.valid

/-- A character inside quotes is read as its pieces. -/
theorem readPieces_quotedChar
    (asciiOnly : Bool)
    (c : Char)
    (rest : List Char) :
    readPieces (quotedChar asciiOnly c ++ rest) =
      withPieces (piecesOf asciiOnly c) (readPieces rest) := by
  have hvalid := isValidChar_toNat c
  unfold quotedChar
  by_cases hquote : c = '"'
  · rw [if_pos hquote, hquote, readPieces_shortEscape rfl (by decide)]
    cases asciiOnly <;> rfl
  by_cases hslash : c = '\\'
  · rw [if_neg hquote, if_pos hslash, hslash, readPieces_shortEscape rfl (by decide)]
    cases asciiOnly <;> rfl
  by_cases hnewline : c = '\n'
  · rw [if_neg hquote, if_neg hslash, if_pos hnewline, hnewline,
      readPieces_shortEscape rfl (by decide)]
    rfl
  by_cases hreturn : c = '\r'
  · rw [if_neg hquote, if_neg hslash, if_neg hnewline, if_pos hreturn, hreturn,
      readPieces_shortEscape rfl (by decide)]
    rfl
  by_cases htab : c = '\t'
  · rw [if_neg hquote, if_neg hslash, if_neg hnewline, if_neg hreturn, if_pos htab, htab,
      readPieces_shortEscape rfl (by decide)]
    rfl
  by_cases hfeed : c.toNat = 12
  · rw [if_neg hquote, if_neg hslash, if_neg hnewline, if_neg hreturn, if_neg htab,
      if_pos hfeed, eq_ofNat_of_toNat_eq hfeed, readPieces_shortEscape rfl (by decide)]
    rfl
  by_cases hback : c.toNat = 8
  · rw [if_neg hquote, if_neg hslash, if_neg hnewline, if_neg hreturn, if_neg htab,
      if_neg hfeed, if_pos hback, eq_ofNat_of_toNat_eq hback,
      readPieces_shortEscape rfl (by decide)]
    rfl
  rw [if_neg hquote, if_neg hslash, if_neg hnewline, if_neg hreturn, if_neg htab, if_neg hfeed,
    if_neg hback, piecesOf]
  by_cases hescaped : (decide (c.toNat < 32) || (asciiOnly && decide (126 < c.toNat))) = true
  · have hlong : ['\n', '\r', '\t', Char.ofNat 12, Char.ofNat 8].contains c = false := by
      have hfeed' : c ≠ Char.ofNat 12 := fun h => hfeed (by rw [h]; rfl)
      have hback' : c ≠ Char.ofNat 8 := fun h => hback (by rw [h]; rfl)
      simp [hnewline, hreturn, htab, hfeed', hback']
    rw [if_pos hescaped, if_pos hescaped, hlong, if_neg Bool.false_ne_true,
      readPieces_charEscape (by omega)]
  · have hcontrol : ¬ c.toNat < 32 := by
      intro hlt
      apply hescaped
      rw [decide_eq_true hlt, Bool.true_or]
    rw [if_neg hescaped, if_neg hescaped, List.singleton_append,
      readPieces_plain hquote hslash hcontrol]

/-- What a code point inside quotes is read as. -/
def piecesOfPoint
    (asciiOnly : Bool) : CodePoint → List Piece
  | .char c => piecesOf asciiOnly c
  | p => [.unit p.code]

theorem readPieces_quotedPoint
    (asciiOnly : Bool)
    (p : CodePoint)
    (rest : List Char) :
    readPieces (quotedPoint asciiOnly p ++ rest) =
      withPieces (piecesOfPoint asciiOnly p) (readPieces rest) := by
  cases p with
  | char c => exact readPieces_quotedChar asciiOnly c rest
  | high bits => exact readPieces_unitEscape (by simp only [CodePoint.code]; omega) rest
  | low bits => exact readPieces_unitEscape (by simp only [CodePoint.code]; omega) rest

theorem readPieces_quotedPoints
    (asciiOnly : Bool)
    (points : List CodePoint)
    (rest : List Char) :
    readPieces (points.flatMap (quotedPoint asciiOnly) ++ '"' :: rest) =
      some (points.flatMap (piecesOfPoint asciiOnly), rest) := by
  induction points with
  | nil =>
      simp [readPieces]
  | cons p points ih =>
      rw [List.flatMap_cons, List.append_assoc, readPieces_quotedPoint, ih]
      rfl

end Pieces

section Pairs

theorem ofUnit_toNat
    (c : Char) :
    CodePoint.ofUnit c.toNat = .char c := by
  have hvalid := isValidChar_toNat c
  rw [CodePoint.ofUnit, if_neg (by omega), if_neg (by omega), Char.ofNat_toNat]

theorem ofUnit_high
    (bits : Fin 1024) :
    CodePoint.ofUnit (0xD800 + bits) = .high bits := by
  have hbits : Fin.ofNat 1024 (0xD800 + bits - 0xD800) = bits := by
    rw [Nat.add_sub_cancel_left, Fin.ofNat_val_eq_self]
  rw [CodePoint.ofUnit, if_pos (by omega), hbits]

theorem ofUnit_low
    (bits : Fin 1024) :
    CodePoint.ofUnit (0xDC00 + bits) = .low bits := by
  have hbits : Fin.ofNat 1024 (0xDC00 + bits - 0xDC00) = bits := by
    rw [Nat.add_sub_cancel_left, Fin.ofNat_val_eq_self]
  rw [CodePoint.ofUnit, if_neg (by omega), if_pos (by omega), hbits]

/-- The two units of a character beyond the basic plane are a pair. -/
theorem exists_pair
    {c : Char}
    (hc : ¬ c.toNat < 0x10000) :
    ∃ high low : Fin 1024,
      0xD800 + (c.toNat - 0x10000) / 0x400 = 0xD800 + high ∧
      0xDC00 + (c.toNat - 0x10000) % 0x400 = 0xDC00 + low ∧ CodePoint.pair high low = c := by
  have hvalid := isValidChar_toNat c
  refine ⟨⟨(c.toNat - 0x10000) / 0x400, by omega⟩, ⟨(c.toNat - 0x10000) % 0x400, by omega⟩,
    rfl, rfl, ?_⟩
  have hcode : 0x10000 + (c.toNat - 0x10000) / 0x400 * 0x400 + (c.toNat - 0x10000) % 0x400 =
      c.toNat := by
    omega
  rw [CodePoint.pair, hcode, Char.ofNat_toNat]

/-- A code point is read on its own, or as the two halves of a pair. -/
theorem points_piecesOfPoint
    (asciiOnly : Bool)
    (p : CodePoint) :
    (piecesOfPoint asciiOnly p).map Piece.point = [p] ∨
      ∃ high low, (piecesOfPoint asciiOnly p).map Piece.point = [.high high, .low low] ∧
        p = .char (CodePoint.pair high low) := by
  cases p with
  | high bits => exact .inl (congrArg ([·]) (ofUnit_high bits))
  | low bits => exact .inl (congrArg ([·]) (ofUnit_low bits))
  | char c =>
      rw [piecesOfPoint, piecesOf]
      by_cases hescaped : (decide (c.toNat < 32) || (asciiOnly && decide (126 < c.toNat))) = true
      · rw [if_pos hescaped]
        by_cases hshort : ['\n', '\r', '\t', Char.ofNat 12, Char.ofNat 8].contains c = true
        · rw [if_pos hshort]
          exact .inl rfl
        · rw [if_neg hshort]
          by_cases hbasic : c.toNat < 0x10000
          · rw [if_pos hbasic]
            exact .inl (congrArg ([·]) (ofUnit_toNat c))
          · obtain ⟨high, low, hhigh, hlow, hpair⟩ := exists_pair hbasic
            refine .inr ⟨high, low, ?_, congrArg _ hpair.symm⟩
            rw [if_neg hbasic, hhigh, hlow, List.map_cons, List.map_singleton, Piece.point,
              Piece.point, ofUnit_high, ofUnit_low]
      · rw [if_neg hescaped]
        exact .inl rfl

/-- What code points are read as starts with a low half only if they do. -/
theorem head?_points
    {asciiOnly : Bool}
    {points : List CodePoint}
    {bits : Fin 1024}
    (h : ((points.flatMap (piecesOfPoint asciiOnly)).map Piece.point).head? = some (.low bits)) :
    points.head? = some (.low bits) := by
  cases points with
  | nil =>
      cases h
  | cons p points =>
      rw [List.flatMap_cons, List.map_append] at h
      rcases points_piecesOfPoint asciiOnly p with hpoints | ⟨high, low, hpoints, -⟩
      · rw [hpoints] at h
        exact h
      · rw [hpoints] at h
        cases h

theorem paired_cons_of_ne
    {p : CodePoint}
    {points : List CodePoint}
    (h : ∀ high low more, p = .high high → points ≠ .low low :: more) :
    CodePoint.paired (p :: points) = p :: CodePoint.paired points := by
  rw [CodePoint.paired]
  intro high low more hp hpoints
  exact h high low more hp hpoints

/-- Code points of which no half stands before its other half are read as they are. -/
theorem paired_points
    (asciiOnly : Bool)
    {points : List CodePoint}
    (h : CodePoint.isUnpaired points = true) :
    CodePoint.paired ((points.flatMap (piecesOfPoint asciiOnly)).map Piece.point) = points := by
  induction points with
  | nil =>
      rfl
  | cons p points ih =>
      have hrest : CodePoint.isUnpaired points = true := by
        unfold CodePoint.isUnpaired at h
        split at h
        · cases h
        · rename_i heq
          exact (List.cons.inj heq).2 ▸ h
        · cases ‹p :: points = []›
      rw [List.flatMap_cons, List.map_append]
      rcases points_piecesOfPoint asciiOnly p with hpoints | ⟨high, low, hpoints, hp⟩
      · rw [hpoints, List.singleton_append, paired_cons_of_ne, ih hrest]
        rintro high low more rfl hmore
        have hhead := head?_points (congrArg List.head? hmore)
        obtain ⟨others, rfl⟩ := List.head?_eq_some_iff.mp hhead
        cases h
      · rw [hpoints, hp]
        exact congrArg _ (ih hrest)

end Pairs

section Texts

/-- The code points of a text. -/
def points : Wording → List CodePoint
  | .whole s => s.toList.map .char
  | .halved t => t.points

theorem isUnpaired_map_char
    (cs : List Char) :
    CodePoint.isUnpaired (cs.map .char) = true := by
  induction cs with
  | nil => rfl
  | cons c cs ih => exact ih

theorem chars?_map_char
    (cs : List Char) :
    CodePoint.chars? (cs.map .char) = some cs := by
  induction cs with
  | nil => rfl
  | cons c cs ih =>
      rw [CodePoint.chars?] at ih
      rw [CodePoint.chars?, List.map_cons, List.mapM_cons, ih]
      rfl

theorem isUnpaired_points
    (text : Wording) :
    CodePoint.isUnpaired (points text) = true := by
  cases text with
  | whole s => exact isUnpaired_map_char _
  | halved t => exact t.isUnpaired

/-- Code points that come to those of a text are that text. -/
theorem ofPoints_eq
    {read : List CodePoint}
    {text : Wording}
    (h : CodePoint.paired read = points text) :
    Wording.ofPoints read = text := by
  unfold Wording.ofPoints
  cases text with
  | whole s =>
      have hchars : CodePoint.chars? (CodePoint.paired read) = some s.toList := by
        rw [h]
        exact chars?_map_char _
      split
      · rename_i cs hcs
        rw [hchars] at hcs
        rw [← Option.some.inj hcs, String.ofList_toList]
      · rename_i hnone
        rw [hchars] at hnone
        cases hnone
  | halved t =>
      have hnone : CodePoint.chars? (CodePoint.paired read) = none := by
        rw [h]
        exact t.hasHalf
      split
      · rename_i cs hcs
        rw [hnone] at hcs
        cases hcs
      · exact congrArg Wording.halved (by cases t; simp only [HalvedText.mk.injEq]; exact h)

/-- A text in quotes. -/
def quotedWording
    (asciiOnly : Bool) : Wording → String
  | .whole s => quoted asciiOnly s
  | .halved t => quotedHalved asciiOnly t

theorem writeAt_ofWording
    (layout : Layout)
    (depth : Nat)
    (text : Wording) :
    writeAt layout depth (ofWording text) = quotedWording layout.asciiOnly text := by
  cases text with
  | whole s => rw [ofWording, writeAt, quotedWording]
  | halved t => rw [ofWording, writeAt, quotedWording]

theorem toList_quotedWording
    (asciiOnly : Bool)
    (text : Wording) :
    (quotedWording asciiOnly text).toList =
      '"' :: ((points text).flatMap (quotedPoint asciiOnly) ++ ['"']) := by
  cases text with
  | whole s => simp [quotedWording, quoted, points, List.flatMap_map, quotedPoint]
  | halved t => simp [quotedWording, quotedHalved, points]

/-- A quoted text reads back, up to its closing quote. -/
theorem readString_quotedWording
    (asciiOnly : Bool)
    (text : Wording)
    (rest : List Char) :
    ∃ body, (quotedWording asciiOnly text).toList = '"' :: body ∧
      readString (body ++ rest) = some (text, rest) := by
  refine ⟨_, toList_quotedWording asciiOnly text, ?_⟩
  rw [List.append_assoc, List.singleton_append, readString, readPieces_quotedPoints]
  exact congrArg (fun t => some (t, rest))
    (ofPoints_eq (paired_points asciiOnly (isUnpaired_points text)))

end Texts

end Json
end Turnstile
