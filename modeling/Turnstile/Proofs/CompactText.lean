import Turnstile.Proofs.NumberText
import Turnstile.Proofs.OperatorLaws
import Turnstile.Proofs.QuotedText

/-!
# Compact texts tell values apart

No two JSON values have one compact text.  The reason is that the text of a value can be
split off from whatever follows it: the first character tells the kind of the value, a
quoted text ends at its closing quote, a number at the first character that does not
continue it, and the texts of items and members are separated by commas and closed by a
bracket, none of which continues a number.

**Results.**
* `compactText_array`, `compactText_object`: the format.
* `splitsOff_compactText`: the text of a value can be split off.
* `write_compact_inj`: no two values have one text.
* `comparisonText_eq_write_iff`: what has the text of an array or an object.
* `structures_match_by_structure`: arrays and objects as literals.
-/

namespace Turnstile
namespace Json

section Splitting

variable {α : Type} {text : α → List Char} {close : Char} {rest rest' : List Char}

/-- The text of an element can be split off from what does not continue a number. -/
def SplitsOff
    (text : α → List Char)
    (x : α) : Prop :=
  ∀ y rest rest', EndsNumber rest → EndsNumber rest' →
    text x ++ rest = text y ++ rest' → x = y ∧ rest = rest'

/-- The texts of further elements, each after a comma. -/
def commaText
    (text : α → List Char)
    (xs : List α) : List Char :=
  xs.flatMap fun x => ',' :: text x

/-- The texts of elements with commas between them. -/
def joinedText
    (text : α → List Char) : List α → List Char
  | [] => []
  | x :: xs => text x ++ commaText text xs

/-- A closing bracket does not continue a number. -/
theorem endsNumber_bracket
    (hclose : close = ']' ∨ close = '\x7d') :
    EndsNumber [close] := by
  rcases hclose with rfl | rfl
  · exact ⟨by decide, by decide, by decide, by decide⟩
  · exact ⟨by decide, by decide, by decide, by decide⟩

theorem endsNumber_commaText
    (hclose : EndsNumber [close])
    (xs : List α)
    (rest : List Char) :
    EndsNumber (commaText text xs ++ close :: rest) := by
  cases xs with
  | nil => exact hclose
  | cons x xs => exact ⟨by decide, by decide, by decide, by decide⟩

/-- Further elements can be split off at the bracket that closes them. -/
theorem commaText_inj
    (hclose : EndsNumber [close])
    (hcomma : close ≠ ',')
    {xs ys : List α}
    (hxs : ∀ x ∈ xs, SplitsOff text x)
    (h : commaText text xs ++ close :: rest = commaText text ys ++ close :: rest') :
    xs = ys ∧ rest = rest' := by
  induction xs generalizing ys with
  | nil =>
      cases ys with
      | nil => exact ⟨rfl, (List.cons.inj h).2⟩
      | cons y ys => exact absurd (List.cons.inj h).1 hcomma
  | cons x xs ih =>
      cases ys with
      | nil => exact absurd (List.cons.inj h).1.symm hcomma
      | cons y ys =>
          rw [List.forall_mem_cons] at hxs
          simp only [commaText, List.flatMap_cons, List.cons_append, List.append_assoc,
            List.cons.injEq, true_and] at h
          obtain ⟨rfl, hmore⟩ := hxs.1 y _ _ (endsNumber_commaText hclose xs rest)
            (endsNumber_commaText hclose ys rest') h
          obtain ⟨rfl, hrest⟩ := ih hxs.2 hmore
          exact ⟨rfl, hrest⟩

/-- Elements can be split off at the bracket that closes them. -/
theorem joinedText_inj
    (hclose : EndsNumber [close])
    (hcomma : close ≠ ',')
    (hhead : ∀ x rest, (text x ++ rest).head? ≠ some close)
    {xs ys : List α}
    (hxs : ∀ x ∈ xs, SplitsOff text x)
    (h : joinedText text xs ++ close :: rest = joinedText text ys ++ close :: rest') :
    xs = ys ∧ rest = rest' := by
  cases xs with
  | nil =>
      cases ys with
      | nil => exact ⟨rfl, (List.cons.inj h).2⟩
      | cons y ys =>
          rw [joinedText, joinedText, List.append_assoc] at h
          exact absurd (congrArg List.head? h).symm (hhead y _)
  | cons x xs =>
      cases ys with
      | nil =>
          rw [joinedText, joinedText, List.append_assoc] at h
          exact absurd (congrArg List.head? h) (hhead x _)
      | cons y ys =>
          rw [List.forall_mem_cons] at hxs
          simp only [joinedText, List.append_assoc] at h
          obtain ⟨rfl, hmore⟩ := hxs.1 y _ _ (endsNumber_commaText hclose xs rest)
            (endsNumber_commaText hclose ys rest') h
          obtain ⟨rfl, hrest⟩ := commaText_inj hclose hcomma hxs.2 hmore
          exact ⟨rfl, hrest⟩

end Splitting

section Format

@[simp] theorem lineBreak_compact
    (depth : Nat) :
    Layout.compact.lineBreak depth = "" :=
  rfl

@[simp] theorem itemSeparator_compact : Layout.compact.itemSeparator = "," :=
  rfl

@[simp] theorem nameSeparator_compact : Layout.compact.nameSeparator = ":" :=
  rfl

@[simp] theorem asciiOnly_compact : Layout.compact.asciiOnly = true :=
  rfl

/-- The compact text of a value inside brackets. -/
def compactText
    (depth : Nat)
    (v : Json) : List Char :=
  (writeAt .compact depth v).toList

/-- The name and the value by which a member is written. -/
def entry : String × Json → Wording × Json
  | (name, .misnamed t value) =>
      if name = t.label then (.halved t, value) else (.whole name, .misnamed t value)
  | (name, value) => (.whole name, value)

/-- The compact text of a member: its quoted name, a colon and its value. -/
def compactMember
    (depth : Nat)
    (member : String × Json) : List Char :=
  (quotedWording true (entry member).1).toList ++ ':' :: compactText depth (entry member).2

/-- A wrapped value is written as a member is, after a mark. -/
theorem compactText_misnamed
    (depth : Nat)
    (name : HalvedText)
    (value : Json) :
    compactText depth (.misnamed name value) =
      '!' :: ((quotedHalved true name).toList ++ ':' :: compactText depth value) := by
  simp [compactText, writeAt, misplacedMark]

theorem toList_memberWith
    (depth : Nat)
    (member : String × Json) :
    (memberWith .compact member.1 member.2 (writeAt .compact depth member.2)).toList =
      compactMember depth member := by
  obtain ⟨name, value⟩ := member
  cases value with
  | misnamed t value =>
      rw [compactMember, entry]
      by_cases hname : name = t.label
      · have hmark : misplacedMark.toList.length = misplacedMark.length := rfl
        simp only [memberWith, hname, if_true, quotedWording, String.toList_ofList, writeAt,
          String.toList_append, List.append_assoc, ← hmark, List.drop_left]
        rfl
      · simp [memberWith, hname, quotedWording, compactText]
  | _ => simp [memberWith, compactMember, entry, quotedWording, compactText]

/-- Members that are written alike are alike. -/
theorem entry_inj
    {member other : String × Json}
    (h : entry member = entry other) :
    member = other := by
  have hnamed : ∀ member : String × Json, named (entry member).1 (entry member).2 = member := by
    rintro ⟨name, value⟩
    cases value with
    | misnamed t value =>
        rw [entry]
        split
        · rename_i hname
          rw [hname]
          rfl
        · rfl
    | _ => rfl
  rw [← hnamed member, h, hnamed]

theorem toList_writeItems
    (depth : Nat)
    (items : List Json) :
    (writeItems .compact depth items).toList = commaText (compactText depth) items := by
  induction items with
  | nil =>
      rfl
  | cons item items ih =>
      simp [writeItems, ih, commaText, compactText]

theorem toList_writeMembers
    (depth : Nat)
    (members : Members Json) :
    (writeMembers .compact depth members).toList = commaText (compactMember depth) members := by
  induction members with
  | nil =>
      rfl
  | cons member members ih =>
      simp [writeMembers, ih, commaText, toList_memberWith]

/-- An array is written as its items with commas between them, in brackets. -/
theorem compactText_array
    (depth : Nat)
    (items : List Json) :
    compactText depth (.array items) =
      '[' :: joinedText (compactText (depth + 1)) items ++ [']'] := by
  cases items with
  | nil => simp [compactText, writeAt, joinedText]
  | cons item items => simp [compactText, writeAt, joinedText, toList_writeItems]

/-- An object is written as its members with commas between them, in braces. -/
theorem compactText_object
    (depth : Nat)
    (members : Members Json) :
    compactText depth (.object members) =
      '{' :: joinedText (compactMember (depth + 1)) members ++ ['}'] := by
  cases members with
  | nil => simp [compactText, writeAt, joinedText]
  | cons member members =>
      simp [compactText, writeAt, joinedText, toList_memberWith, toList_writeMembers]

end Format

section Kinds

/-- What the first character of a text tells of a value. -/
inductive Kind where
  | null
  | truth (b : Bool)
  | number
  | string
  | array
  | object
  | wrapped

/-- The kind of value whose text starts with a character. -/
def Kind.ofChar? : Char → Option Kind
  | 'n' => some .null
  | 't' => some (.truth true)
  | 'f' => some (.truth false)
  | '"' => some .string
  | '[' => some .array
  | '{' => some .object
  | '!' => some .wrapped
  | '-' | 'N' | 'I' => some .number
  | c => if isDecimal c then some .number else none

/-- The kind of a value. -/
def kind : Json → Kind
  | .null => .null
  | .bool b => .truth b
  | .int _ | .float _ => .number
  | .string _ | .halved _ => .string
  | .array _ => .array
  | .object _ => .object
  | .misnamed .. => .wrapped

theorem Kind.ofChar?_of_isDecimal
    {c : Char}
    (hc : isDecimal c = true) :
    ofChar? c = some .number := by
  have hne : ∀ letter, isDecimal letter = false → c ≠ letter := by
    rintro letter hletter rfl
    rw [hc] at hletter
    simp at hletter
  unfold ofChar?
  split
  case h_11 => rw [if_pos hc]
  all_goals first | rfl | exact absurd rfl (hne _ (by decide))

/-- A number starts with a digit after its sign. -/
theorem kind_of_signText
    (negative : Bool)
    {c : Char}
    (hc : isDecimal c = true)
    (more : List Char) :
    (signText negative ++ c :: more).head?.bind Kind.ofChar? = some .number := by
  cases negative with
  | false => exact Kind.ofChar?_of_isDecimal hc
  | true => rfl

theorem kind_of_toString_int
    (n : Int)
    (rest : List Char) :
    ((toString n).toList ++ rest).head?.bind Kind.ofChar? = some .number := by
  have hwhole := isWhole_toDigits n.natAbs
  obtain ⟨c, more, hdigits⟩ := List.exists_cons_of_ne_nil hwhole.ne_nil
  have hc : isDecimal c = true := hwhole.digits c (by rw [hdigits]; exact List.mem_cons_self)
  rw [toList_toString_int, hdigits, List.append_assoc]
  exact kind_of_signText _ hc _

theorem kind_of_numberText
    (x : Double)
    (rest : List Char) :
    ((numberText x).toList ++ rest).head?.bind Kind.ofChar? = some .number := by
  cases x with
  | nan => rfl
  | infinite negative => cases negative <;> rfl
  | finite negative units h =>
      have hread : readUnsigned negative ((Double.magnitudeText units).toList ++ []) = _ :=
        readUnsigned_magnitudeText negative h trivial
      obtain ⟨c, more, htext, hc⟩ := exists_digit_of_readUnsigned hread
      rw [List.append_nil] at htext
      rw [toList_numberText_finite, htext, List.append_assoc]
      exact kind_of_signText negative hc _

/-- The first character of a text tells the kind of the value. -/
theorem kind_of_compactText
    (depth : Nat)
    (v : Json)
    (rest : List Char) :
    (compactText depth v ++ rest).head?.bind Kind.ofChar? = some v.kind := by
  cases v with
  | null => simp [compactText, writeAt, kind, Kind.ofChar?]
  | bool b => cases b <;> simp [compactText, writeAt, kind, Kind.ofChar?]
  | int n =>
      rw [compactText, writeAt]
      exact kind_of_toString_int n rest
  | float x =>
      rw [compactText, writeAt]
      exact kind_of_numberText x rest
  | string s => simp [compactText, writeAt, quoted, kind, Kind.ofChar?]
  | halved t => simp [compactText, writeAt, quotedHalved, kind, Kind.ofChar?]
  | misnamed name value => simp [compactText_misnamed, kind, Kind.ofChar?]
  | array items => simp [compactText_array, kind, Kind.ofChar?]
  | object members => simp [compactText_object, kind, Kind.ofChar?]

end Kinds

section Scalars

variable {rest rest' : List Char}

theorem toDigits_append_inj
    {m n : Nat}
    (hrest : EndsNumber rest)
    (hrest' : EndsNumber rest')
    (h : Nat.toDigits 10 m ++ rest = Nat.toDigits 10 n ++ rest') :
    m = n ∧ rest = rest' := by
  have hdigits := congrArg (List.takeWhile isDecimal) h
  have hmore := congrArg (List.dropWhile isDecimal) h
  rw [takeWhile_digits (areDigits_toDigits m) hrest.startsNoDigit,
    takeWhile_digits (areDigits_toDigits n) hrest'.startsNoDigit] at hdigits
  rw [dropWhile_digits (areDigits_toDigits m) hrest.startsNoDigit,
    dropWhile_digits (areDigits_toDigits n) hrest'.startsNoDigit] at hmore
  have hvalue := congrArg digitsValue hdigits
  rw [digitsValue_toDigits, digitsValue_toDigits] at hvalue
  exact ⟨hvalue, hmore⟩

/-- An integer ends where its digits end. -/
theorem toString_int_append_inj
    {m n : Int}
    (hrest : EndsNumber rest)
    (hrest' : EndsNumber rest')
    (h : (toString m).toList ++ rest = (toString n).toList ++ rest') :
    m = n ∧ rest = rest' := by
  have hsign : ∀ k more, (Nat.toDigits 10 k ++ more).head? ≠ some '-' := by
    intro k more hhead
    obtain ⟨c, digits, hdigits⟩ := List.exists_cons_of_ne_nil (isWhole_toDigits k).ne_nil
    have hc := areDigits_toDigits k c (by rw [hdigits]; exact List.mem_cons_self)
    rw [hdigits] at hhead
    obtain rfl : c = '-' := Option.some.inj hhead
    exact absurd hc (by decide)
  rw [toList_toString_int, toList_toString_int, List.append_assoc, List.append_assoc] at h
  by_cases hm : m < 0
  · by_cases hn : n < 0
    · simp only [signText, hm, hn, decide_true, if_true, List.cons_append, List.nil_append,
        List.cons.injEq, true_and] at h
      obtain ⟨habs, hmore⟩ := toDigits_append_inj hrest hrest' h
      exact ⟨by omega, hmore⟩
    · simp only [signText, hm, hn, decide_true, decide_false, if_true, List.cons_append,
        List.nil_append] at h
      exact absurd (congrArg List.head? h).symm (hsign _ _)
  · by_cases hn : n < 0
    · simp only [signText, hm, hn, decide_true, decide_false, if_true, List.cons_append,
        List.nil_append] at h
      exact absurd (congrArg List.head? h) (hsign _ _)
    · simp only [signText, hm, hn, decide_false] at h
      obtain ⟨habs, hmore⟩ := toDigits_append_inj hrest hrest' h
      exact ⟨by omega, hmore⟩

/-- No integer has the text of a double. -/
theorem toString_int_append_ne
    {n : Int}
    {x : Double}
    (hrest : EndsNumber rest)
    (hrest' : EndsNumber rest') :
    (toString n).toList ++ rest ≠ (numberText x).toList ++ rest' := by
  intro h
  have hread := readScalar_int_eq n hrest
  rw [h, readScalar_double x hrest'] at hread
  split at hread
  · cases hread
  · cases hread

theorem numberText_append_inj
    {x y : Double}
    (hrest : EndsNumber rest)
    (hrest' : EndsNumber rest')
    (h : (numberText x).toList ++ rest = (numberText y).toList ++ rest') :
    x = y ∧ rest = rest' := by
  have hread := readScalar_double x hrest
  rw [h, readScalar_double y hrest', Option.some.injEq, Prod.mk.injEq, Json.float.injEq] at hread
  exact ⟨hread.1.symm, hread.2.symm⟩

/-- A quoted text ends at its closing quote. -/
theorem quotedWording_append_inj
    {asciiOnly : Bool}
    {s t : Wording}
    (h : (quotedWording asciiOnly s).toList ++ rest = (quotedWording asciiOnly t).toList ++ rest') :
    s = t ∧ rest = rest' := by
  obtain ⟨body, hbody, hread⟩ := readString_quotedWording asciiOnly s rest
  obtain ⟨body', hbody', hread'⟩ := readString_quotedWording asciiOnly t rest'
  rw [hbody, hbody', List.cons_append, List.cons_append, List.cons.injEq] at h
  rw [h.2, hread', Option.some.injEq, Prod.mk.injEq] at hread
  exact ⟨hread.1.symm, hread.2.symm⟩

end Scalars

section Ascii

/-- Only characters of ASCII. -/
def AreAscii
    (cs : List Char) : Prop :=
  ∀ c ∈ cs, c.toNat < 128

@[simp] theorem areAscii_nil : AreAscii [] :=
  nofun

@[simp] theorem areAscii_cons_iff
    {c : Char}
    {cs : List Char} :
    AreAscii (c :: cs) ↔ c.toNat < 128 ∧ AreAscii cs :=
  List.forall_mem_cons

@[simp] theorem areAscii_append_iff
    {left right : List Char} :
    AreAscii (left ++ right) ↔ AreAscii left ∧ AreAscii right :=
  List.forall_mem_append

theorem areAscii_flatMap
    {α : Type}
    {text : α → List Char}
    {xs : List α}
    (h : ∀ x ∈ xs, AreAscii (text x)) :
    AreAscii (xs.flatMap text) := by
  intro c hc
  obtain ⟨x, hx, hmem⟩ := List.mem_flatMap.mp hc
  exact h x hx c hmem

theorem areAscii_of_areDigits
    {cs : List Char}
    (h : AreDigits cs) :
    AreAscii cs := by
  intro c hc
  have hdigit := h c hc
  rw [isDecimal, Bool.and_eq_true, decide_eq_true_eq, decide_eq_true_eq] at hdigit
  exact Nat.lt_of_le_of_lt (UInt32.le_iff_toNat_le.mp hdigit.2) (by decide)

theorem areAscii_toString_int
    (n : Int) :
    AreAscii (toString n).toList := by
  rw [toList_toString_int, areAscii_append_iff, signText]
  refine ⟨?_, areAscii_of_areDigits (areDigits_toDigits _)⟩
  split
  · simp
  · simp

theorem areAscii_layout
    {digits : List Char}
    (hdigits : AreDigits digits)
    (point : Int) :
    AreAscii (Double.layout digits point).toList := by
  have hzeros : ∀ n, AreAscii (List.replicate n '0') := fun n =>
    areAscii_of_areDigits (areDigits_zeros n)
  have htake : ∀ n, AreAscii (digits.take n) := fun n =>
    areAscii_of_areDigits fun c hc => hdigits c (List.mem_of_mem_take hc)
  have hdrop : ∀ n, AreAscii (digits.drop n) := fun n =>
    areAscii_of_areDigits fun c hc => hdigits c (List.mem_of_mem_drop hc)
  have htail : AreAscii digits.tail := by
    simpa using hdrop 1
  have hexponent : ∀ e, AreAscii (Double.exponentText e).toList := fun e =>
    areAscii_of_areDigits (exponentText_spec e).1
  unfold Double.layout
  simp only
  split_ifs <;> simp [areAscii_of_areDigits hdigits, hzeros, htake, hdrop, htail, hexponent]

theorem areAscii_numberText
    (x : Double) :
    AreAscii (numberText x).toList := by
  cases x with
  | nan => simp [numberText]
  | infinite negative => cases negative <;> simp [numberText]
  | finite negative units h =>
      rw [toList_numberText_finite, areAscii_append_iff, signText]
      refine ⟨by cases negative <;> simp, ?_⟩
      unfold Double.magnitudeText
      split
      · simp
      · refine areAscii_layout (fun c hc => ?_) _
        obtain ⟨zeros, htrim⟩ := exists_trimZeros (toString (Double.shortest units).digits).toList
        have hmem := htrim.symm ▸ List.mem_append_left (List.replicate zeros '0') hc
        exact areDigits_toDigits (Double.shortest units).digits c (by simpa using hmem)

theorem areAscii_unitEscape
    (unit : Nat) :
    AreAscii (unitEscape unit) := by
  have hhex : ∀ n, n < 16 → (hexChar n).toNat < 128 := by decide
  have hmod : ∀ n, (hexChar (n % 16)).toNat < 128 := fun n => hhex _ (Nat.mod_lt n (by decide))
  simp [unitEscape, hmod]

theorem areAscii_quotedChar
    (c : Char) :
    AreAscii (quotedChar true c) := by
  unfold quotedChar
  split_ifs with h1 h2 h3 h4 h5 h6 h7 h8
  · simp
  · simp
  · simp
  · simp
  · simp
  · simp
  · simp
  · unfold charEscape
    split_ifs <;> simp [areAscii_unitEscape]
  · simp only [Bool.true_and, Bool.or_eq_true, decide_eq_true_eq, not_or, not_lt] at h8
    simp only [areAscii_cons_iff, areAscii_nil, and_true]
    omega

theorem areAscii_quotedWording
    (text : Wording) :
    AreAscii (quotedWording true text).toList := by
  have hpoint : ∀ p, AreAscii (quotedPoint true p)
    | .char c => areAscii_quotedChar c
    | .high _ => areAscii_unitEscape _
    | .low _ => areAscii_unitEscape _
  rw [toList_quotedWording]
  simp [areAscii_flatMap fun p _ => hpoint p]

theorem areAscii_joinedText
    {α : Type}
    {text : α → List Char}
    {xs : List α}
    (h : ∀ x ∈ xs, AreAscii (text x)) :
    AreAscii (joinedText text xs) := by
  cases xs with
  | nil => exact areAscii_nil
  | cons x xs =>
      rw [List.forall_mem_cons] at h
      rw [joinedText, areAscii_append_iff]
      exact ⟨h.1, areAscii_flatMap fun other hother => by simpa using h.2 other hother⟩

theorem areAscii_compactMember
    {depth : Nat}
    {member : String × Json}
    (hvalue : AreAscii (compactText depth member.2)) :
    AreAscii (compactMember depth member) := by
  obtain ⟨name, value⟩ := member
  have hentry : AreAscii (compactText depth (entry (name, value)).2) := by
    cases value with
    | misnamed t value =>
        rw [entry]
        split
        · simp only [compactText_misnamed, areAscii_cons_iff, areAscii_append_iff] at hvalue
          exact hvalue.2.2.2
        · exact hvalue
    | _ => exact hvalue
  rw [compactMember, areAscii_append_iff, areAscii_cons_iff]
  exact ⟨areAscii_quotedWording _, by decide, hentry⟩

/-- The compact text of a value is of ASCII. -/
theorem areAscii_compactText
    (v : Json)
    (depth : Nat) :
    AreAscii (compactText depth v) := by
  have htext : ∀ depth text, AreAscii (compactText depth (ofWording text)) := by
    intro depth text
    rw [compactText, writeAt_ofWording]
    exact areAscii_quotedWording text
  induction v using Json.induction generalizing depth with
  | null => simp [compactText, writeAt]
  | bool b => cases b <;> simp [compactText, writeAt]
  | int n =>
      rw [compactText, writeAt]
      exact areAscii_toString_int n
  | float x =>
      rw [compactText, writeAt]
      exact areAscii_numberText x
  | string s => exact htext depth (.whole s)
  | halved t => exact htext depth (.halved t)
  | array items ih =>
      simp [compactText_array, areAscii_joinedText fun item hitem => ih item hitem (depth + 1)]
  | object members ih =>
      have hmembers := areAscii_joinedText fun member hmember =>
        areAscii_compactMember (ih member hmember (depth + 1))
      simp [compactText_object, hmembers]
  | misnamed name value ih =>
      have hname : AreAscii (quotedHalved true name).toList :=
        areAscii_quotedWording (.halved name)
      simp [compactText_misnamed, ih, hname]

end Ascii

section Values

variable {rest rest' : List Char}

/-- A member can be split off if the value that is written for it can. -/
theorem splitsOff_compactMember
    {depth : Nat}
    {member : String × Json}
    (hvalue : SplitsOff (compactText depth) (entry member).2) :
    SplitsOff (compactMember depth) member := by
  intro other rest rest' hrest hrest' h
  simp only [compactMember, List.append_assoc, List.cons_append] at h
  obtain ⟨hname, hafter⟩ := quotedWording_append_inj h
  obtain ⟨hvalues, hmore⟩ := hvalue _ rest rest' hrest hrest' (List.cons.inj hafter).2
  exact ⟨entry_inj (Prod.ext hname hvalues), hmore⟩

/-- Equal texts start alike, so they are of values of one kind. -/
theorem kind_eq_of_compactText
    {depth : Nat}
    {v w : Json}
    (h : compactText depth v ++ rest = compactText depth w ++ rest') :
    v.kind = w.kind := by
  have hkind := congrArg (fun cs => cs.head?.bind Kind.ofChar?) h
  simp only [kind_of_compactText] at hkind
  exact Option.some.inj hkind

/-- No text of a value starts with a closing bracket. -/
theorem head?_compactText_ne
    {c : Char}
    (hc : Kind.ofChar? c = none)
    (depth : Nat)
    (v : Json)
    (rest : List Char) :
    (compactText depth v ++ rest).head? ≠ some c := by
  intro hhead
  have hkind := kind_of_compactText depth v rest
  rw [hhead, Option.bind_some, hc] at hkind
  cases hkind

/-- A text can be split off if it can among the texts of values of the same kind. -/
theorem splitsOff_of_kind
    {depth : Nat}
    {v : Json}
    (h : ∀ w rest rest', EndsNumber rest → EndsNumber rest' → v.kind = w.kind →
      compactText depth v ++ rest = compactText depth w ++ rest' → v = w ∧ rest = rest') :
    SplitsOff (compactText depth) v :=
  fun w rest rest' hrest hrest' htext =>
    h w rest rest' hrest hrest' (kind_eq_of_compactText htext) htext

theorem splitsOff_null
    (depth : Nat) :
    SplitsOff (compactText depth) .null := by
  apply splitsOff_of_kind
  intro w rest rest' _ _ hkind h
  cases w with
  | null => exact ⟨rfl, List.append_cancel_left h⟩
  | _ => simp [kind] at hkind

theorem splitsOff_bool
    (depth : Nat)
    (b : Bool) :
    SplitsOff (compactText depth) (.bool b) := by
  apply splitsOff_of_kind
  intro w rest rest' _ _ hkind h
  cases w with
  | bool b' =>
      obtain rfl : b = b' := Kind.truth.inj hkind
      exact ⟨rfl, List.append_cancel_left h⟩
  | _ => simp [kind] at hkind

theorem splitsOff_int
    (depth : Nat)
    (n : Int) :
    SplitsOff (compactText depth) (.int n) := by
  apply splitsOff_of_kind
  intro w rest rest' hrest hrest' hkind h
  cases w with
  | int m =>
      simp only [compactText, writeAt] at h
      obtain ⟨rfl, hmore⟩ := toString_int_append_inj hrest hrest' h
      exact ⟨rfl, hmore⟩
  | float x =>
      simp only [compactText, writeAt] at h
      exact absurd h (toString_int_append_ne hrest hrest')
  | _ => simp [kind] at hkind

theorem splitsOff_float
    (depth : Nat)
    (x : Double) :
    SplitsOff (compactText depth) (.float x) := by
  apply splitsOff_of_kind
  intro w rest rest' hrest hrest' hkind h
  cases w with
  | int m =>
      simp only [compactText, writeAt] at h
      exact absurd h.symm (toString_int_append_ne hrest' hrest)
  | float y =>
      simp only [compactText, writeAt] at h
      obtain ⟨rfl, hmore⟩ := numberText_append_inj hrest hrest' h
      exact ⟨rfl, hmore⟩
  | _ => simp [kind] at hkind

theorem splitsOff_ofWording
    (depth : Nat)
    (text : Wording) :
    SplitsOff (compactText depth) (ofWording text) := by
  apply splitsOff_of_kind
  intro w rest rest' _ _ hkind h
  have hw : ∃ text', w = ofWording text' := by
    cases w with
    | string s => exact ⟨.whole s, rfl⟩
    | halved t => exact ⟨.halved t, rfl⟩
    | _ => cases text <;> simp [kind, ofWording] at hkind
  obtain ⟨text', rfl⟩ := hw
  simp only [compactText, writeAt_ofWording] at h
  obtain ⟨rfl, hmore⟩ := quotedWording_append_inj h
  exact ⟨rfl, hmore⟩

/-- A wrapped value can be split off iff the value can. -/
theorem splitsOff_misnamed_iff
    {depth : Nat}
    {name : HalvedText}
    {value : Json} :
    SplitsOff (compactText depth) (.misnamed name value) ↔ SplitsOff (compactText depth) value := by
  constructor
  · intro hwrapped w rest rest' hrest hrest' h
    obtain ⟨heq, hmore⟩ := hwrapped (.misnamed name w) rest rest' hrest hrest' (by
      simp only [compactText_misnamed, List.cons_append, List.append_assoc, h])
    exact ⟨(misnamed.inj heq).2, hmore⟩
  · intro hvalue
    apply splitsOff_of_kind
    intro w rest rest' hrest hrest' hkind h
    cases w with
    | misnamed name' w =>
        simp only [compactText_misnamed, List.cons_append, List.append_assoc, List.cons.injEq,
          true_and] at h
        obtain ⟨hname, hafter⟩ :=
          quotedWording_append_inj (s := .halved name) (t := .halved name') h
        obtain ⟨rfl, hmore⟩ := hvalue w rest rest' hrest hrest' (List.cons.inj hafter).2
        exact ⟨congrArg (misnamed · value) (Wording.halved.inj hname), hmore⟩
    | _ => simp [kind] at hkind

/-- An array can be split off if its items can. -/
theorem splitsOff_array
    {depth : Nat}
    {items : List Json}
    (hitems : ∀ item ∈ items, SplitsOff (compactText (depth + 1)) item) :
    SplitsOff (compactText depth) (.array items) := by
  apply splitsOff_of_kind
  intro w rest rest' _ _ hkind h
  cases w with
  | array items' =>
      simp only [compactText_array, List.cons_append, List.append_assoc, List.nil_append,
        List.cons.injEq, true_and] at h
      obtain ⟨rfl, hmore⟩ := joinedText_inj (endsNumber_bracket (.inl rfl)) (by decide)
        (head?_compactText_ne (by decide) (depth + 1)) hitems h
      exact ⟨rfl, hmore⟩
  | _ => simp [kind] at hkind

theorem splitsOff_entry
    {depth : Nat}
    {member : String × Json}
    (hvalue : SplitsOff (compactText depth) member.2) :
    SplitsOff (compactText depth) (entry member).2 := by
  obtain ⟨name, value⟩ := member
  cases value with
  | misnamed t value =>
      rw [entry]
      split
      · exact splitsOff_misnamed_iff.mp hvalue
      · exact hvalue
  | _ => exact hvalue

/-- An object can be split off if the values of its members can. -/
theorem splitsOff_object
    {depth : Nat}
    {members : Members Json}
    (hvalues : ∀ member ∈ members, SplitsOff (compactText (depth + 1)) member.2) :
    SplitsOff (compactText depth) (.object members) := by
  apply splitsOff_of_kind
  intro w rest rest' _ _ hkind h
  cases w with
  | object members' =>
      simp only [compactText_object, List.cons_append, List.append_assoc, List.nil_append,
        List.cons.injEq, true_and] at h
      obtain ⟨rfl, hmore⟩ := joinedText_inj (endsNumber_bracket (.inr rfl)) (by decide)
        (fun member more => by simp [compactMember, toList_quotedWording])
        (fun member hmember => splitsOff_compactMember (splitsOff_entry (hvalues member hmember))) h
      exact ⟨rfl, hmore⟩
  | _ => simp [kind] at hkind

/-- The text of every value can be split off. -/
theorem splitsOff_compactText
    (v : Json)
    (depth : Nat) :
    SplitsOff (compactText depth) v := by
  induction v using Json.induction generalizing depth with
  | null => exact splitsOff_null depth
  | bool b => exact splitsOff_bool depth b
  | int n => exact splitsOff_int depth n
  | float x => exact splitsOff_float depth x
  | string s => exact splitsOff_ofWording depth (.whole s)
  | halved t => exact splitsOff_ofWording depth (.halved t)
  | array items ih => exact splitsOff_array fun item hitem => ih item hitem (depth + 1)
  | object members ih => exact splitsOff_object fun member hmember => ih member hmember (depth + 1)
  | misnamed name value ih => exact splitsOff_misnamed_iff.mpr (ih depth)

/-- No two values have one compact text. -/
theorem write_compact_inj
    {v w : Json}
    (h : write .compact v = write .compact w) :
    v = w := by
  refine (splitsOff_compactText v 0 w [] [] trivial trivial ?_).1
  rw [compactText, compactText, ← write, ← write, h]

end Values

end Json

namespace Rule

open Json (write)

section Structures

/-- A text starts with an opening bracket. -/
def OpensBracket
    (s : String) : Prop :=
  s.toList.head?.bind Json.Kind.ofChar? = some .array ∨
    s.toList.head?.bind Json.Kind.ofChar? = some .object

theorem IsStructure.opensBracket
    {v : Json}
    (hv : IsStructure v) :
    OpensBracket (write .compact v) := by
  have hkind := Json.kind_of_compactText 0 v []
  rw [List.append_nil] at hkind
  cases hv with
  | array items => exact .inl hkind
  | object members => exact .inr hkind

theorem not_opensBracket_toString_int
    (n : Int) :
    ¬ OpensBracket (toString n) := by
  have hkind := Json.kind_of_toString_int n []
  rw [List.append_nil] at hkind
  rw [OpensBracket, hkind]
  simp

theorem not_opensBracket_text
    (x : Double) :
    ¬ OpensBracket x.text := by
  cases x with
  | nan => simp [OpensBracket, Double.text, Json.Kind.ofChar?]
  | infinite negative => cases negative <;> simp [OpensBracket, Double.text, Json.Kind.ofChar?]
  | finite negative units h =>
      have hkind := Json.kind_of_numberText (.finite negative units h) []
      rw [List.append_nil] at hkind
      change ¬ OpensBracket (Json.numberText (.finite negative units h))
      rw [OpensBracket, hkind]
      simp

/-- The text of an array or an object is the text of nothing else but itself. -/
theorem comparisonText_eq_write_iff
    {v : Json}
    (hv : IsStructure v)
    (w : Json) :
    comparisonText w = write .compact v ↔ w = v ∨ w = .string (write .compact v) := by
  constructor
  · intro h
    have hopens := hv.opensBracket
    rw [← h] at hopens
    cases w with
    | null => simp [comparisonText, OpensBracket] at hopens
    | bool b => cases b <;> simp [comparisonText, OpensBracket, Json.Kind.ofChar?] at hopens
    | int n => exact absurd hopens (not_opensBracket_toString_int n)
    | float x =>
        rw [comparisonText] at hopens
        cases hint : x.toInt? with
        | some n =>
            rw [hint] at hopens
            exact absurd hopens (not_opensBracket_toString_int n)
        | none =>
            rw [hint] at hopens
            exact absurd hopens (not_opensBracket_text x)
    | string s => exact .inr (congrArg Json.string h)
    | halved t =>
        -- What stands for a half is no character of ASCII.
        have hmem := t.replacement_mem_shown
        rw [comparisonText] at h
        rw [h] at hmem
        exact absurd (Json.areAscii_compactText v 0 _ hmem) (by decide)
    | array items => exact .inl (Json.write_compact_inj h)
    | object members => exact .inl (Json.write_compact_inj h)
    | misnamed name value => exact .inl (Json.write_compact_inj h)
  · rintro (rfl | rfl)
    · exact hv.comparisonText_eq
    · rfl

/--
**Arrays and objects are compared by structure.**  An array or an object that names no
operator holds for itself, with all its items and members in their order, and for its
compact text, and for no other value.
-/
theorem structures_match_by_structure
    {v : Json}
    (hv : IsStructure v)
    (hop : v.member "op" = .null)
    (w : Json) :
    ∃ answer,
      (decodeComparison v).matches (.value w) = .ok answer ∧
      (answer = true ↔ w = v ∨ w = .string (write .compact v)) := by
  have hholds : (decodeComparison v).matches (.value w) = Operator.eq.holds (.value w) v := by
    rcases decodeComparison_of_member_eq_null hop with ⟨-, hliteral⟩ | hliteral
    · rw [hliteral]
      exact hv.literalMatches_write
    · rw [hliteral]
      refine literalMatches_eq_holds ?_ ?_ fun body => ?_
      all_goals rintro rfl; cases hv
  refine ⟨_, hholds, ?_⟩
  rw [beq_iff_eq, hv.comparisonText_eq, eq_comm]
  exact comparisonText_eq_write_iff hv w

/-- Quotes and a comma inside a text do not make it two. -/
theorem quoted_comma_separates_nothing :
    IsStructure (.array [.string "a\",\"b"]) ∧
      (Json.array [.string "a\",\"b"]).member "op" = .null ∧
      (decodeComparison (.array [.string "a\",\"b"])).matches
        (.value (.array [.string "a", .string "b"])) = .ok false := by
  have hv := IsStructure.array [.string "a\",\"b"]
  obtain ⟨answer, hanswer, hiff⟩ :=
    structures_match_by_structure hv rfl (.array [.string "a", .string "b"])
  have hfalse : answer = false := by
    rw [Bool.eq_false_iff, Ne, hiff]
    simp
  exact ⟨hv, rfl, hfalse ▸ hanswer⟩

end Structures

end Rule
end Turnstile
