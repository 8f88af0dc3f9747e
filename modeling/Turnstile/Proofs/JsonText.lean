import Turnstile.Proofs.Members
import Turnstile.Proofs.NumberText
import Turnstile.Proofs.QuotedText

/-!
# Texts of documents

Every document that can be read is read back from its text, in whatever layout it is
written.

**Documents that can be read.**  An integer has at most 4300 digits, the names of an object
are distinct, and a name with halves of surrogate pairs stands for itself.

**Results.**
* `read?_write`: the text of such a document reads as the document.
* `readable_of_readChars`: whatever is read is such a document.
-/

namespace Turnstile
namespace Json

/-- A member stands under its own name. -/
@[simp] def IsNamed : String × Json → Prop
  | (name, .misnamed t _) => name = t.label
  | _ => True

theorem isNamed_iff
    {member : String × Json} :
    IsNamed member ↔ ∃ name, member = named name member.2.unnamed := by
  obtain ⟨label, value⟩ := member
  cases value with
  | misnamed t value =>
      constructor
      · rintro rfl
        exact ⟨.halved t, rfl⟩
      · rintro ⟨name | t', heq⟩
        · have hsize := congrArg sizeOf (Prod.mk.inj heq).2
          simp only [unnamed, misnamed.sizeOf_spec] at hsize
          omega
        · obtain ⟨hlabel, hvalue⟩ := Prod.mk.inj heq
          rw [IsNamed, hlabel, (misnamed.inj hvalue).1]
  | _ => exact iff_of_true trivial ⟨.whole label, rfl⟩

/-- A document that can be read. -/
inductive Readable : Json → Prop where
  | null : Readable .null
  | bool (b : Bool) : Readable (.bool b)
  | int {n : Int} (hlength : (Nat.toDigits 10 n.natAbs).length ≤ Text.maxIntegerDigits) :
      Readable (.int n)
  | float (x : Double) : Readable (.float x)
  | string (s : String) : Readable (.string s)
  | halved (t : HalvedText) : Readable (.halved t)
  | array {items : List Json} (hitems : ∀ item ∈ items, Readable item) :
      Readable (.array items)
  | object {members : Members Json} (hnames : (members.map Prod.fst).Nodup)
      (hnamed : ∀ member ∈ members, IsNamed member)
      (hmembers : ∀ member ∈ members, Readable member.2.unnamed) : Readable (.object members)

theorem isNamed_of_unnamed_eq
    {v : Json}
    (hv : v.unnamed = v)
    (name : String) :
    IsNamed (name, v) :=
  isNamed_iff.mpr ⟨.whole name, by rw [hv]; rfl⟩

@[simp] theorem readable_bool
    (b : Bool) :
    Readable (.bool b) :=
  .bool b

@[simp] theorem readable_string
    (s : String) :
    Readable (.string s) :=
  .string s

@[simp] theorem readable_array_iff
    {items : List Json} :
    Readable (.array items) ↔ ∀ item ∈ items, Readable item := by
  constructor
  · rintro ⟨⟩
    assumption
  · exact .array

@[simp] theorem readable_object_iff
    {members : Members Json} :
    Readable (.object members) ↔
      (members.map Prod.fst).Nodup ∧ (∀ member ∈ members, IsNamed member) ∧
        ∀ member ∈ members, Readable member.2.unnamed := by
  constructor
  · rintro ⟨⟩
    refine ⟨?_, ?_, ?_⟩ <;> assumption
  · rintro ⟨hnames, hnamed, hmembers⟩
    exact .object hnames hnamed hmembers

theorem Readable.unnamed_eq
    {v : Json}
    (hv : Readable v) :
    v.unnamed = v := by
  cases hv <;> rfl

theorem named_unnamed
    (name : Wording)
    {v : Json}
    (hv : v.unnamed = v) :
    (named name v).2.unnamed = v := by
  cases name with
  | whole s => exact hv
  | halved t => rfl

/-- An object of values that can be read under plain names can be read. -/
theorem Readable.object_of_values
    {members : Members Json}
    (hnames : (members.map Prod.fst).Nodup)
    (hvalues : ∀ member ∈ members, Readable member.2) :
    Readable (.object members) :=
  .object hnames (fun member hmember => isNamed_of_unnamed_eq (hvalues member hmember).unnamed_eq _)
    (fun member hmember => by
      have hvalue := hvalues member hmember
      rw [hvalue.unnamed_eq]
      exact hvalue)

section Spacing

/-- Only blanks. -/
def AreBlank
    (cs : List Char) : Prop :=
  ∀ c ∈ cs, isSpacing c = true

/-- The text starts with a token, not with a blank. -/
def StartsToken : List Char → Prop
  | [] => True
  | c :: _ => isSpacing c = false

theorem skipSpacing_append
    {blanks : List Char}
    (hblanks : AreBlank blanks)
    (rest : List Char) :
    skipSpacing (blanks ++ rest) = skipSpacing rest :=
  List.dropWhile_append_of_pos hblanks

theorem skipSpacing_of_startsToken
    {cs : List Char}
    (hcs : StartsToken cs) :
    skipSpacing cs = cs := by
  cases cs with
  | nil =>
      rfl
  | cons c rest =>
      have hc : isSpacing c = false := hcs
      simp [skipSpacing, hc]

theorem skipSpacing_append_cons
    {blanks : List Char}
    (hblanks : AreBlank blanks)
    {c : Char}
    (hc : isSpacing c = false)
    (rest : List Char) :
    skipSpacing (blanks ++ c :: rest) = c :: rest := by
  rw [skipSpacing_append hblanks]
  exact skipSpacing_of_startsToken hc

theorem skipSpacing_append_of_startsToken
    {blanks cs : List Char}
    (hblanks : AreBlank blanks)
    (hcs : StartsToken cs) :
    skipSpacing (blanks ++ cs) = cs := by
  rw [skipSpacing_append hblanks]
  exact skipSpacing_of_startsToken hcs

theorem areBlank_append
    {left right : List Char}
    (hleft : AreBlank left)
    (hright : AreBlank right) :
    AreBlank (left ++ right) := by
  intro c hc
  rcases List.mem_append.mp hc with hc | hc
  · exact hleft c hc
  · exact hright c hc

theorem areBlank_lineBreak
    (layout : Layout)
    (depth : Nat) :
    AreBlank (layout.lineBreak depth).toList := by
  intro c hc
  unfold Layout.lineBreak at hc
  cases hindent : layout.indent with
  | none =>
      simp [hindent] at hc
  | some width =>
      rw [hindent] at hc
      have hmem : c = '\n' ∨ c ∈ List.replicate (width * depth) ' ' := by
        simpa using hc
      rcases hmem with rfl | hmem
      · decide
      · rw [List.eq_of_mem_replicate hmem]
        decide

/-- Blanks do not continue a number. -/
theorem endsNumber_append
    {blanks rest : List Char}
    (hblanks : AreBlank blanks)
    (hrest : EndsNumber rest) :
    EndsNumber (blanks ++ rest) := by
  cases blanks with
  | nil =>
      exact hrest
  | cons c blanks =>
      have hc := hblanks c List.mem_cons_self
      have hcases : c = ' ' ∨ c = '\t' ∨ c = '\n' ∨ c = '\r' := by
        simpa [isSpacing, or_assoc] using hc
      rcases hcases with rfl | rfl | rfl | rfl
      · exact ⟨by decide, by decide, by decide, by decide⟩
      · exact ⟨by decide, by decide, by decide, by decide⟩
      · exact ⟨by decide, by decide, by decide, by decide⟩
      · exact ⟨by decide, by decide, by decide, by decide⟩

/-- The separators of a layout are a comma and a colon, with blanks after them. -/
structure Layout.IsPlain
    (layout : Layout) : Prop where
  item : ∃ blanks, layout.itemSeparator.toList = ',' :: blanks ∧ AreBlank blanks
  name : ∃ blanks, layout.nameSeparator.toList = ':' :: blanks ∧ AreBlank blanks

end Spacing

section Scalars

variable {cs : List Char} {read : Json × List Char}

theorem readScalar_eq_readUnsigned
    {c : Char}
    {more : List Char}
    (hc : c ∉ ['n', 't', 'f', 'N', 'I', '-']) :
    readScalar (c :: more) = readUnsigned false (c :: more) := by
  simp only [List.mem_cons, List.not_mem_nil, or_false, not_or] at hc
  obtain ⟨hn, ht, hf, hN, hI, hminus⟩ := hc
  unfold readScalar
  split
  all_goals simp_all

/-- What is read as a scalar starts with a letter, a sign or a digit. -/
theorem exists_head_of_readScalar
    (h : readScalar cs = some read) :
    ∃ c more, cs = c :: more ∧ (c ∈ ['n', 't', 'f', 'N', 'I', '-'] ∨ isDecimal c = true) := by
  cases cs with
  | nil =>
      simp [readScalar, readUnsigned, readIntegerPart] at h
  | cons c more =>
      by_cases hc : c ∈ ['n', 't', 'f', 'N', 'I', '-']
      · exact ⟨c, more, rfl, .inl hc⟩
      · rw [readScalar_eq_readUnsigned hc] at h
        obtain ⟨d, rest, heq, hd⟩ := exists_digit_of_readUnsigned h
        obtain ⟨rfl, rfl⟩ := List.cons.inj heq
        exact ⟨c, more, rfl, .inr hd⟩

/-- A scalar is a value. -/
theorem readValue_of_readScalar
    (h : readScalar cs = some read)
    (fuel : Nat) :
    readValue (fuel + 1) cs = some read := by
  obtain ⟨c, more, rfl, hc⟩ := exists_head_of_readScalar h
  have hne : ∀ d, d ∉ ['n', 't', 'f', 'N', 'I', '-'] → isDecimal d = false → c ≠ d := by
    rintro d hd hdecimal rfl
    rcases hc with hc | hc
    · exact hd hc
    · rw [hdecimal] at hc
      simp at hc
  have hquote := hne '"' (by decide) (by decide)
  have harray := hne '[' (by decide) (by decide)
  have hobject := hne '{' (by decide) (by decide)
  rw [readValue]
  · exact h
  · exact fun rest heq => hquote (List.cons.inj heq).1
  · exact fun rest heq => harray (List.cons.inj heq).1
  · exact fun rest heq => hobject (List.cons.inj heq).1

/-- What is read as a value starts with a token, and with no closing bracket. -/
theorem startsToken_of_readValue
    {fuel : Nat}
    (h : readValue fuel cs = some read) :
    StartsToken cs ∧ (∀ rest, cs ≠ ']' :: rest) := by
  cases fuel with
  | zero =>
      simp [readValue] at h
  | succ fuel =>
      cases cs with
      | nil =>
          exact ⟨trivial, by simp⟩
      | cons c more =>
          have hhead : c ∈ ['"', '[', '{'] ∨ c ∈ ['n', 't', 'f', 'N', 'I', '-'] ∨
              isDecimal c = true := by
            by_cases hopening : c ∈ ['"', '[', '{']
            · exact .inl hopening
            · simp only [List.mem_cons, List.not_mem_nil, or_false, not_or] at hopening
              obtain ⟨hquote, harray, hobject⟩ := hopening
              rw [readValue] at h
              · obtain ⟨d, rest, heq, hd⟩ := exists_head_of_readScalar h
                obtain ⟨rfl, rfl⟩ := List.cons.inj heq
                exact .inr hd
              · exact fun rest heq => hquote (List.cons.inj heq).1
              · exact fun rest heq => harray (List.cons.inj heq).1
              · exact fun rest heq => hobject (List.cons.inj heq).1
          have hne : ∀ d, d ∉ ['"', '[', '{'] → d ∉ ['n', 't', 'f', 'N', 'I', '-'] →
              isDecimal d = false → c ≠ d := by
            rintro d hopening hletter hdecimal rfl
            rcases hhead with hc | hc | hc
            · exact hopening hc
            · exact hletter hc
            · rw [hdecimal] at hc
              simp at hc
          refine ⟨?_, fun rest heq => ?_⟩
          · have hblank := hne ' ' (by decide) (by decide) (by decide)
            have htab := hne '\t' (by decide) (by decide) (by decide)
            have hline := hne '\n' (by decide) (by decide) (by decide)
            have hreturn := hne '\r' (by decide) (by decide) (by decide)
            change isSpacing c = false
            simp [isSpacing, hblank, htab, hline, hreturn]
          · exact hne ']' (by decide) (by decide) (by decide) (List.cons.inj heq).1

end Scalars

section Documents

variable {layout : Layout}

/-- The text of a value at a depth, whatever follows it, reads as the value. -/
def ReadsBack
    (layout : Layout)
    (v : Json) : Prop :=
  ∀ depth fuel rest, EndsNumber rest → (writeAt layout depth v).toList.length ≤ fuel →
    readValue fuel ((writeAt layout depth v).toList ++ rest) = some (v, rest)

theorem ReadsBack.startsToken
    {v : Json}
    (h : ReadsBack layout v)
    (depth : Nat)
    {rest : List Char}
    (hrest : EndsNumber rest) :
    StartsToken ((writeAt layout depth v).toList ++ rest) ∧
      ∀ after, (writeAt layout depth v).toList ++ rest ≠ ']' :: after :=
  startsToken_of_readValue (h depth _ rest hrest (Nat.le_refl _))

/-- A further item or member stands after a comma and blanks. -/
theorem exists_separator
    (hlayout : layout.IsPlain)
    (depth : Nat) :
    ∃ blanks, AreBlank blanks ∧
      layout.itemSeparator.toList ++ (layout.lineBreak depth).toList = ',' :: blanks := by
  obtain ⟨blanks, hseparator, hblanks⟩ := hlayout.item
  refine ⟨blanks ++ (layout.lineBreak depth).toList, ?_, ?_⟩
  · exact areBlank_append hblanks (areBlank_lineBreak layout depth)
  · rw [hseparator, List.cons_append]

theorem skipSpacing_comma
    (cs : List Char) :
    skipSpacing (',' :: cs) = ',' :: cs :=
  skipSpacing_of_startsToken (by change isSpacing ',' = false; decide)

/-- The items after the first, and the closing bracket. -/
theorem endsNumber_writeItems
    (hlayout : layout.IsPlain)
    (depth closing : Nat)
    (items : List Json)
    (rest : List Char) :
    EndsNumber ((writeItems layout depth items).toList ++
      ((layout.lineBreak closing).toList ++ ']' :: rest)) := by
  cases items with
  | nil =>
      simp only [writeItems, String.toList_empty, List.nil_append]
      exact endsNumber_append (areBlank_lineBreak layout closing)
        ⟨by decide, by decide, by decide, by decide⟩
  | cons item items =>
      obtain ⟨blanks, hseparator, -⟩ := hlayout.item
      simp only [writeItems, String.toList_append, hseparator, List.cons_append]
      exact ⟨by decide, by decide, by decide, by decide⟩

/-- Items read back, up to the closing bracket. -/
theorem readItems_write
    (hlayout : layout.IsPlain)
    (depth closing : Nat)
    {item : Json}
    {items : List Json}
    (hitem : ReadsBack layout item)
    (hitems : ∀ other ∈ items, ReadsBack layout other)
    {fuel : Nat}
    (rest : List Char)
    (hfuel : (writeAt layout depth item).toList.length +
      (writeItems layout depth items).toList.length < fuel) :
    readItems fuel ((writeAt layout depth item).toList ++
        ((writeItems layout depth items).toList ++
          ((layout.lineBreak closing).toList ++ ']' :: rest))) =
      some (item :: items, rest) := by
  induction items generalizing item fuel with
  | nil =>
      cases fuel with
      | zero =>
          omega
      | succ fuel =>
          have hends := endsNumber_writeItems hlayout depth closing [] rest
          have hread := hitem depth fuel _ hends (by omega)
          have hclose : skipSpacing ((writeItems layout depth []).toList ++
              ((layout.lineBreak closing).toList ++ ']' :: rest)) = ']' :: rest := by
            simp only [writeItems, String.toList_empty, List.nil_append]
            exact skipSpacing_append_cons (areBlank_lineBreak layout closing) (by decide) rest
          simp only [readItems, hread, hclose]
  | cons next items ih =>
      cases fuel with
      | zero =>
          omega
      | succ fuel =>
          have hnext := hitems next List.mem_cons_self
          have hothers : ∀ other ∈ items, ReadsBack layout other := fun other hother =>
            hitems other (List.mem_cons_of_mem next hother)
          have hends := endsNumber_writeItems hlayout depth closing (next :: items) rest
          have hread := hitem depth fuel _ hends (by omega)
          have hendsNext := endsNumber_writeItems hlayout depth closing items rest
          obtain ⟨blanks, hblanks, hseparator⟩ := exists_separator hlayout depth
          have htext : (writeItems layout depth (next :: items)).toList =
              ',' :: (blanks ++ ((writeAt layout depth next).toList ++
                (writeItems layout depth items).toList)) := by
            rw [← List.cons_append, ← hseparator]
            simp [writeItems]
          have hlength : (writeAt layout depth next).toList.length +
              (writeItems layout depth items).toList.length < fuel := by
            rw [htext] at hfuel
            simp only [List.length_cons, List.length_append] at hfuel
            omega
          have hlater := ih hnext hothers hlength
          have hskip := skipSpacing_append_of_startsToken hblanks
            (hnext.startsToken depth hendsNext).1
          rw [htext] at hread ⊢
          simp only [List.cons_append, List.append_assoc] at hread ⊢
          simp only [readItems, hread, skipSpacing_comma, hskip, hlater]
          rfl

/-- A wrapped value is not read as a value. -/
theorem ReadsBack.unnamed_eq
    {v : Json}
    (h : ReadsBack layout v) :
    v.unnamed = v := by
  cases v with
  | misnamed name value =>
      have hread := h 0 _ [] trivial (Nat.le_succ _)
      have htext : ∃ more, (writeAt layout 0 (.misnamed name value)).toList ++ [] = '!' :: more :=
        ⟨_, by simp only [writeAt, misplacedMark, String.toList_append]; rfl⟩
      obtain ⟨more, hmore⟩ := htext
      rw [hmore] at hread
      simp [readValue, readScalar, readUnsigned, readIntegerPart, isDecimal] at hread
  | _ => rfl

/-- A member as it is written under its own name. -/
def memberText
    (layout : Layout)
    (depth : Nat)
    (name : Wording)
    (value : Json) : List Char :=
  (quotedWording layout.asciiOnly name).toList ++
    (layout.nameSeparator.toList ++ (writeAt layout depth value).toList)

theorem toList_memberWith_named
    (layout : Layout)
    (depth : Nat)
    (name : Wording)
    {value : Json}
    (hvalue : value.unnamed = value) :
    (memberWith layout (named name value).1 (named name value).2
      (writeAt layout depth (named name value).2)).toList = memberText layout depth name value := by
  cases name with
  | halved t =>
      have hmark : misplacedMark.toList.length = misplacedMark.length := rfl
      simp only [named, memberWith, if_true, writeAt, memberText, quotedWording,
        String.toList_ofList, String.toList_append, List.append_assoc, ← hmark, List.drop_left]
  | whole s =>
      cases value with
      | misnamed t inner =>
          have hsize := congrArg sizeOf hvalue
          simp only [unnamed, misnamed.sizeOf_spec] at hsize
          omega
      | _ =>
          simp only [named, memberWith, memberText, quotedWording, String.toList_append,
            List.append_assoc]

theorem exists_memberText
    (layout : Layout)
    (depth : Nat)
    (name : Wording)
    (value : Json) :
    ∃ body, memberText layout depth name value = '"' :: body := by
  obtain ⟨body, hquoted, -⟩ := readString_quotedWording layout.asciiOnly name []
  exact ⟨_, by rw [memberText, hquoted, List.cons_append]⟩

/-- A member under its own name, whose value reads back. -/
def MemberReadsBack
    (layout : Layout)
    (member : String × Json) : Prop :=
  ∃ name value, member = named name value ∧ ReadsBack layout value

theorem endsNumber_writeMembers
    (hlayout : layout.IsPlain)
    (depth closing : Nat)
    (members : Members Json)
    (rest : List Char) :
    EndsNumber ((writeMembers layout depth members).toList ++
      ((layout.lineBreak closing).toList ++ '}' :: rest)) := by
  cases members with
  | nil =>
      simp only [writeMembers, String.toList_empty, List.nil_append]
      exact endsNumber_append (areBlank_lineBreak layout closing)
        ⟨by decide, by decide, by decide, by decide⟩
  | cons member members =>
      obtain ⟨blanks, hseparator, -⟩ := hlayout.item
      simp only [writeMembers, String.toList_append, hseparator, List.cons_append]
      exact ⟨by decide, by decide, by decide, by decide⟩

section Member

variable {depth fuel : Nat} {name : Wording} {value : Json} {rest after more : List Char}

/-- What is read of a member whose value reads back, up to what follows it. -/
theorem readMembers_memberText
    (name : Wording)
    (hlayout : layout.IsPlain)
    (hvalue : ReadsBack layout value)
    (hrest : EndsNumber rest)
    (hfuel : (writeAt layout depth value).toList.length ≤ fuel) :
    ∃ quoted valueText, memberText layout depth name value ++ rest = '"' :: quoted ∧
      readString quoted = some (name, ':' :: valueText) ∧
      readValue fuel (skipSpacing valueText) = some (value, rest) := by
  obtain ⟨blanks, hseparator, hblanks⟩ := hlayout.name
  obtain ⟨body, hquoted, hname⟩ := readString_quotedWording layout.asciiOnly name
    (':' :: (blanks ++ ((writeAt layout depth value).toList ++ rest)))
  have hskip : skipSpacing (blanks ++ ((writeAt layout depth value).toList ++ rest)) =
      (writeAt layout depth value).toList ++ rest :=
    skipSpacing_append_of_startsToken hblanks (hvalue.startsToken depth hrest).1
  refine ⟨_, _, ?_, hname, ?_⟩
  · simp [memberText, hseparator, hquoted]
  · rw [hskip]
    exact hvalue depth fuel rest hrest hfuel

theorem skipSpacing_colon
    (cs : List Char) :
    skipSpacing (':' :: cs) = ':' :: cs :=
  skipSpacing_of_startsToken (by change isSpacing ':' = false; decide)

/-- The last member of an object. -/
theorem readMembers_last
    (hlayout : layout.IsPlain)
    (hvalue : ReadsBack layout value)
    (hrest : EndsNumber rest)
    (hfuel : (writeAt layout depth value).toList.length ≤ fuel)
    (hclose : skipSpacing rest = '}' :: after) :
    readMembers (fuel + 1) (memberText layout depth name value ++ rest) =
      some ([named name value], after) := by
  obtain ⟨quoted, valueText, htext, hname, hread⟩ :=
    readMembers_memberText name hlayout hvalue hrest hfuel
  rw [htext]
  simp only [readMembers, hname, skipSpacing_colon, hread, hclose]

/-- A member before others. -/
theorem readMembers_next
    (hlayout : layout.IsPlain)
    (hvalue : ReadsBack layout value)
    (hrest : EndsNumber rest)
    (hfuel : (writeAt layout depth value).toList.length ≤ fuel)
    (hcomma : skipSpacing rest = ',' :: more)
    {members : Members Json}
    (hmembers : readMembers fuel (skipSpacing more) = some (members, after)) :
    readMembers (fuel + 1) (memberText layout depth name value ++ rest) =
      some (named name value :: members, after) := by
  obtain ⟨quoted, valueText, htext, hname, hread⟩ :=
    readMembers_memberText name hlayout hvalue hrest hfuel
  rw [htext]
  simp only [readMembers, hname, skipSpacing_colon, hread, hcomma, hmembers, Option.map_some]

end Member

/-- Members read back, up to the closing brace. -/
theorem readMembers_write
    (hlayout : layout.IsPlain)
    (depth closing : Nat)
    {name : Wording}
    {value : Json}
    {members : Members Json}
    (hvalue : ReadsBack layout value)
    (hmembers : ∀ other ∈ members, MemberReadsBack layout other)
    {fuel : Nat}
    (rest : List Char)
    (hfuel : (memberText layout depth name value).length +
      (writeMembers layout depth members).toList.length < fuel) :
    readMembers fuel (memberText layout depth name value ++
        ((writeMembers layout depth members).toList ++
          ((layout.lineBreak closing).toList ++ '}' :: rest))) =
      some (named name value :: members, rest) := by
  induction members generalizing name value fuel with
  | nil =>
      cases fuel with
      | zero =>
          omega
      | succ fuel =>
          have hends := endsNumber_writeMembers hlayout depth closing [] rest
          have hlength : (writeAt layout depth value).toList.length ≤ fuel := by
            simp only [memberText, List.length_append] at hfuel
            omega
          have hclose : skipSpacing ((writeMembers layout depth []).toList ++
              ((layout.lineBreak closing).toList ++ '}' :: rest)) = '}' :: rest := by
            simp only [writeMembers, String.toList_empty, List.nil_append]
            exact skipSpacing_append_cons (areBlank_lineBreak layout closing) (by decide) rest
          exact readMembers_last hlayout hvalue hends hlength hclose
  | cons next members ih =>
      cases fuel with
      | zero =>
          omega
      | succ fuel =>
          obtain ⟨nextName, nextValue, rfl, hnext⟩ := hmembers next List.mem_cons_self
          have hothers : ∀ other ∈ members, MemberReadsBack layout other := fun other hother =>
            hmembers other (List.mem_cons_of_mem _ hother)
          have hends := endsNumber_writeMembers hlayout depth closing
            (named nextName nextValue :: members) rest
          obtain ⟨blanks, hblanks, hseparator⟩ := exists_separator hlayout depth
          have htext : (writeMembers layout depth (named nextName nextValue :: members)).toList =
              ',' :: (blanks ++ (memberText layout depth nextName nextValue ++
                (writeMembers layout depth members).toList)) := by
            rw [← List.cons_append, ← hseparator]
            simp [writeMembers, toList_memberWith_named layout depth nextName hnext.unnamed_eq]
          have hlength : (writeAt layout depth value).toList.length ≤ fuel := by
            simp only [memberText, List.length_append] at hfuel
            omega
          have hlengthNext : (memberText layout depth nextName nextValue).length +
              (writeMembers layout depth members).toList.length < fuel := by
            rw [htext] at hfuel
            simp only [List.length_cons, List.length_append] at hfuel
            omega
          have hskip : ∀ more, skipSpacing (blanks ++
              (memberText layout depth nextName nextValue ++ more)) =
                memberText layout depth nextName nextValue ++ more := by
            obtain ⟨body, hbody⟩ := exists_memberText layout depth nextName nextValue
            intro more
            rw [hbody, List.cons_append, skipSpacing_append_cons hblanks (by decide)]
          have hlater := ih hnext hothers hlengthNext
          rw [← hskip] at hlater
          refine readMembers_next hlayout hvalue hends hlength ?_ hlater
          rw [htext]
          simp only [List.cons_append, List.append_assoc, skipSpacing_comma]

/-- The text of an array is longer than that of its items. -/
theorem readsBack_array
    (hlayout : layout.IsPlain)
    {items : List Json}
    (hitems : ∀ item ∈ items, ReadsBack layout item) :
    ReadsBack layout (.array items) := by
  intro depth fuel rest hrest hfuel
  cases items with
  | nil =>
      cases fuel with
      | zero => simp [writeAt] at hfuel
      | succ fuel => simp [writeAt, readValue, skipSpacing, isSpacing]
  | cons item items =>
      have htext : (writeAt layout depth (.array (item :: items))).toList ++ rest =
          '[' :: ((layout.lineBreak (depth + 1)).toList ++
            ((writeAt layout (depth + 1) item).toList ++
              ((writeItems layout (depth + 1) items).toList ++
                ((layout.lineBreak depth).toList ++ ']' :: rest)))) := by
        simp [writeAt]
      have hlength : (writeAt layout (depth + 1) item).toList.length +
          (writeItems layout (depth + 1) items).toList.length + 2 ≤ fuel := by
        simp only [writeAt, String.toList_append, List.length_append] at hfuel
        have hopen : "[".toList.length = 1 := rfl
        have hclose : "]".toList.length = 1 := rfl
        omega
      cases fuel with
      | zero =>
          omega
      | succ fuel =>
          have hitem := hitems item List.mem_cons_self
          have hothers : ∀ other ∈ items, ReadsBack layout other := fun other hother =>
            hitems other (List.mem_cons_of_mem item hother)
          have hread := readItems_write hlayout (depth + 1) depth hitem hothers rest
            (Nat.lt_of_succ_lt_succ hlength)
          have hends := endsNumber_writeItems hlayout (depth + 1) depth items rest
          obtain ⟨htoken, hbracket⟩ := hitem.startsToken (depth + 1) hends
          rw [htext]
          generalize (writeAt layout (depth + 1) item).toList ++
            ((writeItems layout (depth + 1) items).toList ++
              ((layout.lineBreak depth).toList ++ ']' :: rest)) = inner at *
          have hskip : skipSpacing ((layout.lineBreak (depth + 1)).toList ++ inner) = inner :=
            skipSpacing_append_of_startsToken (areBlank_lineBreak layout (depth + 1)) htoken
          rw [readValue, hskip]
          split
          · rename_i after
            exact absurd rfl (hbracket after)
          · rw [hread]
            rfl

/-- The text of an object is longer than that of its members. -/
theorem readsBack_object
    (hlayout : layout.IsPlain)
    {members : Members Json}
    (hnames : (members.map Prod.fst).Nodup)
    (hmembers : ∀ member ∈ members, MemberReadsBack layout member) :
    ReadsBack layout (.object members) := by
  intro depth fuel rest hrest hfuel
  cases members with
  | nil =>
      cases fuel with
      | zero => simp [writeAt] at hfuel
      | succ fuel => simp [writeAt, readValue, skipSpacing, isSpacing]
  | cons member members =>
      obtain ⟨name, value, rfl, hvalue⟩ := hmembers member List.mem_cons_self
      have hmember := toList_memberWith_named layout (depth + 1) name hvalue.unnamed_eq
      have htext : (writeAt layout depth (.object (named name value :: members))).toList ++ rest =
          '{' :: ((layout.lineBreak (depth + 1)).toList ++
            (memberText layout (depth + 1) name value ++
              ((writeMembers layout (depth + 1) members).toList ++
                ((layout.lineBreak depth).toList ++ '}' :: rest)))) := by
        simp [writeAt, hmember]
      have hlength : (memberText layout (depth + 1) name value).length +
          (writeMembers layout (depth + 1) members).toList.length + 2 ≤ fuel := by
        simp only [writeAt, String.toList_append, List.length_append, hmember] at hfuel
        have hopen : "\x7b".toList.length = 1 := rfl
        have hclose : "\x7d".toList.length = 1 := rfl
        omega
      cases fuel with
      | zero =>
          omega
      | succ fuel =>
          have hothers : ∀ other ∈ members, MemberReadsBack layout other := fun other hother =>
            hmembers other (List.mem_cons_of_mem _ hother)
          have hread := readMembers_write hlayout (depth + 1) depth hvalue hothers rest
            (Nat.lt_of_succ_lt_succ hlength)
          obtain ⟨body, hbody⟩ := exists_memberText layout (depth + 1) name value
          have hskip := skipSpacing_append_cons (areBlank_lineBreak layout (depth + 1))
            (c := '"') (by decide)
          rw [htext]
          simp only [hbody, List.cons_append] at hread ⊢
          rw [readValue, hskip]
          split
          · rename_i heq
            exact absurd (List.cons.inj heq).1 (by decide)
          · simp only [hread, Option.map_some, Members.ofList_eq_self hnames]

/-- A value whose text reads as a scalar reads back. -/
theorem readsBack_of_readScalar
    {v : Json}
    (hscalar : ∀ depth rest, EndsNumber rest →
      readScalar ((writeAt layout depth v).toList ++ rest) = some (v, rest)) :
    ReadsBack layout v := by
  intro depth fuel rest hrest hfuel
  obtain ⟨c, more, htext, -⟩ := exists_head_of_readScalar (hscalar depth [] trivial)
  cases fuel with
  | zero =>
      rw [List.append_nil] at htext
      simp [htext] at hfuel
  | succ fuel =>
      exact readValue_of_readScalar (hscalar depth rest hrest) fuel

theorem readsBack_ofWording
    (text : Wording) :
    ReadsBack layout (ofWording text) := by
  intro depth fuel rest hrest hfuel
  obtain ⟨body, hquoted, hread⟩ := readString_quotedWording layout.asciiOnly text rest
  rw [writeAt_ofWording, hquoted] at hfuel ⊢
  cases fuel with
  | zero =>
      simp at hfuel
  | succ fuel =>
      rw [List.cons_append, readValue, hread]
      rfl

/-- A document that can be read is read back from its text. -/
theorem readsBack_of_readable
    (hlayout : layout.IsPlain)
    {v : Json}
    (hv : Readable v) :
    ReadsBack layout v := by
  induction hv with
  | null =>
      apply readsBack_of_readScalar
      intro depth rest hrest
      simp only [writeAt]
      rfl
  | bool b =>
      apply readsBack_of_readScalar
      intro depth rest hrest
      simp only [writeAt]
      cases b with
      | false => rfl
      | true => rfl
  | int hlength =>
      apply readsBack_of_readScalar
      intro depth rest hrest
      simp only [writeAt]
      exact readScalar_int hlength hrest
  | float x =>
      apply readsBack_of_readScalar
      intro depth rest hrest
      simp only [writeAt]
      exact readScalar_double x hrest
  | string s =>
      exact readsBack_ofWording (.whole s)
  | halved t =>
      exact readsBack_ofWording (.halved t)
  | array _ ih =>
      exact readsBack_array hlayout ih
  | object hnames hnamed _ ih =>
      refine readsBack_object hlayout hnames fun member hmember => ?_
      obtain ⟨name, hname⟩ := isNamed_iff.mp (hnamed member hmember)
      exact ⟨name, _, hname, ih member hmember⟩

/-- **Documents survive being written.** The text of a document reads as the document. -/
theorem read?_write
    (hlayout : layout.IsPlain)
    {v : Json}
    (hv : Readable v) :
    read? (write layout v) = some v := by
  have hback := readsBack_of_readable hlayout hv
  have hend : EndsNumber [] := trivial
  have htoken := (hback.startsToken 0 hend).1
  have hread := hback 0 (2 * (writeAt layout 0 v).toList.length + 2) [] trivial (by omega)
  rw [List.append_nil] at htoken hread
  simp only [read?, readChars, write, skipSpacing_of_startsToken htoken, hread]
  rfl

end Documents

section Reading

variable {cs rest : List Char} {v : Json}

theorem readable_of_readUnsigned
    {negative : Bool}
    (h : readUnsigned negative cs = some (v, rest)) :
    Readable v := by
  unfold readUnsigned at h
  cases hwhole : readIntegerPart cs with
  | none =>
      simp [hwhole] at h
  | some read =>
      obtain ⟨whole, afterWhole⟩ := read
      simp only [hwhole] at h
      cases hexponent : readExponent (readFraction afterWhole).2 with
      | some read =>
          simp only [hexponent] at h
          obtain ⟨rfl, -⟩ := Prod.mk.inj (Option.some.inj h)
          exact .float _
      | none =>
          simp only [hexponent] at h
          by_cases hfraction : (readFraction afterWhole).1.isEmpty = true
          · rw [if_pos hfraction] at h
            by_cases hlength : whole.length ≤ Text.maxIntegerDigits
            · rw [if_pos hlength] at h
              obtain ⟨rfl, -⟩ := Prod.mk.inj (Option.some.inj h)
              obtain ⟨hdigits, hne⟩ := areDigits_of_readIntegerPart hwhole
              have habs : (if negative = true then -(digitsValue whole : Int)
                  else digitsValue whole).natAbs = digitsValue whole := by
                cases negative with
                | false => exact Int.natAbs_natCast _
                | true => exact (Int.natAbs_neg _).trans (Int.natAbs_natCast _)
              apply Readable.int
              rw [habs]
              exact (length_toDigits_digitsValue_le hdigits hne).trans hlength
            · rw [if_neg hlength] at h
              simp at h
          · rw [if_neg hfraction] at h
            obtain ⟨rfl, -⟩ := Prod.mk.inj (Option.some.inj h)
            exact .float _

theorem readable_of_expect?
    {word : List Char}
    {w : Json}
    (hw : Readable w)
    (h : (expect? word cs).map ((w, ·)) = some (v, rest)) :
    Readable v := by
  obtain ⟨after, -, heq⟩ := Option.map_eq_some_iff.mp h
  obtain ⟨rfl, -⟩ := Prod.mk.inj heq
  exact hw

theorem readable_of_readScalar
    (h : readScalar cs = some (v, rest)) :
    Readable v := by
  unfold readScalar at h
  split at h
  · exact readable_of_expect? .null h
  · exact readable_of_expect? (.bool true) h
  · exact readable_of_expect? (.bool false) h
  · exact readable_of_expect? (.float _) h
  · exact readable_of_expect? (.float _) h
  · split at h
    · obtain ⟨rfl, -⟩ := Prod.mk.inj (Option.some.inj h)
      exact .float _
    · exact readable_of_readUnsigned h
  · exact readable_of_readUnsigned h

/-- What the readers give at a depth can be read. -/
structure ReadableAt
    (fuel : Nat) : Prop where
  value : ∀ {cs v rest}, readValue fuel cs = some (v, rest) → Readable v
  items : ∀ {cs items rest}, readItems fuel cs = some (items, rest) →
    ∀ item ∈ items, Readable item
  members : ∀ {cs members rest}, readMembers fuel cs = some (members, rest) →
    ∀ member ∈ members, IsNamed member ∧ Readable member.2.unnamed

theorem readable_ofWording
    (text : Wording) :
    Readable (ofWording text) := by
  cases text with
  | whole s => exact .string s
  | halved t => exact .halved t

theorem isNamed_named
    (hv : Readable v)
    (name : Wording) :
    IsNamed (named name v) ∧ Readable (named name v).2.unnamed := by
  have hunnamed := named_unnamed name hv.unnamed_eq
  rw [isNamed_iff, hunnamed]
  exact ⟨⟨name, rfl⟩, hv⟩

theorem readableAt_zero : ReadableAt 0 where
  value := by simp [readValue]
  items := by simp [readItems]
  members := by simp [readMembers]

theorem ReadableAt.value_succ
    {fuel : Nat}
    (h : ReadableAt fuel)
    (hread : readValue (fuel + 1) cs = some (v, rest)) :
    Readable v := by
  unfold readValue at hread
  split at hread
  · obtain ⟨read, -, heq⟩ := Option.map_eq_some_iff.mp hread
    obtain ⟨rfl, -⟩ := Prod.mk.inj heq
    exact readable_ofWording read.1
  · split at hread
    · obtain ⟨rfl, -⟩ := Prod.mk.inj (Option.some.inj hread)
      exact .array (by simp)
    · obtain ⟨⟨items, after⟩, hitems, heq⟩ := Option.map_eq_some_iff.mp hread
      obtain ⟨rfl, -⟩ := Prod.mk.inj heq
      exact .array (h.items hitems)
  · split at hread
    · obtain ⟨rfl, -⟩ := Prod.mk.inj (Option.some.inj hread)
      exact .object List.nodup_nil (by simp) (by simp)
    · obtain ⟨⟨members, after⟩, hmembers, heq⟩ := Option.map_eq_some_iff.mp hread
      obtain ⟨rfl, -⟩ := Prod.mk.inj heq
      obtain ⟨hnames, hmem⟩ := Members.ofList_spec members
      exact .object hnames
        (fun member hmember => (h.members hmembers member (hmem member hmember)).1)
        (fun member hmember => (h.members hmembers member (hmem member hmember)).2)
  · exact readable_of_readScalar hread

theorem ReadableAt.items_succ
    {fuel : Nat}
    (h : ReadableAt fuel)
    {items : List Json}
    (hread : readItems (fuel + 1) cs = some (items, rest)) :
    ∀ item ∈ items, Readable item := by
  unfold readItems at hread
  cases hitem : readValue fuel cs with
  | none =>
      simp [hitem] at hread
  | some read =>
      obtain ⟨item, after⟩ := read
      simp only [hitem] at hread
      split at hread
      · obtain ⟨rfl, -⟩ := Prod.mk.inj (Option.some.inj hread)
        intro other hother
        rw [List.mem_singleton.mp hother]
        exact h.value hitem
      · obtain ⟨⟨others, end'⟩, hothers, heq⟩ := Option.map_eq_some_iff.mp hread
        obtain ⟨rfl, -⟩ := Prod.mk.inj heq
        intro other hother
        rcases List.mem_cons.mp hother with rfl | hother
        · exact h.value hitem
        · exact h.items hothers other hother
      · simp at hread

theorem ReadableAt.members_succ
    {fuel : Nat}
    (h : ReadableAt fuel)
    {members : Members Json}
    (hread : readMembers (fuel + 1) cs = some (members, rest)) :
    ∀ member ∈ members, IsNamed member ∧ Readable member.2.unnamed := by
  unfold readMembers at hread
  split at hread
  · split at hread
    · simp at hread
    · split at hread
      · split at hread
        · simp at hread
        · rename_i value afterValue hvalue
          have hnamed := isNamed_named (h.value hvalue)
          split at hread
          · obtain ⟨rfl, -⟩ := Prod.mk.inj (Option.some.inj hread)
            intro other hother
            rw [List.mem_singleton.mp hother]
            exact hnamed _
          · obtain ⟨⟨others, end'⟩, hothers, heq⟩ := Option.map_eq_some_iff.mp hread
            obtain ⟨rfl, -⟩ := Prod.mk.inj heq
            intro other hother
            rcases List.mem_cons.mp hother with rfl | hother
            · exact hnamed _
            · exact h.members hothers other hother
          · simp at hread
      · simp at hread
  · simp at hread

theorem readableAt
    (fuel : Nat) :
    ReadableAt fuel := by
  induction fuel with
  | zero => exact readableAt_zero
  | succ fuel ih => exact ⟨ih.value_succ, ih.items_succ, ih.members_succ⟩

/-- Whatever is read as a document can be read. -/
theorem readable_of_readChars
    (h : readChars cs = some v) :
    Readable v := by
  unfold readChars at h
  cases hread : readValue (2 * cs.length + 2) (skipSpacing cs) with
  | none =>
      simp [hread] at h
  | some read =>
      obtain ⟨w, after⟩ := read
      simp only [hread] at h
      by_cases hend : (skipSpacing after).isEmpty = true
      · rw [if_pos hend] at h
        obtain rfl := Option.some.inj h
        exact (readableAt _).value hread
      · rw [if_neg hend] at h
        simp at h

end Reading

section Layouts

theorem isPlain_compact : Layout.compact.IsPlain :=
  ⟨⟨[], rfl, by simp [AreBlank]⟩, ⟨[], rfl, by simp [AreBlank]⟩⟩

theorem isPlain_spaced : Layout.spaced.IsPlain :=
  ⟨⟨[' '], rfl, by simp [AreBlank, isSpacing]⟩, ⟨[' '], rfl, by simp [AreBlank, isSpacing]⟩⟩

theorem isPlain_indented : Layout.indented.IsPlain :=
  ⟨⟨[], rfl, by simp [AreBlank]⟩, ⟨[' '], rfl, by simp [AreBlank, isSpacing]⟩⟩

end Layouts

end Json
end Turnstile
