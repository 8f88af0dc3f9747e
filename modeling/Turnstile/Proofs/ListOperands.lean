import Turnstile.Proofs.OperatorLaws
import Turnstile.Proofs.Pieces

/-!
# Operands that are lists

An operand that stands for a list is an array or a text with commas.  Either gives texts of
which the blanks around each are dropped, and those of which nothing is left.  What remains
are *items*, and giving them again as an array changes nothing.  Items without commas may
also be written as a text, with blanks and empty parts wherever one likes.

**Results.**
* `isItem_of_mem_keptItems`, `keptItems_of_items`: what remains, and what is kept.
* `Spells.keptItems_eq`: parts that spell items give these items.
* `listItems_joined`: a text of such parts gives them as well.
* `list_operands_are_canonical`: all of this, for membership too.
-/

namespace Turnstile
namespace Rule

open Text (isBlank IsTrimmed trim trimmed)

section Items

variable {x : String} {texts items : List String}

/-- A text that is not empty, and neither starts nor ends with a blank. -/
structure IsItem
    (x : String) : Prop where
  ne_empty : x ≠ ""
  isTrimmed : IsTrimmed x.toList

/-- Texts without the blanks around each, and without those of which nothing is left. -/
def keptItems
    (texts : List String) : List String :=
  (texts.map trim).filter (· != "")

theorem listItems_array
    (values : List Json) :
    listItems (.array values) = keptItems (values.map comparisonText) :=
  rfl

theorem listItems_string
    (s : String) :
    listItems (.string s) = keptItems ((Text.pieces ',' s.toList).map String.ofList) :=
  rfl

/-- Of every value some texts are kept. -/
theorem exists_keptItems
    (v : Json) :
    ∃ texts, listItems v = keptItems texts := by
  cases v with
  | array values => exact ⟨_, listItems_array values⟩
  | _ => exact ⟨_, rfl⟩

theorem isItem_of_mem_keptItems
    (h : x ∈ keptItems texts) :
    IsItem x := by
  obtain ⟨hmem, hne⟩ := List.mem_filter.mp h
  obtain ⟨text, -, rfl⟩ := List.mem_map.mp hmem
  refine ⟨bne_iff_ne.mp hne, ?_⟩
  rw [trim, String.toList_ofList]
  exact Text.isTrimmed_trimmed text.toList

/-- Of a list of texts each is kept or dropped by itself. -/
theorem keptItems_cons
    (text : String)
    (texts : List String) :
    keptItems (text :: texts) =
      if trim text = "" then keptItems texts else trim text :: keptItems texts := by
  by_cases h : trim text = "" <;> simp [keptItems, h]

theorem IsItem.trim_eq
    (h : IsItem x) :
    trim x = x := by
  rw [trim, Text.trimmed_eq_self h.isTrimmed, String.ofList_toList]

/-- Items are kept as they are. -/
theorem keptItems_of_items
    (h : ∀ x ∈ items, IsItem x) :
    keptItems items = items := by
  induction items with
  | nil =>
      rfl
  | cons x rest ih =>
      rw [List.forall_mem_cons] at h
      rw [keptItems_cons, h.1.trim_eq, if_neg h.1.ne_empty, ih h.2]

/-- Items in an array are the items that the array stands for. -/
theorem listItems_array_strings
    (h : ∀ x ∈ items, IsItem x) :
    listItems (.array (items.map .string)) = items := by
  rw [listItems_array, List.map_map]
  exact (congrArg keptItems (List.map_id items)).trans (keptItems_of_items h)

end Items

section Spellings

variable {x : String} {items parts : List String}

/-- Items are spelled by parts: each with blanks around it, and blank parts between them. -/
inductive Spells : List String → List String → Prop where
  | nil :
      Spells [] []
  | gap {items parts : List String} {part : String}
      (hpart : ∀ c ∈ part.toList, isBlank c = true)
      (h : Spells items parts) :
      Spells items (part :: parts)
  | item {items parts : List String} {x before after : String}
      (hbefore : ∀ c ∈ before.toList, isBlank c = true)
      (hafter : ∀ c ∈ after.toList, isBlank c = true)
      (h : Spells items parts) :
      Spells (x :: items) ((before ++ x ++ after) :: parts)

theorem trim_of_forall
    {part : String}
    (h : ∀ c ∈ part.toList, isBlank c = true) :
    trim part = "" := by
  rw [trim, Text.trimmed_of_forall h]

theorem IsItem.trim_append
    {before after : String}
    (h : IsItem x)
    (hbefore : ∀ c ∈ before.toList, isBlank c = true)
    (hafter : ∀ c ∈ after.toList, isBlank c = true) :
    trim (before ++ x ++ after) = x := by
  rw [Text.trim_append_blanks hbefore hafter, trim, Text.trimmed_eq_self h.isTrimmed,
    String.ofList_toList]

/-- Of parts that spell items, the items are kept. -/
theorem Spells.keptItems_eq
    (h : Spells items parts)
    (hitems : ∀ x ∈ items, IsItem x) :
    keptItems parts = items := by
  induction h with
  | nil =>
      rfl
  | gap hpart h ih =>
      rw [keptItems_cons, trim_of_forall hpart, if_pos rfl, ih hitems]
  | item hbefore hafter h ih =>
      rw [List.forall_mem_cons] at hitems
      rw [keptItems_cons, hitems.1.trim_append hbefore hafter, if_neg hitems.1.ne_empty,
        ih hitems.2]

/-- Parts that spell items without commas have none either. -/
theorem Spells.comma_not_mem
    (h : Spells items parts)
    (hitems : ∀ x ∈ items, ',' ∉ x.toList) :
    ∀ part ∈ parts, ',' ∉ part.toList := by
  have hblank : ∀ s, Text.IsBlankText s → ',' ∉ s.toList := fun s hs => hs.not_mem rfl
  induction h with
  | nil =>
      exact List.forall_mem_nil _
  | gap hpart h ih =>
      exact List.forall_mem_cons.mpr ⟨hblank _ hpart, ih hitems⟩
  | item hbefore hafter h ih =>
      rw [List.forall_mem_cons] at hitems
      refine List.forall_mem_cons.mpr ⟨?_, ih hitems.2⟩
      simp [hblank _ hbefore, hblank _ hafter, hitems.1]

/-- A text of parts that spell items stands for the items. -/
theorem listItems_joined
    (h : Spells items parts)
    (hitems : ∀ x ∈ items, IsItem x)
    (hfree : ∀ x ∈ items, ',' ∉ x.toList) :
    listItems (.string (Text.joined "," parts)) = items := by
  by_cases hparts : parts = []
  · subst hparts
    cases h
    rfl
  · have hcomma : ",".toList = [','] := rfl
    have hpieces := Text.pieces_joined hcomma hparts (h.comma_not_mem hfree)
    have hsame : (parts.map String.toList).map String.ofList = parts := by
      rw [List.map_map]
      exact (List.map_congr_left fun s _ => String.ofList_toList).trans (List.map_id parts)
    rw [listItems_string, hpieces, hsame, h.keptItems_eq hitems]

end Spellings

section Membership

theorem matches_isIn
    (v : Json)
    (actual : Signal) :
    (comparing .isIn v).matches actual = .ok ((listItems v).contains actual.text) := by
  rw [matches_comparing, Operator.holds]

/--
**Lists are canonical.**  What any value stands for as a list are items, and these items as an
array stand for themselves.  Items without commas may be written as a text with commas, with
blanks around them and blank parts between them: it stands for the same items, so that a
signal is in the one exactly if it is in the other.  No signal is in any list if its text is
empty or has blanks around it.
-/
theorem list_operands_are_canonical
    (v : Json) :
    (∀ x ∈ listItems v, IsItem x) ∧
    listItems (.array ((listItems v).map .string)) = listItems v ∧
    (∀ items parts,
      (∀ x ∈ items, IsItem x) →
      (∀ x ∈ items, ',' ∉ x.toList) →
      Spells items parts →
      listItems (.string (Text.joined "," parts)) = items ∧
      ∀ actual,
        (comparing .isIn (.string (Text.joined "," parts))).matches actual =
          (comparing .isIn (.array (items.map .string))).matches actual) ∧
    (∀ actual : Signal,
      actual.text = "" ∨ ¬ IsTrimmed actual.text.toList →
      (comparing .isIn v).matches actual = .ok false) := by
  have hitems : ∀ x ∈ listItems v, IsItem x := by
    obtain ⟨texts, htexts⟩ := exists_keptItems v
    rw [htexts]
    exact fun x hx => isItem_of_mem_keptItems hx
  refine ⟨hitems, listItems_array_strings hitems, ?_, ?_⟩
  · intro items parts hparts hfree hspells
    have hjoined := listItems_joined hspells hparts hfree
    refine ⟨hjoined, fun actual => ?_⟩
    rw [matches_isIn, matches_isIn, hjoined, listItems_array_strings hparts]
  · intro actual hactual
    rw [matches_isIn, Except.ok.injEq, Bool.eq_false_iff]
    intro hmem
    have hitem := hitems actual.text (List.contains_iff_mem.mp hmem)
    rcases hactual with hempty | hblank
    · exact hitem.ne_empty hempty
    · exact hblank hitem.isTrimmed

/-- Two countries in a text, with blanks of several kinds around them and an empty part between. -/
def writtenCountries : List String :=
  [" " ++ "US" ++ "", "", "\u00a0" ++ "CA" ++ "\t\n"]

/-- The countries are listed, and a text that ends in a blank is not among them. -/
theorem countries_in_text_are_listed :
    (∀ x ∈ ["US", "CA"], IsItem x) ∧
      (∀ x ∈ ["US", "CA"], ',' ∉ x.toList) ∧
      Spells ["US", "CA"] writtenCountries ∧
      listItems (.string (Text.joined "," writtenCountries)) = ["US", "CA"] ∧
      ¬ IsTrimmed "CA ".toList ∧
      (comparing .isIn (.string (Text.joined "," writtenCountries))).matches
        (.value (.string "CA ")) = .ok false := by
  have hitems : ∀ x ∈ ["US", "CA"], IsItem x := by
    intro x hx
    rw [List.mem_pair] at hx
    rcases hx with rfl | rfl
    · exact ⟨by decide, by decide⟩
    · exact ⟨by decide, by decide⟩
  have hfree : ∀ x ∈ ["US", "CA"], ',' ∉ x.toList := by decide
  have hspells : Spells ["US", "CA"] writtenCountries := by
    refine .item ?_ ?_ (.gap ?_ (.item ?_ ?_ .nil))
    all_goals exact List.all_eq_true.mp (by decide)
  have hblank : ¬ IsTrimmed "CA ".toList := by decide
  obtain ⟨-, -, htext, hnone⟩ :=
    list_operands_are_canonical (.string (Text.joined "," writtenCountries))
  exact ⟨hitems, hfree, hspells, (htext _ _ hitems hfree hspells).1, hblank,
    hnone (.value (.string "CA ")) (.inr hblank)⟩

end Membership

end Rule
end Turnstile
