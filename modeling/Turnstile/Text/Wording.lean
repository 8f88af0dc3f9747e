/-!
# Texts with halves of surrogate pairs

A document can spell half of a surrogate pair without the other half.  Such a half is no
character, so that a text with one has no form in UTF-8.  Where only characters can stand,
the replacement character stands for it.
-/

namespace Turnstile

/-- What a text is made of: characters, and halves of surrogate pairs by ten bits each. -/
inductive CodePoint where
  | char (c : Char)
  | high (bits : Fin 1024)
  | low (bits : Fin 1024)
  deriving DecidableEq, Repr

namespace CodePoint

/-- The code, by which a half is a UTF-16 unit. -/
def code : CodePoint → Nat
  | .char c => c.toNat
  | .high bits => 0xD800 + bits
  | .low bits => 0xDC00 + bits

/-- What one UTF-16 unit is on its own. -/
def ofUnit (unit : Nat) : CodePoint :=
  if 0xD800 ≤ unit ∧ unit < 0xDC00 then .high (Fin.ofNat 1024 (unit - 0xD800))
  else if 0xDC00 ≤ unit ∧ unit < 0xE000 then .low (Fin.ofNat 1024 (unit - 0xDC00))
  else .char (Char.ofNat unit)

/-- The character, unless it is a half. -/
def char? : CodePoint → Option Char
  | .char c => some c
  | _ => none

/-- The character that stands for a half. -/
def replacement : Char := Char.ofNat 0xFFFD

/-- The character of a surrogate pair. -/
def pair (high low : Fin 1024) : Char := Char.ofNat (0x10000 + high * 0x400 + low)

/-- The two halves of every pair made one character. -/
def paired : List CodePoint → List CodePoint
  | .high a :: .low b :: rest => .char (pair a b) :: paired rest
  | p :: rest => p :: paired rest
  | [] => []

/-- No half stands before the other half. -/
def isUnpaired : List CodePoint → Bool
  | .high _ :: .low _ :: _ => false
  | _ :: rest => isUnpaired rest
  | [] => true

/-- What follows a half is a half again only if it was one before. -/
theorem head?_paired {points : List CodePoint} {bits : Fin 1024}
    (h : (paired points).head? = some (.low bits)) : points.head? = some (.low bits) := by
  unfold paired at h
  split at h
  · simp at h
  · simpa using h
  · simp at h

theorem isUnpaired_high (bits : Fin 1024) {rest : List CodePoint}
    (hlow : ∀ low, rest.head? ≠ some (.low low)) (hrest : isUnpaired rest = true) :
    isUnpaired (.high bits :: rest) = true := by
  cases rest with
  | nil => rfl
  | cons p more =>
    cases p with
    | low low => exact absurd rfl (hlow low)
    | char c => exact hrest
    | high other => exact hrest

theorem isUnpaired_paired (points : List CodePoint) : isUnpaired (paired points) = true := by
  fun_induction paired points with
  | case1 a b rest ih => exact ih
  | case2 p rest hnot ih =>
    cases p with
    | char c => exact ih
    | low bits => exact ih
    | high a =>
      refine isUnpaired_high a (fun low hlow => ?_) ih
      obtain ⟨more, rfl⟩ := List.head?_eq_some_iff.mp (head?_paired hlow)
      exact hnot a low more rfl rfl
  | case3 => rfl

/-- The characters, if there are no halves. -/
def chars? (points : List CodePoint) : Option (List Char) := points.mapM char?

theorem exists_half {points : List CodePoint} (h : chars? points = none) :
    ∃ p ∈ points, p.char? = none := by
  induction points with
  | nil => cases h
  | cons p rest ih =>
    cases hp : p.char? with
    | none => exact ⟨p, List.mem_cons_self, hp⟩
    | some c =>
      have hrest : chars? rest = none := by
        cases hrest : chars? rest with
        | none => rfl
        | some cs =>
          rw [chars?] at h hrest
          rw [List.mapM_cons, hp, hrest] at h
          cases h
      obtain ⟨half, hmem, hhalf⟩ := ih hrest
      exact ⟨half, List.mem_cons_of_mem p hmem, hhalf⟩

end CodePoint

/-- A text with halves of surrogate pairs, none of which stands before its other half. -/
structure HalvedText where
  points : List CodePoint
  isUnpaired : CodePoint.isUnpaired points = true
  hasHalf : CodePoint.chars? points = none
  deriving DecidableEq, Repr

namespace HalvedText

/-- The text with the replacement character for every half. -/
def shown (t : HalvedText) : String :=
  String.ofList (t.points.map fun p => p.char?.getD CodePoint.replacement)

theorem replacement_mem_shown (t : HalvedText) : CodePoint.replacement ∈ t.shown.toList := by
  obtain ⟨p, hp, hnone⟩ := CodePoint.exists_half t.hasHalf
  rw [shown, String.toList_ofList]
  exact List.mem_map.mpr ⟨p, hp, by rw [hnone]; rfl⟩

/-- The noncharacter that marks halves in labels; texts that are exchanged do without it. -/
def labelMark : Char := Char.ofNat 0xFDD0

/-- A name for the text, in which the code of every half stands after a mark. -/
def label (t : HalvedText) : String :=
  String.ofList (t.points.flatMap fun
    | .char c => if c = labelMark then [labelMark, labelMark] else [c]
    | p => labelMark :: Nat.toDigits 16 p.code)

end HalvedText

/-- A text, be it one of characters or not. -/
inductive Wording where
  | whole (s : String)
  | halved (t : HalvedText)
  deriving DecidableEq, Repr

namespace Wording

/-- The text of some code points, of which halves that belong together are one character. -/
def ofPoints (points : List CodePoint) : Wording :=
  match h : CodePoint.chars? (CodePoint.paired points) with
  | some cs => .whole (String.ofList cs)
  | none => .halved ⟨CodePoint.paired points, CodePoint.isUnpaired_paired points, h⟩

/-- The text with the replacement character for every half. -/
def shown : Wording → String
  | .whole s => s
  | .halved t => t.shown

end Wording

end Turnstile
