import Mathlib.Data.List.Forall2
import Turnstile.Json.Basic

/-!
# Outcomes of computations that may fail

A computation gives a value or ends in a fault.  These lemmas say when a composed
computation gives a value, and what.
-/

namespace Turnstile

section Faults

variable {ε α β : Type}

/-- A computation in two steps succeeds iff both steps do. -/
theorem bind_eq_ok_iff
    {x : Except ε α}
    {f : α → Except ε β}
    {b : β} :
    x >>= f = .ok b ↔ ∃ a, x = .ok a ∧ f a = .ok b := by
  cases x with
  | error fault =>
      simp [bind, Except.bind]
  | ok a =>
      simp [bind, Except.bind]

theorem pure_eq_ok_iff
    {a b : α} :
    (pure a : Except ε α) = .ok b ↔ a = b := by
  simp [pure, Except.pure]

theorem map_eq_ok_iff
    {f : α → β}
    {x : Except ε α}
    {b : β} :
    f <$> x = .ok b ↔ ∃ a, x = .ok a ∧ f a = b := by
  cases x with
  | error fault => simp
  | ok a => simp

/-- A computation that is seen to succeed gives a value. -/
theorem exists_of_isOk
    {x : Except ε α}
    (h : x.isOk = true) :
    ∃ a, x = .ok a := by
  cases x with
  | error fault => cases h
  | ok a => exact ⟨a, rfl⟩

/-- What follows a computation without a fault of its own succeeds iff the computation does. -/
theorem exists_bind_pure_iff
    {x : Except ε α}
    {f : α → β} :
    (∃ b, (x >>= fun a => pure (f a)) = .ok b) ↔ ∃ a, x = .ok a := by
  cases x with
  | error fault => simp [bind, Except.bind]
  | ok a => simp [bind, Except.bind, pure, Except.pure]

/-- Computations that come to the same fail alike or give values that come to the same. -/
theorem map_eq_map_cases
    {γ : Type}
    {f : α → γ}
    {g : β → γ}
    {x : Except ε α}
    {y : Except ε β}
    (h : f <$> x = g <$> y) :
    (∃ fault, x = .error fault ∧ y = .error fault) ∨
      ∃ a b, x = .ok a ∧ y = .ok b ∧ f a = g b := by
  cases x with
  | error fault =>
      cases y with
      | error fault' =>
          obtain rfl : fault = fault' := by simpa using h
          exact .inl ⟨fault, rfl, rfl⟩
      | ok b =>
          simp at h
  | ok a =>
      cases y with
      | error fault' =>
          simp at h
      | ok b =>
          have hab : f a = g b := by simpa using h
          exact .inr ⟨a, b, rfl, rfl, hab⟩

/-- A list is read iff each of its items is. -/
theorem mapM_eq_ok_iff
    {f : α → Except ε β}
    {items : List α}
    {read : List β} :
    items.mapM f = .ok read ↔ List.Forall₂ (fun a b => f a = .ok b) items read := by
  induction items generalizing read with
  | nil =>
      rw [List.mapM_nil, pure_eq_ok_iff, List.forall₂_nil_left_iff, eq_comm]
  | cons a rest ih =>
      simp only [List.mapM_cons, bind_eq_ok_iff, pure_eq_ok_iff, ih,
        List.forall₂_cons_left_iff]
      constructor
      · rintro ⟨b, hb, bs, hbs, rfl⟩
        exact ⟨b, bs, hb, hbs, rfl⟩
      · rintro ⟨b, bs, hb, hbs, rfl⟩
        exact ⟨b, hb, bs, hbs, rfl⟩

theorem exists_mapM_iff
    {f : α → Except ε β}
    {items : List α} :
    (∃ read, items.mapM f = .ok read) ↔ ∀ a ∈ items, ∃ b, f a = .ok b := by
  induction items with
  | nil =>
      simp [List.mapM_nil, pure_eq_ok_iff]
  | cons a rest ih =>
      simp only [List.mapM_cons, bind_eq_ok_iff, pure_eq_ok_iff, List.forall_mem_cons, ← ih]
      constructor
      · rintro ⟨_, b, hb, bs, hbs, -⟩
        exact ⟨⟨b, hb⟩, bs, hbs⟩
      · rintro ⟨⟨b, hb⟩, bs, hbs⟩
        exact ⟨b :: bs, b, hb, bs, hbs, rfl⟩

/-- What a computation finds, if it succeeds and finds anything. -/
def foundBy
    (x : Except ε (Option β)) : Option β :=
  x.toOption.join

@[simp] theorem foundBy_ok
    (found : Option β) :
    foundBy (.ok found : Except ε (Option β)) = found :=
  rfl

@[simp] theorem foundBy_error
    (fault : ε) :
    foundBy (.error fault : Except ε (Option β)) = none :=
  rfl

theorem foundBy_eq_some_iff
    {x : Except ε (Option β)}
    {b : β} :
    foundBy x = some b ↔ x = .ok (some b) := by
  cases x with
  | error fault => simp
  | ok found => simp

/-- A filtered list is read iff each item is, and then holds what is found, in order. -/
theorem filterMapM_eq_ok_iff
    {f : α → Except ε (Option β)}
    {items : List α}
    {read : List β} :
    items.filterMapM f = .ok read ↔
      (∀ a ∈ items, ∃ found, f a = .ok found) ∧
        read = items.filterMap fun a => foundBy (f a) := by
  induction items generalizing read with
  | nil =>
      rw [List.filterMapM_nil, pure_eq_ok_iff]
      simp [eq_comm]
  | cons a rest ih =>
      rw [List.filterMapM_cons, bind_eq_ok_iff]
      cases hfa : f a with
      | error fault =>
          simp [hfa]
      | ok found =>
          cases found with
          | none =>
              simp [hfa, ih]
          | some b =>
              simp only [Except.ok.injEq, exists_eq_left', bind_eq_ok_iff, ih,
                pure_eq_ok_iff, List.forall_mem_cons, hfa, List.filterMap_cons, foundBy_ok]
              constructor
              · rintro ⟨bs, ⟨hall, rfl⟩, rfl⟩
                exact ⟨⟨⟨some b, rfl⟩, hall⟩, rfl⟩
              · rintro ⟨⟨-, hall⟩, rfl⟩
                exact ⟨_, ⟨hall, rfl⟩, rfl⟩

end Faults

end Turnstile
