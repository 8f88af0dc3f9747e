import Turnstile.Proofs.MatchFaults
import Turnstile.Proofs.NumeralGrammar
import Turnstile.Proofs.OperatorLaws
import Turnstile.Proofs.RationalRounding

/-!
# Comparing numbers

A numeric value denotes a rational: a numeral the one that it spells, a number its own.
Both sides of a comparison are rounded to doubles first, which keeps the order but may
make different numbers equal.  So no comparison contradicts the order of the rationals,
and among integers of up to 53 bits it is that order.

**Results.**
* `exists_denotes_iff`, `Denotes.unique`: the rational of a numeric value.
* `order_eq_of_denotes`: what is compared are nearest ranks.
* `comparisons_respect_exact_order`: gt, lte, lt and gte against the order of rationals.
* `separator_before_numeral_is_a_fault`: the numerals that are left out there.
-/

namespace Turnstile

namespace Numeral

theorem rank?_toDouble
    (n : Numeral) :
    n.toDouble.rank? = some (Double.nearestRank n.value) := by
  rw [toDouble, Double.rank?_ofDecimal, Double.signedRat, value, mul_assoc]

end Numeral

namespace Rule

open Double (nearestRank)

section Values

variable {v : Json} {p q : ℚ}

/-- The rational that a numeric value denotes. -/
inductive Denotes : Json → ℚ → Prop where
  | int (n : Int) : Denotes (.int n) n
  | float (negative : Bool) (units : Nat) (h : Double.representable units = true) :
      Denotes (.float (.finite negative units h))
        (Double.signedRat negative (units / Double.unitsPerOne))
  | text {text : String} {s : Numeral.Spelling} (h : Numeral.IsSpelled s text) :
      Denotes (.string text) s.value

/-- A value denotes one rational only. -/
theorem Denotes.unique
    (hp : Denotes v p)
    (hq : Denotes v q) :
    p = q := by
  cases hp with
  | int n =>
      cases hq
      rfl
  | float negative units h =>
      cases hq
      rfl
  | @text text s hs =>
      cases hq with
      | @text _ s' hs' =>
          have hread := Numeral.read?_eq_some_iff.mpr ⟨s, hs, rfl⟩
          have hread' := Numeral.read?_eq_some_iff.mpr ⟨s', hs', rfl⟩
          rw [← s.value_numeral, ← s'.value_numeral]
          exact congrArg Numeral.value (Option.some.inj (hread.symm.trans hread'))

/-- Numeric values denote rationals, doubles that are not finite apart. -/
theorem exists_denotes_iff :
    (∃ q, Denotes v q) ↔ isNumeric v = true ∧ ∀ x, v = .float x → x.isFinite = true := by
  constructor
  · rintro ⟨q, hq⟩
    cases hq with
    | int n => exact ⟨rfl, fun _ hx => Json.noConfusion hx⟩
    | float negative units h =>
        refine ⟨rfl, ?_⟩
        rintro x hx
        obtain rfl := Json.float.inj hx
        rfl
    | @text text s hs =>
        refine ⟨?_, fun _ hx => Json.noConfusion hx⟩
        rw [isNumeric, Numeral.read?_eq_some_iff.mpr ⟨s, hs, rfl⟩]
        rfl
  · rintro ⟨hnumeric, hfinite⟩
    cases v with
    | int n => exact ⟨n, .int n⟩
    | float x =>
        cases x with
        | finite negative units h => exact ⟨_, .float negative units h⟩
        | nan => cases hfinite _ rfl
        | infinite negative => cases hfinite _ rfl
    | string text =>
        obtain ⟨n, hn⟩ := Option.isSome_iff_exists.mp hnumeric
        obtain ⟨s, hs, -⟩ := Numeral.read?_eq_some_iff.mp hn
        exact ⟨s.value, .text hs⟩
    | _ => cases hnumeric

/-- A numeric value converts to the double of the nearest rank. -/
theorem exists_toDouble_of_denotes
    (hq : Denotes v q)
    (hconverts : resistsConversion v = false) :
    ∃ x, toDouble v = .ok x ∧ x.rank? = some (nearestRank q) := by
  cases hq with
  | int n =>
      rw [resistsConversion] at hconverts
      obtain ⟨x, hx⟩ := (exists_toDouble_int_iff n).mpr hconverts
      refine ⟨x, hx, ?_⟩
      rw [toDouble] at hx
      rw [eq_of_withinRange hx, Double.rank?_ofInt]
  | float negative units h => exact ⟨_, rfl, Double.rank?_finite negative h⟩
  | @text text s hs =>
      have hread := Numeral.read?_eq_some_iff.mpr ⟨s, hs, rfl⟩
      rw [resistsConversion, hread, Option.isSome_some, Bool.and_true] at hconverts
      refine ⟨s.numeral.toDouble, ?_, ?_⟩
      · rw [toDouble_string hread, if_neg (Bool.eq_false_iff.mp hconverts)]
      · rw [Numeral.rank?_toDouble, s.value_numeral]

end Values

section Order

variable {a : String} {b : Json} {p q : ℚ}

theorem orderDoubles_eq
    {x y : Double}
    {m n : Int}
    (hx : x.rank? = some m)
    (hy : y.rank? = some n) :
    orderDoubles x y = if m < n then .lt else if n < m then .gt else .eq := by
  simp only [orderDoubles, Double.lt_iff_of_rank? hx hy, Double.lt_iff_of_rank? hy hx]

/-- Numbers are compared by the ranks nearest to them. -/
theorem order_eq_of_denotes
    (ha : Denotes (.string a) p)
    (hb : Denotes b q)
    (hconverts : ¬ Resists a b) :
    order a b = .ok
      (if nearestRank p < nearestRank q then .lt
        else if nearestRank q < nearestRank p then .gt else .eq) := by
  obtain ⟨hnumeric, -⟩ := exists_denotes_iff.mp ⟨p, ha⟩
  obtain ⟨hnumeric', -⟩ := exists_denotes_iff.mp ⟨q, hb⟩
  rw [Resists, not_and, not_and, not_or, Bool.not_eq_true, Bool.not_eq_true] at hconverts
  obtain ⟨x, hx, hrank⟩ := exists_toDouble_of_denotes ha (hconverts hnumeric hnumeric').1
  obtain ⟨y, hy, hrank'⟩ := exists_toDouble_of_denotes hb (hconverts hnumeric hnumeric').2
  rw [order, hnumeric, hnumeric', hx, hy, ← orderDoubles_eq hrank hrank']
  rfl

/-- What an operator says of a text and an operand. -/
def compared
    (op : Operator)
    (a : String)
    (b : Json) : Except Fault Bool :=
  (comparing op b).matches (.value (.string a))

/-- Each comparison of numbers asks whether one nearest rank is below the other. -/
theorem compared_of_denotes
    (ha : Denotes (.string a) p)
    (hb : Denotes b q)
    (hconverts : ¬ Resists a b) :
    compared .gt a b = .ok (decide (nearestRank q < nearestRank p)) ∧
      compared .lt a b = .ok (decide (nearestRank p < nearestRank q)) ∧
      compared .gte a b = .ok (!decide (nearestRank p < nearestRank q)) ∧
      compared .lte a b = .ok (!decide (nearestRank q < nearestRank p)) := by
  have horder := order_eq_of_denotes ha hb hconverts
  have htext : (Signal.value (.string a)).text = a := rfl
  simp only [compared, matches_comparing, Operator.holds, htext, horder]
  rcases lt_trichotomy (nearestRank p) (nearestRank q) with hless | heq | hmore
  · simp [hless, hless.asymm, bind, Except.bind, pure, Except.pure]
  · simp [heq, bind, Except.bind, pure, Except.pure]
  · simp [hmore, hmore.asymm, bind, Except.bind, pure, Except.pure]

/-- Integers of up to 53 bits have nearest ranks in their own order. -/
theorem nearestRank_lt_nearestRank_iff
    {m n : Int}
    (hm : m.natAbs ≤ Double.exactLimit)
    (hn : n.natAbs ≤ Double.exactLimit) :
    nearestRank m < nearestRank n ↔ m < n := by
  rw [Double.nearestRank_intCast hm, Double.nearestRank_intCast hn]
  exact Int.mul_lt_mul_right (Int.natCast_pos.mpr Double.unitsPerOne_pos)

/--
**Comparing numbers does not contradict exact arithmetic.**  A numeric text and a numeric
operand that convert denote one rational each.  The greater of two rationals is not found
less, equal ones neither less nor greater, and integers of a magnitude up to `2 ^ 53` are
found less or greater exactly when they are.
-/
theorem comparisons_respect_exact_order
    {a : String}
    {b : Json}
    (ha : isNumeric (.string a) = true)
    (hb : isNumeric b = true)
    (hfinite : ∀ x, b = .float x → x.isFinite = true)
    (hconverts : ¬ Resists a b) :
    ∃ p q : ℚ,
      (∀ r, Denotes (.string a) r ↔ r = p) ∧
      (∀ r, Denotes b r ↔ r = q) ∧
      (p ≤ q → compared .gt a b = .ok false ∧ compared .lte a b = .ok true) ∧
      (q ≤ p → compared .lt a b = .ok false ∧ compared .gte a b = .ok true) ∧
      (∀ m n : Int,
        p = m →
        q = n →
        m.natAbs ≤ Double.exactLimit →
        n.natAbs ≤ Double.exactLimit →
        compared .gt a b = .ok (decide (n < m)) ∧ compared .lt a b = .ok (decide (m < n))) := by
  obtain ⟨p, hp⟩ := exists_denotes_iff.mpr ⟨ha, fun _ hx => Json.noConfusion hx⟩
  obtain ⟨q, hq⟩ := exists_denotes_iff.mpr ⟨hb, hfinite⟩
  obtain ⟨hgt, hlt, hgte, hlte⟩ := compared_of_denotes hp hq hconverts
  rw [hgt, hlt, hgte, hlte]
  refine ⟨p, q, fun r => ⟨fun hr => hr.unique hp, fun hr => hr ▸ hp⟩,
    fun r => ⟨fun hr => hr.unique hq, fun hr => hr ▸ hq⟩, ?_, ?_, ?_⟩
  · intro hle
    have hrank := Double.nearestRank_le_nearestRank hle
    simp [hrank]
  · intro hle
    have hrank := Double.nearestRank_le_nearestRank hle
    simp [hrank]
  · rintro m n rfl rfl hm hn
    simp only [nearestRank_lt_nearestRank_iff hm hn, nearestRank_lt_nearestRank_iff hn hm, and_self]

/-- The digit one. -/
def plainOne : Numeral.Spelling :=
  ⟨.omitted, ⟨['1'], by decide⟩, none, none, .inl (by decide)⟩

/-- One with a plus before it and a zero after its point. -/
def pointedOne : Numeral.Spelling :=
  ⟨.plus, ⟨['1'], by decide⟩, some ⟨['0'], by decide⟩, none, .inl (by decide)⟩

theorem value_plainOne : plainOne.value = 1 := by
  simp [plainOne, Numeral.Spelling.value, Numeral.Spelling.places,
    Numeral.Spelling.exponentValue, Numeral.Sign.factor, Numeral.Digits.value,
    show Text.decimalValue ['1'] = 1 by decide, show Text.decimalValue [] = 0 by decide]

theorem value_pointedOne : pointedOne.value = 1 := by
  simp [pointedOne, Numeral.Spelling.value, Numeral.Spelling.places,
    Numeral.Spelling.exponentValue, Numeral.Sign.factor, Numeral.Digits.value,
    show Text.decimalValue ['1'] = 1 by decide, show Text.decimalValue ['0'] = 0 by decide]

/-- The digit one after blanks denotes one. -/
theorem denotes_one
    {text : String}
    (before : List Char)
    (hbefore : ∀ c ∈ before, Text.isBlank c = true)
    (htext : text.toList = before ++ ['1']) :
    Denotes (.string text) 1 := by
  rw [← value_plainOne]
  exact .text ⟨before, [], hbefore, nofun, by rw [htext, List.append_nil]; rfl⟩

/-- Two spellings of one, of which neither is greater. -/
theorem spellings_of_one_are_equal :
    isNumeric (.string " +1.0") = true ∧
      isNumeric (.string "1") = true ∧
      ¬ Resists " +1.0" (.string "1") ∧
      compared .gt " +1.0" (.string "1") = .ok false ∧
      compared .lt " +1.0" (.string "1") = .ok false := by
  have hnumeric : isNumeric (.string " +1.0") = true := by decide +kernel
  have hnumeric' : isNumeric (.string "1") = true := by decide +kernel
  have hconverts : ¬ Resists " +1.0" (.string "1") := by
    rintro ⟨-, -, h | h⟩
    · exact absurd h (by decide +kernel)
    · exact absurd h (by decide +kernel)
  have hpointed : Denotes (.string " +1.0") 1 := by
    rw [← value_pointedOne]
    exact .text ⟨[' '], [], List.forall_mem_singleton.mpr rfl, nofun, rfl⟩
  obtain ⟨p, q, hp, hq, hle, hge, -⟩ :=
    comparisons_respect_exact_order hnumeric hnumeric' (fun _ hx => Json.noConfusion hx) hconverts
  obtain rfl := (hp 1).mp hpointed
  obtain rfl := (hq 1).mp (denotes_one [] nofun rfl)
  exact ⟨hnumeric, hnumeric', hconverts, (hle le_rfl).1, (hge le_rfl).1⟩

/-- A separator before the digit one is a blank, and yet the comparison with one is a fault. -/
theorem separator_before_numeral_is_a_fault :
    isNumeric (.string "\x1c1") = true ∧
      isNumeric (.string "1") = true ∧
      Denotes (.string "\x1c1") 1 ∧
      Denotes (.string "1") 1 ∧
      compared .gt "\x1c1" (.string "1") = .error .unreadableNumeral := by
  refine ⟨by decide +kernel, by decide +kernel, ?_, ?_, by decide +kernel⟩
  · exact denotes_one ['\x1c'] (List.forall_mem_singleton.mpr rfl) rfl
  · exact denotes_one [] nofun rfl

end Order

end Rule
end Turnstile
