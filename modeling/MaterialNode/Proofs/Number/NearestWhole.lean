import Mathlib.Algebra.Order.Field.Rat
import Mathlib.Algebra.Order.Ring.Abs
import Mathlib.Tactic.Linarith
import Mathlib.Tactic.Positivity
import Mathlib.Tactic.Ring
import MaterialNode.Number.SixPlaces

/-!
# Nearest Whole Numbers

The whole number nearest to a rational number, where the even one of two that are equally near
counts. Two whole numbers are at least one apart, so one at a distance of at most a half is nearest
(`IsNearest.of_abs_sub_le_half`), which is how far a rounded quotient lies from the exact one
(`isNearest_roundHalfEven`). Since of two equally near numbers only one is even, rounding keeps the
order (`IsNearest.le_of_le`).
-/

namespace MaterialNode

/-- Whether `n` is the whole number nearest to `q`, and the even one where two are equally near. -/
structure IsNearest (q : ℚ) (n : Int) : Prop where
  /-- No whole number is nearer. -/
  abs_sub_le : ∀ other : Int, |q - n| ≤ |q - other|
  /-- If another one is equally near, this one is even. -/
  even_of_eq : ∀ other : Int, other ≠ n → |q - n| = |q - other| → Even n

namespace IsNearest

variable {q q' : ℚ} {n n' : Int}

/-- Two whole numbers are at least one apart, so a distance of a half is enough. -/
theorem of_abs_sub_le_half (h : |q - n| ≤ 1 / 2) (heven : |q - n| = 1 / 2 → Even n) :
    IsNearest q n := by
  have hapart : ∀ other : Int, other ≠ n → 1 ≤ |q - n| + |q - other| := by
    intro other hne
    have hone : (1 : ℚ) ≤ |(other : ℚ) - n| := by
      exact_mod_cast Int.one_le_abs (sub_ne_zero.2 hne)
    calc (1 : ℚ) ≤ |(other : ℚ) - n| := hone
      _ = |(q - n) - (q - other)| := by ring_nf
      _ ≤ |q - n| + |q - other| := abs_sub _ _
  refine ⟨fun other => ?_, fun other hne heq => heven ?_⟩
  · by_cases hne : other = n
    · rw [hne]
    · linarith [hapart other hne]
  · linarith [hapart other hne]

theorem of_abs_sub_lt_half (h : |q - n| < 1 / 2) : IsNearest q n :=
  of_abs_sub_le_half h.le fun heq => absurd heq h.ne

theorem of_even (heven : Even n) (h : |q - n| ≤ 1 / 2) : IsNearest q n :=
  of_abs_sub_le_half h fun _ => heven

/-- A whole number is nearest to itself. -/
theorem self (n : Int) : IsNearest n n :=
  of_abs_sub_lt_half (by simp)

theorem neg (h : IsNearest q n) : IsNearest (-q) (-n) := by
  have hmirror : ∀ other : Int, |-q - other| = |q - (-other : Int)| := by
    intro other
    rw [← abs_neg]
    congr 1
    push_cast
    ring
  refine ⟨fun other => ?_, fun other hne heq => ?_⟩
  · rw [hmirror, hmirror, neg_neg]
    exact h.abs_sub_le _
  · rw [hmirror, hmirror, neg_neg] at heq
    exact (h.even_of_eq _ (fun hother => hne (by rw [← hother, neg_neg])) heq).neg

/-- The larger of two whole numbers is not farther from what lies above their middle only. -/
theorem add_le_of_abs_sub_le (hlt : n' < n) (h : |q - n| ≤ |q - n'|) : (n + n' : ℚ) ≤ 2 * q := by
  have hlt' : (n' : ℚ) < n := by exact_mod_cast hlt
  rcases abs_cases (q - n) with hn | hn <;> rcases abs_cases (q - n') with hn' | hn' <;> linarith

/-- The smaller of two whole numbers is not farther from what lies below their middle only. -/
theorem le_add_of_abs_sub_le (hlt : n' < n) (h : |q - n'| ≤ |q - n|) : 2 * q ≤ (n + n' : ℚ) := by
  have hlt' : (n' : ℚ) < n := by exact_mod_cast hlt
  rcases abs_cases (q - n) with hn | hn <;> rcases abs_cases (q - n') with hn' | hn' <;> linarith

/-- Rounding to the nearest keeps the order. -/
theorem le_of_le (h : IsNearest q n) (h' : IsNearest q' n') (hle : q ≤ q') : n ≤ n' := by
  by_contra hnot
  have hlt : n' < n := not_le.1 hnot
  have hcast : (n' : ℚ) < n := by exact_mod_cast hlt
  -- Both would lie in the middle, and both whole numbers would be even.
  have hlow := add_le_of_abs_sub_le hlt (h.abs_sub_le n')
  have hhigh := le_add_of_abs_sub_le hlt (h'.abs_sub_le n)
  have hmiddle : |q - n| = |q - n'| := by
    rw [abs_of_nonpos (by linarith), abs_of_nonneg (by linarith)]
    linarith
  have hmiddle' : |q' - n'| = |q' - n| := by
    rw [abs_of_nonneg (by linarith), abs_of_nonpos (by linarith)]
    linarith
  obtain ⟨half, hhalf⟩ := h.even_of_eq n' hlt.ne hmiddle
  obtain ⟨half', hhalf'⟩ := h'.even_of_eq n hlt.ne' hmiddle'
  -- Then a whole number lies between them, which is nearer than both.
  have hgap : (n' : ℚ) + 2 ≤ n := by
    exact_mod_cast (by omega : n' + 2 ≤ n)
  have hnear := h.abs_sub_le (n' + 1)
  push_cast at hnear
  rw [abs_of_nonpos (by linarith), abs_of_nonneg (by linarith)] at hnear
  linarith

end IsNearest

/-! ## Rounded Quotients -/

/-- The rounded quotient is the whole number nearest to the quotient. -/
theorem isNearest_roundHalfEven (numerator : Nat) {denominator : Nat} (h : 0 < denominator) :
    IsNearest (numerator / denominator) (roundHalfEven numerator denominator) := by
  have hpos : (0 : ℚ) < denominator := by exact_mod_cast h
  have hrest : numerator % denominator < denominator := Nat.mod_lt numerator h
  have hparts : numerator % denominator + numerator / denominator * denominator = numerator :=
    Nat.mod_add_div' numerator denominator
  rw [roundHalfEven]
  generalize numerator / denominator = quotient at *
  generalize numerator % denominator = rest at *
  -- What the whole quotient leaves over is a fraction below one.
  have hquotient : (numerator : ℚ) / denominator = quotient + rest / denominator := by
    rw [← hparts]
    push_cast
    rw [add_div, mul_div_cancel_right₀ _ hpos.ne', add_comm]
  have hnonneg : (0 : ℚ) ≤ rest / denominator := by positivity
  have hone : (rest : ℚ) / denominator < 1 := by
    rw [div_lt_one hpos]
    exact_mod_cast hrest
  rw [hquotient]
  rcases lt_trichotomy (2 * rest) denominator with hbelow | hhalf | habove
  · -- Less than a half is dropped.
    have hfraction : (rest : ℚ) / denominator < 1 / 2 := by
      rw [div_lt_div_iff₀ hpos two_pos]
      exact_mod_cast (by omega : rest * 2 < 1 * denominator)
    rw [if_pos hbelow]
    refine .of_abs_sub_lt_half ?_
    rw [Int.cast_natCast, add_sub_cancel_left, abs_of_nonneg hnonneg]
    exact hfraction
  · -- A half goes to the even neighbour.
    have hfraction : (rest : ℚ) / denominator = 1 / 2 := by
      rw [div_eq_div_iff hpos.ne' two_ne_zero]
      exact_mod_cast (by omega : rest * 2 = 1 * denominator)
    have heven : Even ((quotient + quotient % 2 : Nat) : Int) := by
      rw [Int.even_iff]
      omega
    rw [if_neg (by omega), if_neg (by omega), hfraction]
    refine .of_even heven ?_
    rcases Nat.mod_two_eq_zero_or_one quotient with hmod | hmod
    · rw [hmod]
      norm_num
    · rw [hmod]
      push_cast
      norm_num
  · -- More than a half is filled up to one.
    have hfraction : (1 : ℚ) / 2 < rest / denominator := by
      rw [div_lt_div_iff₀ two_pos hpos]
      exact_mod_cast (by omega : 1 * denominator < rest * 2)
    rw [if_neg (by omega), if_pos habove]
    refine .of_abs_sub_lt_half ?_
    push_cast
    rw [abs_of_nonpos (by linarith)]
    linarith

end MaterialNode
