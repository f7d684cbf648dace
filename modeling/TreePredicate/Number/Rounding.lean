/-!
# Rounding to a number of binary digits

* `Rounding.nearest num den` : the integer nearest to `num / den`, an exact half going to the even
  neighbour;
* `Rounding.significant bits num den` : `num / den` rounded to an integer of at most `bits`
  significant binary digits;
* `significant_of_factor` : a number of that shape is its own rounding;
* `significant_significant` : so rounding twice is rounding once.

Both functions take a magnitude, hence rounding is symmetric about zero by construction.
-/

set_option autoImplicit false

namespace TreePredicate.Rounding

/-- The integer nearest to `num / den`; of two equally near ones the even one. -/
def nearest (num den : Nat) : Nat :=
  let whole := num / den
  let rest := num % den
  if 2 * rest < den then whole
  else if den < 2 * rest then whole + 1
  else whole + whole % 2

/-- How many binary places `num / den` has above `bits`. -/
def excess (bits num den : Nat) : Nat := (num / den).log2 + 1 - bits

/-- `num / den` rounded to an integer of at most `bits` significant binary digits. -/
def significant (bits num den : Nat) : Nat :=
  let places := excess bits num den
  nearest num (den * Nat.pow 2 places) * Nat.pow 2 places

/-! ## The nearest integer -/

theorem nearest_le (num den : Nat) : nearest num den ≤ num / den + 1 := by
  unfold nearest
  dsimp only
  split
  · omega
  · split <;> omega

theorem nearest_of_dvd {num den : Nat} (pos : 0 < den) (whole : den ∣ num) :
    nearest num den = num / den := by
  have rest : num % den = 0 := Nat.mod_eq_zero_of_dvd whole
  simp [nearest, rest, pos]

/-! ## Significant digits -/

theorem div_lt_two_pow_excess (bits num den : Nat) :
    num / den < Nat.pow 2 (bits + excess bits num den) := by
  refine Nat.lt_of_lt_of_le Nat.lt_log2_self (Nat.pow_le_pow_right (by decide) ?_)
  unfold excess
  omega

theorem nearest_excess_le (bits num den : Nat) :
    nearest num (den * Nat.pow 2 (excess bits num den)) ≤ Nat.pow 2 bits := by
  refine Nat.le_trans (nearest_le num _) (Nat.succ_le_of_lt ?_)
  have bound := div_lt_two_pow_excess bits num den
  rw [Nat.pow_eq, Nat.pow_add] at bound
  rw [← Nat.div_div_eq_div_mul, Nat.pow_eq, Nat.pow_eq]
  exact (Nat.div_lt_iff_lt_mul (Nat.two_pow_pos _)).mpr bound

theorem nearest_mul_of_dvd {n d : Nat} (pos : 0 < d) (whole : d ∣ n) :
    nearest n (1 * d) * d = n := by
  rw [Nat.one_mul, nearest_of_dvd pos whole, Nat.div_mul_cancel whole]

/-- A number of at most `bits` significant digits is its own rounding. -/
theorem significant_of_factor {bits m places : Nat} (pos : 0 < bits) (le : m ≤ Nat.pow 2 bits) :
    significant bits (m * Nat.pow 2 places) 1 = m * Nat.pow 2 places := by
  refine nearest_mul_of_dvd (Nat.two_pow_pos _) ?_
  unfold excess
  rw [Nat.div_one]
  by_cases zero : m = 0
  · simp [zero]
  · have nonzero : m * Nat.pow 2 places ≠ 0 :=
      Nat.mul_ne_zero zero (Nat.pos_iff_ne_zero.mp (Nat.two_pow_pos _))
    by_cases top : m = Nat.pow 2 bits
    · subst top
      rw [Nat.pow_eq, Nat.pow_eq, Nat.pow_eq, ← Nat.pow_add, Nat.log2_two_pow]
      exact Nat.pow_dvd_pow 2 (by omega)
    · have below : (m * Nat.pow 2 places).log2 < bits + places := by
        rw [Nat.log2_lt nonzero, Nat.pow_add]
        exact Nat.mul_lt_mul_of_pos_right (Nat.lt_of_le_of_ne le top) (Nat.two_pow_pos _)
      exact Nat.dvd_trans (Nat.pow_dvd_pow 2 (by omega)) (Nat.dvd_mul_left _ _)

/-- Rounding twice is rounding once. -/
theorem significant_significant {bits : Nat} (pos : 0 < bits) (num den : Nat) :
    significant bits (significant bits num den) 1 = significant bits num den :=
  significant_of_factor pos (nearest_excess_le bits num den)

end TreePredicate.Rounding
