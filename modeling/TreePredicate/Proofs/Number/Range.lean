import Mathlib.Data.List.Basic
import Mathlib.Tactic.Linarith
import Mathlib.Tactic.Ring
import TreePredicate.Proofs.Number.Order

/-!
# The end of the doubles

* `nearest_spec` : how far the nearest integer is away; `two_mul_le_nearest`, `nearest_mul_le`,
  `le_nearest`, `even_le_nearest_iff` : what follows of it, and when it reaches an integer;
* `significant_lt_iff` : which quotients are rounded below a power of two: those below the middle
  between it and the greatest number of so many digits before it;
* `le_significant`, `significant_le_of_lt` : nothing is rounded across that greatest number;
* `integerLimit`, `greatestInteger` : the least integer that is too large for a double, and the
  greatest double; `ofRatio_finite`, `ofRatio_infinite` : where the finite doubles end;
* `Overflows` : a computation ends with an overflow;
* `Number.Large` : an integer that does not become a double; `overflows_toDouble?`,
  `overflows_add?`, `overflows_mean?` : which numbers the mixed arithmetic refuses.
-/

set_option autoImplicit false

namespace TreePredicate

namespace Rounding

/-! ## The nearest integer -/

/-- The nearest integer is less than one half away, or it is exactly one half away and even. -/
theorem nearest_spec {den : Nat} (pos : 0 < den) (num : Nat) :
    2 * num < (2 * nearest num den + 1) * den ∧ 2 * (nearest num den * den) < 2 * num + den ∨
      nearest num den % 2 = 0 ∧
        (2 * num = (2 * nearest num den + 1) * den ∨
          2 * (nearest num den * den) = 2 * num + den) := by
  have hsplit := Nat.div_add_mod num den
  have hrest := Nat.mod_lt num pos
  unfold nearest
  dsimp only
  generalize num / den = whole at hsplit ⊢
  generalize num % den = rest at hsplit hrest ⊢
  split
  · refine .inl ⟨?_, ?_⟩ <;> linarith
  split
  · refine .inl ⟨?_, ?_⟩ <;> linarith
  -- The rest is one half; the parity of the quotient decides which neighbour is taken.
  have hhalf : 2 * rest = den := by omega
  rcases Nat.mod_two_eq_zero_or_one whole with heven | hodd
  · rw [heven]
    exact .inr ⟨heven, .inl (by linarith)⟩
  · rw [hodd]
    exact .inr ⟨by omega, .inr (by linarith)⟩

/-- The nearest integer is at most one half away. -/
theorem two_mul_le_nearest {den : Nat} (pos : 0 < den) (num : Nat) :
    2 * num ≤ (2 * nearest num den + 1) * den := by
  rcases nearest_spec pos num with ⟨hlow, -⟩ | ⟨-, htie | htie⟩ <;> linarith

/-- The nearest integer is at most one half away. -/
theorem nearest_mul_le {den : Nat} (pos : 0 < den) (num : Nat) :
    2 * (nearest num den * den) ≤ 2 * num + den := by
  rcases nearest_spec pos num with ⟨-, hhigh⟩ | ⟨-, htie | htie⟩ <;> linarith

/-- Rounding does not cross an integer. -/
theorem le_nearest {m num den : Nat} (pos : 0 < den) (h : m * den ≤ num) : m ≤ nearest num den := by
  by_contra hnot
  have herror := two_mul_le_nearest pos num
  have hmul := Nat.mul_le_mul_right den (by omega : nearest num den + 1 ≤ m)
  linarith

/-- An exact half goes to an even number. -/
theorem even_le_nearest_iff {m num den : Nat} (even : m % 2 = 0) (hm : 0 < m) (pos : 0 < den) :
    m ≤ nearest num den ↔ (2 * m - 1) * den ≤ 2 * num := by
  obtain ⟨k, rfl⟩ : ∃ k, m = k + 1 := ⟨m - 1, by omega⟩
  rw [show 2 * (k + 1) - 1 = 2 * k + 1 by omega]
  have hspec := nearest_spec pos num
  generalize nearest num den = n at hspec ⊢
  constructor
  · intro hle
    have hmul := Nat.mul_le_mul_right den hle
    rcases hspec with ⟨-, hhigh⟩ | ⟨-, htie | htie⟩ <;> linarith
  · intro hle
    by_contra hnot
    -- Else the quotient is exactly at the middle and `n` is `k`, which is odd.
    have hmul := Nat.mul_le_mul_right den (by omega : n ≤ k)
    rcases hspec with ⟨hlow, -⟩ | ⟨heven, htie | htie⟩
    · linarith
    · have hless := Nat.mul_le_mul_right den (by omega : n + 1 ≤ k)
      linarith
    · linarith

/-! ## Significant digits -/

theorem significant_eq (bits num den : Nat) :
    significant bits num den =
      nearest num (den * 2 ^ excess bits num den) * 2 ^ excess bits num den := rfl

theorem excess_eq {bits places num den : Nat} (low : 2 ^ (bits + places) ≤ num / den)
    (high : num / den < 2 ^ (bits + (places + 1))) : excess bits num den = places + 1 := by
  have hzero : num / den ≠ 0 := by
    have := Nat.two_pow_pos (bits + places)
    omega
  have hle := (Nat.le_log2 hzero).mpr low
  have hlt := (Nat.log2_lt hzero).mpr high
  unfold excess
  omega

theorem excess_le {bits places num den : Nat} (hbits : 0 < bits)
    (h : num / den < 2 ^ (bits + places)) : excess bits num den ≤ places := by
  unfold excess
  by_cases hzero : num / den = 0
  · rw [hzero, Nat.log2_zero]
    omega
  · have hlog := (Nat.log2_lt hzero).mpr h
    omega

/-- A quotient is not rounded below a power of two. -/
theorem two_pow_le_significant {bits k num den : Nat} (hbits : 0 < bits) (pos : 0 < den)
    (h : 2 ^ k ≤ num / den) : 2 ^ k ≤ significant bits num den := by
  have hzero : num / den ≠ 0 := by
    have := Nat.two_pow_pos k
    omega
  have hk := (Nat.le_log2 hzero).mpr h
  have hfloor : 2 ^ (num / den).log2 * den ≤ num :=
    (Nat.le_div_iff_mul_le pos).mp (Nat.log2_self_le hzero)
  obtain ⟨top, htop⟩ : ∃ top, (num / den).log2 = top + excess bits num den :=
    ⟨(num / den).log2 - excess bits num den, by unfold excess; omega⟩
  refine Nat.le_trans (Nat.pow_le_pow_right (by decide) hk) ?_
  rw [significant_eq]
  generalize excess bits num den = places at htop ⊢
  rw [htop, Nat.pow_add] at hfloor ⊢
  refine Nat.mul_le_mul_right _ (le_nearest (Nat.mul_pos pos (Nat.two_pow_pos _)) ?_)
  calc 2 ^ top * (den * 2 ^ places) = 2 ^ top * 2 ^ places * den := by ring
    _ ≤ num := hfloor

section Top

variable {bits places num den : Nat}

/-- A quotient is rounded below a power of two if it lies below the middle between that and the
greatest number of so many digits before it. -/
theorem significant_lt_iff (hbits : 0 < bits) (pos : 0 < den) :
    significant bits num den < 2 ^ (bits + (places + 1)) ↔
      num < (2 * 2 ^ bits - 1) * 2 ^ places * den := by
  have htop : 2 ^ (bits + (places + 1)) = 2 * (2 ^ bits * 2 ^ places) := by ring
  have hmiddle : (2 * 2 ^ bits - 1) * 2 ^ places + 2 ^ places = 2 * (2 ^ bits * 2 ^ places) := by
    obtain ⟨m, hm⟩ : ∃ m, 2 ^ bits = m + 1 := Nat.exists_eq_add_one.mpr (Nat.two_pow_pos bits)
    rw [hm, show 2 * (m + 1) - 1 = 2 * m + 1 by omega]
    ring
  have hpos := Nat.two_pow_pos places
  have hle : 2 ^ places ≤ 2 ^ bits * 2 ^ places := Nat.le_mul_of_pos_left _ (Nat.two_pow_pos bits)
  rcases Nat.lt_or_ge (num / den) (2 ^ (bits + places)) with hlow | hlow
  · -- Too small to be rounded to the power.
    have hsig : significant bits num den ≤ 2 ^ bits * 2 ^ places :=
      Nat.mul_le_mul (nearest_excess_le bits num den)
        (Nat.pow_le_pow_right (by decide) (excess_le hbits hlow))
    have hnum := (Nat.div_lt_iff_lt_mul pos).mp hlow
    rw [Nat.pow_add] at hnum
    have hmul := Nat.mul_le_mul_right den (by omega :
      2 ^ bits * 2 ^ places ≤ (2 * 2 ^ bits - 1) * 2 ^ places)
    exact iff_of_true (by omega) (by omega)
  rcases Nat.lt_or_ge (num / den) (2 ^ (bits + (places + 1))) with hhigh | hhigh
  · -- The last place is the one before the power, which is even in it.
    have heven : 2 ^ bits % 2 = 0 := by
      obtain ⟨b, rfl⟩ : ∃ b, bits = b + 1 := Nat.exists_eq_add_one.mpr hbits
      omega
    have hscale : (2 * 2 ^ bits - 1) * (den * 2 ^ (places + 1)) =
        2 * ((2 * 2 ^ bits - 1) * 2 ^ places * den) := by
      generalize 2 * 2 ^ bits - 1 = m
      ring
    have hiff : 2 ^ bits ≤ nearest num (den * 2 ^ (places + 1)) ↔ _ :=
      even_le_nearest_iff heven (Nat.two_pow_pos bits)
        (Nat.mul_pos pos (Nat.two_pow_pos (places + 1)))
    rw [hscale] at hiff
    rw [significant_eq, excess_eq hlow hhigh, Nat.pow_add 2 bits]
    refine (Nat.mul_lt_mul_right (Nat.two_pow_pos (places + 1))).trans ?_
    omega
  · -- Beyond the power already.
    have hsig := two_pow_le_significant hbits pos hhigh
    have hnum := (Nat.le_div_iff_mul_le pos).mp hhigh
    have hmul := Nat.mul_le_mul_right den (by omega :
      (2 * 2 ^ bits - 1) * 2 ^ places ≤ 2 ^ (bits + (places + 1)))
    exact iff_of_false (by omega) (by omega)

/-- Nothing from the greatest number of so many digits below a power of two on is rounded below
it. -/
theorem le_significant (hbits : 0 < bits) (pos : 0 < den)
    (h : (2 ^ bits - 1) * 2 ^ (places + 1) * den ≤ num) :
    (2 ^ bits - 1) * 2 ^ (places + 1) ≤ significant bits num den := by
  have hfloor := (Nat.le_div_iff_mul_le pos).mpr h
  rcases Nat.lt_or_ge (num / den) (2 ^ (bits + (places + 1))) with hhigh | hhigh
  · have hlow : 2 ^ (bits + places) ≤ num / den := by
      refine Nat.le_trans ?_ hfloor
      rw [show bits + places = (bits - 1) + (places + 1) by omega, Nat.pow_add]
      refine Nat.mul_le_mul_right _ ?_
      have hsplit : 2 ^ bits = 2 * 2 ^ (bits - 1) := by rw [← Nat.pow_succ']; congr 1; omega
      have := Nat.two_pow_pos (bits - 1)
      omega
    rw [significant_eq, excess_eq hlow hhigh]
    refine Nat.mul_le_mul_right _ (le_nearest (Nat.mul_pos pos (Nat.two_pow_pos _)) ?_)
    calc (2 ^ bits - 1) * (den * 2 ^ (places + 1))
        = (2 ^ bits - 1) * 2 ^ (places + 1) * den := by ring
      _ ≤ num := h
  · refine Nat.le_trans ?_ (two_pow_le_significant hbits pos hhigh)
    rw [Nat.pow_add _ bits]
    exact Nat.mul_le_mul_right _ (Nat.sub_le _ _)

/-- The greatest number of so many digits below a power of two is its own rounding. -/
theorem significant_greatest (bits places : Nat) (hbits : 0 < bits) :
    significant bits ((2 ^ bits - 1) * 2 ^ places) 1 = (2 ^ bits - 1) * 2 ^ places :=
  significant_of_factor hbits (Nat.sub_le _ _)

theorem excess_le_of_significant_lt (hbits : 0 < bits) (pos : 0 < den)
    (h : significant bits num den < 2 ^ (bits + places)) : excess bits num den ≤ places :=
  excess_le hbits (Nat.lt_of_not_le fun hle =>
    Nat.not_le.mpr h (two_pow_le_significant hbits pos hle))

/-- Below a power of two nothing is rounded beyond the greatest number of so many digits. -/
theorem significant_le_of_lt (hbits : 0 < bits) (pos : 0 < den)
    (h : significant bits num den < 2 ^ (bits + (places + 1))) :
    significant bits num den ≤ (2 ^ bits - 1) * 2 ^ (places + 1) := by
  have hexcess := excess_le_of_significant_lt hbits pos h
  have hnearest := nearest_excess_le bits num den
  rw [Nat.pow_eq] at hnearest
  rw [significant_eq] at h ⊢
  rcases Nat.lt_or_eq_of_le hexcess with hlt | heq
  · have hpow := Nat.pow_le_pow_right (by decide : 0 < 2) (Nat.le_of_lt_succ hlt)
    have htwo : 2 ≤ 2 ^ bits := Nat.pow_le_pow_right (by decide : 0 < 2) hbits
    calc nearest num _ * 2 ^ excess bits num den ≤ 2 ^ bits * 2 ^ places :=
          Nat.mul_le_mul hnearest hpow
      _ ≤ ((2 ^ bits - 1) * 2) * 2 ^ places := Nat.mul_le_mul_right _ (by omega)
      _ = (2 ^ bits - 1) * 2 ^ (places + 1) := by ring
  · rw [heq, Nat.pow_add 2 bits] at h
    rw [heq]
    have hlt := Nat.lt_of_mul_lt_mul_right h
    exact Nat.mul_le_mul_right _ (Nat.le_sub_one_of_lt hlt)

/-- A quotient that is rounded below a power of two is at most half the last place away. -/
theorem two_mul_le_significant (hbits : 0 < bits) (pos : 0 < den)
    (h : significant bits num den < 2 ^ (bits + places)) :
    2 * num ≤ (2 * significant bits num den + 2 ^ places) * den := by
  have hpow := Nat.pow_le_pow_right (by decide : 0 < 2) (excess_le_of_significant_lt hbits pos h)
  have herror := two_mul_le_nearest (Nat.mul_pos pos (Nat.two_pow_pos (excess bits num den))) num
  rw [significant_eq]
  generalize excess bits num den = k at hpow herror ⊢
  calc 2 * num ≤ (2 * nearest num (den * 2 ^ k) + 1) * (den * 2 ^ k) := herror
    _ = (2 * (nearest num (den * 2 ^ k) * 2 ^ k) + 2 ^ k) * den := by ring
    _ ≤ (2 * (nearest num (den * 2 ^ k) * 2 ^ k) + 2 ^ places) * den :=
        Nat.mul_le_mul_right den (by omega)

end Top

end Rounding

/-! ## The greatest double -/

/-- The greatest double, which is an integer. -/
def greatestInteger : Nat := Nat.pow 2 1024 - Nat.pow 2 971

/-- The distance between the greatest double and the one before it. -/
def lastPlace : Nat := Nat.pow 2 971

/-- The least integer that is too large for a double: the middle between the greatest double and the
power of two behind it. -/
def integerLimit : Nat := Nat.pow 2 1024 - Nat.pow 2 970

-- Unfolded, these are powers that no step may write out.
attribute [local irreducible] unitsPerOne unitsBound greatestInteger lastPlace integerLimit

/-- All that is ever evaluated of these powers. -/
theorem evaluated_powers :
    unitsBound = 2 ^ (53 + (2044 + 1)) ∧
      greatestInteger * unitsPerOne = (2 ^ 53 - 1) * 2 ^ (2044 + 1) ∧
      lastPlace * unitsPerOne = 2 ^ (2044 + 1) ∧
      integerLimit * unitsPerOne = (2 * 2 ^ 53 - 1) * 2 ^ 2044 ∧
      2 * integerLimit = 2 * greatestInteger + lastPlace ∧
      2 ^ 63 < lastPlace ∧ lastPlace < greatestInteger ∧
      greatestInteger * unitsPerOne < unitsBound ∧
      Width.double.greatestUnits = greatestInteger * unitsPerOne := by decide +kernel

theorem unitsBound_eq : unitsBound = 2 ^ (53 + (2044 + 1)) := evaluated_powers.1

theorem greatestInteger_units :
    greatestInteger * unitsPerOne = (2 ^ 53 - 1) * 2 ^ (2044 + 1) := evaluated_powers.2.1

theorem lastPlace_units : lastPlace * unitsPerOne = 2 ^ (2044 + 1) := evaluated_powers.2.2.1

theorem integerLimit_units :
    integerLimit * unitsPerOne = (2 * 2 ^ 53 - 1) * 2 ^ 2044 := evaluated_powers.2.2.2.1

theorem integerLimit_eq : 2 * integerLimit = 2 * greatestInteger + lastPlace := evaluated_powers.2.2.2.2.1

theorem two_pow_63_lt_greatestInteger : 2 ^ 63 < greatestInteger :=
  Nat.lt_trans evaluated_powers.2.2.2.2.2.1 evaluated_powers.2.2.2.2.2.2.1

theorem greatestInteger_add_ten_lt : greatestInteger + 10 < integerLimit := by
  have hplace : 2 ^ 63 < lastPlace := evaluated_powers.2.2.2.2.2.1
  have hlimit := integerLimit_eq
  omega

/-- No double is past the greatest one. -/
theorem Magnitude.units_le (m : Magnitude) : m.units ≤ greatestInteger * unitsPerOne := by
  have hsmall := m.small
  have hrounded := m.rounded
  rw [unitsBound_eq, ← hrounded] at hsmall
  rw [greatestInteger_units, ← hrounded]
  exact Rounding.significant_le_of_lt (by decide) Nat.one_pos hsmall

theorem signed_mul (negative : Bool) (m n : Nat) :
    signed negative m * (n : Int) = signed negative (m * n) := by
  cases negative <;> simp [signed]

theorem signed_decide (n : Int) : signed (decide (n < 0)) n.natAbs = n := by
  by_cases h : n < 0 <;> simp only [signed, h, decide_true, decide_false, if_true,
    Bool.false_eq_true, if_false] <;> omega

theorem Width.double_limit (negative : Bool) :
    ∃ m, Double.ofUnits negative Width.double.greatestUnits 1 = .finite negative m ∧
      m.units = greatestInteger * unitsPerOne := by
  obtain ⟨-, -, -, -, -, -, -, hsmall, hgreatest⟩ := evaluated_powers
  have hround := Rounding.significant_greatest 53 (2044 + 1) (by decide)
  rw [← greatestInteger_units] at hround
  rw [hgreatest]
  obtain ⟨m, hm, hunits⟩ := ofUnits_finite negative (Eq.substr hround hsmall)
  exact ⟨m, hm, hunits.trans hround⟩

/-- A double has room for every finite double. -/
theorem Width.double_holds (negative : Bool) (m : Magnitude) :
    Width.double.holds (.double (.finite negative m)) = true := by
  obtain ⟨low, hlow, hlowUnits⟩ := double_limit true
  obtain ⟨high, hhigh, hhighUnits⟩ := double_limit false
  have hlimits : Width.double.limits =
      (.double (.finite true low), .double (.finite false high)) := by
    rw [← hlow, ← hhigh]
    rfl
  have hle := m.units_le
  rw [holds, hlimits]
  simp only [Number.le, Number.point?, Double.point?, Point.at_le_at, Bool.and_eq_true,
    decide_eq_true_eq, hlowUnits, hhighUnits]
  generalize greatestInteger * unitsPerOne = bound at hle
  cases negative <;> simp only [signed, if_true, Bool.false_eq_true, if_false] <;> omega

section Ratio

variable {n den : Nat}

theorem significant_ratio_lt_iff (pos : 0 < den) :
    Rounding.significant 53 (n * unitsPerOne) den < unitsBound ↔ n < integerLimit * den := by
  rw [unitsBound_eq, Rounding.significant_lt_iff (by decide) pos, ← integerLimit_units,
    Nat.mul_right_comm]
  exact Nat.mul_lt_mul_right unitsPerOne_pos

/-- A quotient below the limit is a finite double: the greatest one from there on, and never more
than half the last place away. -/
theorem ofRatio_finite (negative : Bool) (pos : 0 < den) (h : n < integerLimit * den) :
    ∃ m, Double.ofRatio negative n den = .finite negative m ∧
      (greatestInteger * den ≤ n → m.units = greatestInteger * unitsPerOne) ∧
      2 * n * unitsPerOne ≤ (2 * m.units + lastPlace * unitsPerOne) * den := by
  have hlt := (significant_ratio_lt_iff pos).mpr h
  obtain ⟨m, hm, hunits⟩ := ofUnits_finite negative hlt
  refine ⟨m, hm, fun hle => Nat.le_antisymm m.units_le ?_, ?_⟩
  · rw [hunits, greatestInteger_units]
    refine Rounding.le_significant (by decide) pos ?_
    rw [← greatestInteger_units, Nat.mul_right_comm]
    exact Nat.mul_le_mul_right unitsPerOne hle
  · rw [hunits, lastPlace_units, Nat.mul_assoc]
    exact Rounding.two_mul_le_significant (by decide) pos (unitsBound_eq ▸ hlt)

/-- A quotient from the limit on is infinite. -/
theorem ofRatio_infinite (negative : Bool) (pos : 0 < den) (h : integerLimit * den ≤ n) :
    Double.ofRatio negative n den = .infinite negative := by
  have hnot : ¬ Rounding.significant 53 (n * unitsPerOne) den < unitsBound := by
    rw [significant_ratio_lt_iff pos]
    omega
  unfold Double.ofRatio Double.ofUnits
  exact dif_neg hnot

end Ratio

/-! ## Overflows -/

/-- A computation ends with an overflow. -/
def Overflows {α : Type} (x : Except Overflow α) : Prop := ∃ cause, x = .error cause

section Monad

variable {α β : Type}

theorem not_overflows_ok (a : α) : ¬ Overflows (.ok a) := by
  rintro ⟨cause, h⟩
  cases h

theorem overflows_error (cause : Overflow) : Overflows (.error cause : Except Overflow α) :=
  ⟨cause, rfl⟩

theorem overflows_bind {x : Except Overflow α} {f : α → Except Overflow β} :
    Overflows (x >>= f) ↔ Overflows x ∨ ∃ a, x = .ok a ∧ Overflows (f a) := by
  cases x with
  | error cause => exact iff_of_true (overflows_error cause) (.inl (overflows_error cause))
  | ok a =>
    refine ⟨fun h => .inr ⟨a, rfl, h⟩, fun h => ?_⟩
    rcases h with h | ⟨b, hb, h⟩
    · exact absurd h (not_overflows_ok a)
    · cases hb
      exact h

theorem eq_ok_of_not_overflows {x : Except Overflow α} (h : ¬ Overflows x) : ∃ a, x = .ok a := by
  cases x with
  | error cause => exact absurd (overflows_error cause) h
  | ok a => exact ⟨a, rfl⟩

/-- What succeeds has succeeded in its first part and goes on from there. -/
theorem ok_of_bind {ε : Type} {x : Except ε α} {f : α → Except ε β} {b : β}
    (h : (x >>= f) = .ok b) : ∃ a, x = .ok a ∧ f a = .ok b := by
  cases x with
  | error cause => cases h
  | ok a => exact ⟨a, rfl, h⟩

theorem overflows_mapM {f : α → Except Overflow β} {xs : List α} :
    Overflows (xs.mapM f) ↔ ∃ x ∈ xs, Overflows (f x) := by
  induction xs with
  | nil => exact iff_of_false (not_overflows_ok _) (by simp)
  | cons x xs ih =>
    rw [List.mapM_cons, overflows_bind, List.exists_mem_cons_iff]
    constructor
    · rintro (h | ⟨y, -, h⟩)
      · exact .inl h
      · rcases overflows_bind.mp h with h | ⟨ys, -, h⟩
        · exact .inr (ih.mp h)
        · exact absurd h (not_overflows_ok _)
    · intro h
      by_cases hx : Overflows (f x)
      · exact .inl hx
      · obtain ⟨y, hy⟩ := eq_ok_of_not_overflows hx
        exact .inr ⟨y, hy, overflows_bind.mpr (.inl (ih.mpr (h.resolve_left hx)))⟩

theorem mem_iff_of_mapM {f : α → Except Overflow β} {xs : List α} {ys : List β}
    (h : xs.mapM f = .ok ys) (y : β) : y ∈ ys ↔ ∃ x ∈ xs, f x = .ok y := by
  induction xs generalizing ys with
  | nil =>
    cases h
    simp
  | cons x xs ih =>
    rw [List.mapM_cons] at h
    obtain ⟨z, hx, h⟩ := ok_of_bind h
    obtain ⟨zs, hxs, h⟩ := ok_of_bind h
    cases h
    rw [List.mem_cons, List.exists_mem_cons_iff, ih hxs, hx, Except.ok.injEq, eq_comm]

end Monad

/-! ## Integers that are too large -/

namespace Number

/-- An integer too large to become a double. -/
def Large (a : Number) : Prop := ∃ n, a = .int n ∧ integerLimit ≤ n.natAbs

@[simp]
theorem large_int {n : Int} : (Number.int n).Large ↔ integerLimit ≤ n.natAbs :=
  ⟨fun ⟨_, h, hle⟩ => by cases h; exact hle, fun h => ⟨n, rfl, h⟩⟩

@[simp]
theorem not_large_double (d : Double) : ¬ (Number.double d).Large := by
  rintro ⟨n, h, -⟩
  cases h

theorem Large.isFinite {a : Number} (h : a.Large) : a.isFinite = true := by
  obtain ⟨n, rfl, -⟩ := h
  rfl

/-- An integer below the limit becomes a finite double of its sign. -/
theorem toDouble?_int_eq {n : Int} (h : n.natAbs < integerLimit) :
    ∃ m, (Number.int n).toDouble? = .ok (.finite (n < 0) m) ∧
      (greatestInteger ≤ n.natAbs → m.units = greatestInteger * unitsPerOne) := by
  obtain ⟨m, hm, htop, -⟩ := ofRatio_finite (decide (n < 0)) Nat.one_pos
    ((Nat.mul_one integerLimit).symm ▸ h)
  refine ⟨m, ?_, fun hle => htop ((Nat.mul_one greatestInteger).symm ▸ hle)⟩
  rw [toDouble?, Double.ofInt, hm]
  rfl

theorem overflows_toDouble? {a : Number} : Overflows a.toDouble? ↔ a.Large := by
  cases a with
  | double d => exact iff_of_false (not_overflows_ok d) (not_large_double d)
  | int n =>
    rw [large_int]
    rcases Nat.lt_or_ge n.natAbs integerLimit with h | h
    · obtain ⟨m, hm, -⟩ := toDouble?_int_eq h
      rw [hm]
      exact iff_of_false (not_overflows_ok _) (by omega)
    · rw [toDouble?, Double.ofInt, ofRatio_infinite _ Nat.one_pos ((Nat.mul_one _).symm ▸ h)]
      exact iff_of_true (overflows_error _) h

/-- Half of an integer below twice the limit is a finite double of its sign. -/
theorem half?_int_eq {n : Int} (h : n.natAbs < 2 * integerLimit) :
    ∃ m, (Number.int n).half? = .ok (.finite (n < 0) m) ∧
      (2 * greatestInteger ≤ n.natAbs → m.units = greatestInteger * unitsPerOne) ∧
      n.natAbs * unitsPerOne ≤ 2 * m.units + lastPlace * unitsPerOne := by
  obtain ⟨m, hm, htop, herror⟩ := ofRatio_finite (decide (n < 0)) Nat.two_pos
    (Nat.mul_comm 2 integerLimit ▸ h)
  refine ⟨m, ?_, fun hle => htop (Nat.mul_comm 2 greatestInteger ▸ hle), by linarith⟩
  rw [half?, hm]
  rfl

theorem overflows_half?_int {n : Int} :
    Overflows (Number.int n).half? ↔ 2 * integerLimit ≤ n.natAbs := by
  rcases Nat.lt_or_ge n.natAbs (2 * integerLimit) with h | h
  · obtain ⟨m, hm, -⟩ := half?_int_eq h
    rw [hm]
    exact iff_of_false (not_overflows_ok _) (by omega)
  · rw [half?, ofRatio_infinite _ Nat.two_pos (Nat.mul_comm 2 integerLimit ▸ h)]
    exact iff_of_true (overflows_error _) h

/-- A sum overflows if one term is a double and the other one too large for it. -/
theorem overflows_add? {a b : Number} :
    Overflows (a.add? b) ↔
      (a.Large ∧ ∃ d, b = .double d) ∨ (∃ d, a = .double d) ∧ b.Large := by
  have hmixed : ∀ x y : Number, Overflows (do
      let c ← x.toDouble?
      let d ← y.toDouble?
      return Number.double (c.add d)) ↔ x.Large ∨ ∃ c, x.toDouble? = .ok c ∧ y.Large := by
    intro x y
    rw [overflows_bind, overflows_toDouble?]
    refine or_congr Iff.rfl (exists_congr fun c => and_congr Iff.rfl ?_)
    rw [overflows_bind, overflows_toDouble?]
    refine or_iff_left ?_
    rintro ⟨d, -, h⟩
    exact not_overflows_ok _ h
  cases a with
  | int m =>
    cases b with
    | int n => exact iff_of_false (not_overflows_ok _) (by simp)
    | double d => exact (hmixed _ _).trans (by simp)
  | double c =>
    cases b with
    | int n => exact (hmixed _ _).trans (by simp [toDouble?])
    | double d => exact (hmixed _ _).trans (by simp)

/-- Two integers have an integer for their sum; any other two numbers become doubles before. -/
theorem add?_eq_ok {a b c : Number} (h : a.add? b = .ok c) :
    (∃ m n, a = .int m ∧ b = .int n ∧ c = .int (m + n)) ∨
      ∃ x y, a.toDouble? = .ok x ∧ b.toDouble? = .ok y ∧ c = .double (x.add y) := by
  have hmixed : ∀ x? y? : Except Overflow Double, (do
      let x ← x?
      let y ← y?
      return Number.double (x.add y)) = .ok c →
      ∃ x y, x? = .ok x ∧ y? = .ok y ∧ c = .double (x.add y) := by
    intro x? y? h
    obtain ⟨x, hx, h⟩ := ok_of_bind h
    obtain ⟨y, hy, h⟩ := ok_of_bind h
    cases h
    exact ⟨x, y, hx, hy, rfl⟩
  cases a with
  | double d => exact .inr (hmixed _ _ h)
  | int m =>
    cases b with
    | double d => exact .inr (hmixed _ _ h)
    | int n =>
      cases h
      exact .inl ⟨m, n, rfl, rfl, rfl⟩

/-- The midpoint of integers is half of their exact sum. -/
theorem mean?_int (m n : Int) : (Number.int m).mean? (.int n) = (Number.int (m + n)).half? := by
  unfold mean?
  exact pure_bind (Number.int (m + n)) half?

/-- A midpoint overflows if it is past the largest double or one end is a double and the other one
too large for it. -/
theorem overflows_mean? {a b : Number} :
    Overflows (a.mean? b) ↔
      (∃ m n, a = .int m ∧ b = .int n ∧ 2 * integerLimit ≤ (m + n).natAbs) ∨
        (a.Large ∧ ∃ d, b = .double d) ∨ (∃ d, a = .double d) ∧ b.Large := by
  rw [mean?, overflows_bind, overflows_add?, or_comm]
  refine or_congr ?_ Iff.rfl
  constructor
  · rintro ⟨sum, hsum, h⟩
    rcases add?_eq_ok hsum with ⟨m, n, rfl, rfl, rfl⟩ | ⟨x, y, -, -, rfl⟩
    · exact ⟨m, n, rfl, rfl, overflows_half?_int.mp h⟩
    · exact absurd h (not_overflows_ok _)
  · rintro ⟨m, n, rfl, rfl, h⟩
    exact ⟨.int (m + n), rfl, overflows_half?_int.mpr h⟩

theorem overflows_mean?_comm {a b : Number} (h : Overflows (a.mean? b)) :
    Overflows (b.mean? a) := by
  rw [overflows_mean?] at h ⊢
  rcases h with ⟨m, n, rfl, rfl, h⟩ | ⟨hlarge, hd⟩ | ⟨hd, hlarge⟩
  · exact .inl ⟨n, m, rfl, rfl, Int.add_comm m n ▸ h⟩
  · exact .inr (.inr ⟨hd, hlarge⟩)
  · exact .inr (.inl ⟨hlarge, hd⟩)

end Number

end TreePredicate
