import Mathlib.Algebra.Order.Field.Basic
import Mathlib.Algebra.Order.Field.Rat
import Mathlib.Data.Rat.Cast.Order
import Mathlib.Tactic.FieldSimp
import Mathlib.Tactic.Positivity
import TreePredicate.Proofs.Number.Nearest

/-!
# Rounding as exact arithmetic

Rounding to so many digits, stated of rational numbers: the result is a binary fraction of so many
digits, no other one is nearer, and if another one is as near, the last digit of the result is even.

* `Binary`, `BinaryEven` : binary fractions of so many digits, and those with an even last digit;
  `binary_iff` : how they are counted in units;
* `NearestEven` : rounding to the nearest, ties to even; `NearestEven.neg`, `NearestEven.unique` : the
  same on both sides of zero, and there is one way to do it;
* `RoundsTo.abs_sub_le` : rounding to the nearest of a kind is to the one at the least distance;
* `middle_of_tie`, `even_of_tie` : a tie goes to an even digit;
* `nearestEven_significant` : rounding to so many digits is all of that.
-/

set_option autoImplicit false

namespace TreePredicate.Rounding

/-! ## Binary fractions -/

/-- A binary fraction of at most so many digits, with no digit behind the last place. -/
def Binary (digits : ℕ) (last : ℤ) (x : ℚ) : Prop :=
  ∃ m e : ℤ, |m| < 2 ^ digits ∧ last ≤ e ∧ x = m * 2 ^ e

/-- A binary fraction of so many digits that can be written with an even digit at its end. -/
def BinaryEven (digits : ℕ) (last : ℤ) (x : ℚ) : Prop :=
  ∃ m e : ℤ, Even m ∧ |m| < 2 ^ digits ∧ last ≤ e ∧ x = m * 2 ^ e

/-- A number is rounded to the nearest binary fraction of so many digits; if two are nearest, to the
one that ends in an even digit. -/
structure NearestEven (digits : ℕ) (last : ℤ) (x y : ℚ) : Prop where
  mem : Binary digits last y
  nearest : ∀ z, Binary digits last z → |x - y| ≤ |x - z|
  even : ∀ z, Binary digits last z → |x - z| = |x - y| → z = y ∨ BinaryEven digits last y

section Fractions

variable {digits n k N : ℕ} {last : ℤ} {x y : ℚ}

theorem Binary.neg (h : Binary digits last x) : Binary digits last (-x) := by
  obtain ⟨m, e, hm, he, rfl⟩ := h
  exact ⟨-m, e, by rwa [abs_neg], he, by push_cast; ring⟩

theorem BinaryEven.neg (h : BinaryEven digits last x) : BinaryEven digits last (-x) := by
  obtain ⟨m, e, heven, hm, he, rfl⟩ := h
  exact ⟨-m, e, heven.neg, by rwa [abs_neg], he, by push_cast; ring⟩

theorem NearestEven.neg (h : NearestEven digits last x y) : NearestEven digits last (-x) (-y) := by
  have hmirror : ∀ z, |-x - z| = |x - -z| := fun z => by
    rw [← abs_neg]
    congr 1
    ring
  refine ⟨h.mem.neg, fun z hz => ?_, fun z hz htie => ?_⟩
  · rw [hmirror, hmirror, neg_neg]
    exact h.nearest _ hz.neg
  · rw [hmirror, hmirror, neg_neg] at htie
    refine (h.even _ hz.neg htie).imp (fun heq => ?_) BinaryEven.neg
    rw [← heq, neg_neg]

/-- The greatest significand has one digit too many, and is written with one less. -/
theorem exists_digits (hdigits : 0 < digits) (hn : n ≤ 2 ^ digits) :
    ∃ m j : ℕ, m < 2 ^ digits ∧ n * 2 ^ k = m * 2 ^ j ∧ (1 < digits → Even n → Even m) := by
  rcases Nat.lt_or_eq_of_le hn with hless | rfl
  · exact ⟨n, k, hless, rfl, fun _ heven => heven⟩
  · obtain ⟨d, rfl⟩ : ∃ d, digits = d + 1 := Nat.exists_eq_add_one.mpr hdigits
    refine ⟨2 ^ d, k + 1, Nat.pow_lt_pow_right (by decide) (Nat.lt_succ_self d), by ring, ?_⟩
    exact fun hmore _ => (Nat.even_pow.mpr ⟨even_two, by omega⟩)

theorem units_eq (m : ℤ) (j N : ℕ) : ((m * 2 ^ j : ℤ) : ℚ) / 2 ^ N = m * 2 ^ ((j : ℤ) - N) := by
  rw [zpow_sub₀ two_ne_zero, zpow_natCast, zpow_natCast]
  push_cast
  ring

theorem binary_of_units (hdigits : 0 < digits) (h : Exact digits n) (N : ℕ) :
    Binary digits (-N) (n / 2 ^ N) := by
  obtain ⟨m, k, hm, rfl⟩ := (exact_iff hdigits).mp h
  obtain ⟨m, j, hm, heq, -⟩ := exists_digits (k := k) hdigits hm
  refine ⟨m, j - N, ?_, by omega, ?_⟩
  · rw [Nat.abs_cast]
    exact_mod_cast hm
  · rw [heq, ← units_eq]
    push_cast
    rfl

theorem binaryEven_of_even (hdigits : 1 < digits) (hn : n ≤ 2 ^ digits) (heven : Even n) (k N : ℕ) :
    BinaryEven digits (-N) ((n * 2 ^ k : ℕ) / 2 ^ N) := by
  obtain ⟨m, j, hm, heq, hm_even⟩ := exists_digits (k := k) (by omega) hn
  refine ⟨m, j - N, ?_, ?_, by omega, ?_⟩
  · exact_mod_cast hm_even hdigits heven
  · rw [Nat.abs_cast]
    exact_mod_cast hm
  · rw [heq, ← units_eq]
    push_cast
    rfl

/-- Counted in units of the last place, binary fractions of so many digits are the numbers of so many
digits. -/
theorem binary_iff (hdigits : 0 < digits) :
    Binary digits (-N) x ↔ ∃ s : ℤ, Exact digits s.natAbs ∧ x = s / 2 ^ N := by
  constructor
  · rintro ⟨m, e, hm, he, rfl⟩
    obtain ⟨k, rfl⟩ : ∃ k : ℕ, e = k - N := ⟨(e + N).toNat, by omega⟩
    refine ⟨m * 2 ^ k, ?_, (units_eq m k N).symm⟩
    rw [Int.natAbs_mul, Int.natAbs_pow]
    refine exact_mul hdigits ?_ k
    rw [Int.abs_eq_natAbs] at hm
    exact_mod_cast hm.le
  · rintro ⟨s, hs, rfl⟩
    have hbinary := binary_of_units hdigits hs N
    rcases Int.natAbs_eq s with heq | heq
    · rwa [heq, Int.cast_natCast]
    · rw [heq, Int.cast_neg, Int.cast_natCast, neg_div]
      exact hbinary.neg

end Fractions

/-! ## One way to round -/

section Unique

variable {digits : ℕ} {last : ℤ} {x y z : ℚ}

/-- Behind a fraction with an even digit, at the place of that digit, there is a fraction before the
next one that has an even digit there. -/
theorem exists_between_of_le {m n e f : ℤ} (hdigits : 0 < digits) (hm : Even m) (hn : Even n)
    (hsmall : |m| < 2 ^ digits) (he : last ≤ e) (hle : e ≤ f)
    (hlt : (m * 2 ^ e : ℚ) < n * 2 ^ f) :
    ∃ w, Binary digits last w ∧ (m * 2 ^ e : ℚ) < w ∧ w < (n * 2 ^ f : ℚ) := by
  obtain ⟨k, rfl⟩ := Int.le.dest hle
  obtain ⟨d, rfl⟩ : ∃ d, digits = d + 1 := Nat.exists_eq_add_one.mpr hdigits
  obtain ⟨a, rfl⟩ := hm
  obtain ⟨b, rfl⟩ := hn
  have hplace : (0 : ℚ) < 2 ^ e := zpow_pos two_pos e
  have hsame : (((b + b : ℤ) : ℚ) * 2 ^ (e + k)) = ((b * 2 ^ k + b * 2 ^ k : ℤ) : ℚ) * 2 ^ e := by
    rw [zpow_add₀ two_ne_zero, zpow_natCast]
    push_cast
    ring
  rw [hsame] at hlt ⊢
  generalize b * 2 ^ k = b at hlt ⊢
  have hless : a + a < b + b := by exact_mod_cast lt_of_mul_lt_mul_right hlt hplace.le
  refine ⟨((a + a + 1 : ℤ) : ℚ) * 2 ^ e, ⟨a + a + 1, e, ?_, he, rfl⟩, ?_, ?_⟩
  · rw [abs_lt, pow_succ] at *
    omega
  · exact mul_lt_mul_of_pos_right (by exact_mod_cast Int.lt_succ (a + a)) hplace
  · exact mul_lt_mul_of_pos_right (by exact_mod_cast (by omega : a + a + 1 < b + b)) hplace

theorem BinaryEven.exists_between (hdigits : 0 < digits) (hy : BinaryEven digits last y)
    (hz : BinaryEven digits last z) (hlt : y < z) : ∃ w, Binary digits last w ∧ y < w ∧ w < z := by
  obtain ⟨m, e, hm, hsmall, he, rfl⟩ := hy
  obtain ⟨n, f, hn, hsmall', hf, rfl⟩ := hz
  rcases Int.le_total e f with hle | hle
  · exact exists_between_of_le hdigits hm hn hsmall he hle hlt
  · obtain ⟨w, hw, hlow, hhigh⟩ := exists_between_of_le hdigits hn.neg hm.neg (by rwa [abs_neg]) hf hle
      (by push_cast; linarith : ((-n : ℤ) * 2 ^ f : ℚ) < (-m : ℤ) * 2 ^ e)
    push_cast at hlow hhigh
    exact ⟨-w, hw.neg, by linarith, by linarith⟩

/-- There is one way to round. -/
theorem NearestEven.unique (hdigits : 0 < digits) (h : NearestEven digits last x y)
    (h' : NearestEven digits last x z) : y = z := by
  have htie : |x - z| = |x - y| := le_antisymm (h'.nearest y h.mem) (h.nearest z h'.mem)
  rcases h.even z h'.mem htie with heq | hy
  · exact heq.symm
  rcases h'.even y h.mem htie.symm with heq | hz
  · exact heq
  by_contra hne
  have hmiddle : x - z = -(x - y) := (abs_eq_abs.mp htie).resolve_left fun heq => hne (by linarith)
  -- What lies between the two would be nearer than both.
  rcases lt_or_gt_of_ne hne with hlt | hlt
  · obtain ⟨w, hw, hlow, hhigh⟩ := hy.exists_between hdigits hz hlt
    have hnear := h.nearest w hw
    rw [abs_of_pos (by linarith : 0 < x - y)] at hnear
    rcases abs_cases (x - w) with ⟨heq, -⟩ | ⟨heq, -⟩ <;> linarith
  · obtain ⟨w, hw, hlow, hhigh⟩ := hz.exists_between hdigits hy hlt
    have hnear := h.nearest w hw
    rw [abs_of_neg (by linarith : x - y < 0)] at hnear
    rcases abs_cases (x - w) with ⟨heq, -⟩ | ⟨heq, -⟩ <;> linarith

end Unique

/-! ## The nearest at the least distance -/

namespace RoundsTo

variable {kind : ℕ → Prop} {num den r z : ℕ}

theorem le_middle (h : RoundsTo kind num den r) (pos : 0 < den) (hz : kind z) (hlt : r < z) :
    2 * ((num : ℚ) / den) ≤ r + z := by
  have hden : (0 : ℚ) < den := by exact_mod_cast pos
  by_contra hnot
  rw [not_le, ← mul_div_assoc, lt_div_iff₀ hden] at hnot
  exact Nat.lt_irrefl r (h.lt_of_middle_lt hz hlt (by exact_mod_cast hnot))

theorem middle_le (h : RoundsTo kind num den r) (pos : 0 < den) (hz : kind z) (hlt : z < r) :
    z + r ≤ 2 * ((num : ℚ) / den) := by
  have hden : (0 : ℚ) < den := by exact_mod_cast pos
  by_contra hnot
  rw [not_le, ← mul_div_assoc, div_lt_iff₀ hden] at hnot
  exact Nat.lt_irrefl r (h.lt_of_lt_middle hz hlt (by exact_mod_cast hnot))

/-- No number of the kind is nearer than the rounded one. -/
theorem abs_sub_le (h : RoundsTo kind num den r) (pos : 0 < den) (hz : kind z) :
    |(num : ℚ) / den - r| ≤ |(num : ℚ) / den - z| := by
  rcases Nat.lt_trichotomy z r with hlt | rfl | hlt
  · have hmiddle := h.middle_le pos hz hlt
    have hless : (z : ℚ) < r := by exact_mod_cast hlt
    refine le_trans (abs_le.mpr ⟨?_, ?_⟩) (le_abs_self _) <;> linarith
  · exact le_refl _
  · have hmiddle := h.le_middle pos hz hlt
    have hless : (r : ℚ) < z := by exact_mod_cast hlt
    refine le_trans (abs_le.mpr ⟨?_, ?_⟩) (neg_le_abs _) <;> linarith

/-- What lies on the other side of zero is farther away than zero is. -/
theorem abs_sub_lt (h : RoundsTo kind num den r) (pos : 0 < den) (hzero : kind 0) {s : ℤ}
    (hs : s < 0) : |(num : ℚ) / den - r| < |(num : ℚ) / den - s| := by
  have hle := h.abs_sub_le pos hzero
  have hquotient : (0 : ℚ) ≤ (num : ℚ) / den := by positivity
  have hnegative : (s : ℚ) < 0 := by exact_mod_cast hs
  rw [Nat.cast_zero, sub_zero, abs_of_nonneg hquotient] at hle
  rw [abs_of_pos (by linarith : (0 : ℚ) < (num : ℚ) / den - s)]
  linarith

end RoundsTo

/-- If two numbers are as near to a quotient, it is at the middle between them. -/
theorem middle_of_tie {num den r z : ℕ} (pos : 0 < den) (hne : z ≠ r)
    (htie : |(num : ℚ) / den - z| = |(num : ℚ) / den - r|) : (z + r) * den = 2 * num := by
  have hden : (den : ℚ) ≠ 0 := by exact_mod_cast pos.ne'
  have hmiddle : ((z : ℚ) + r) * den = 2 * num := by
    rcases abs_eq_abs.mp htie with heq | heq
    · exact absurd (by exact_mod_cast sub_right_inj.mp heq) hne
    · field_simp at heq
      linarith
  exact_mod_cast hmiddle

/-! ## Ties -/

section Ties

variable {bits num den z : ℕ}

/-- The nearest integer is less than one half away, unless it is exactly one half, and then even. -/
theorem even_or_nearest_lt (pos : 0 < den) (num : ℕ) :
    Even (nearest num den) ∨
      2 * (nearest num den * den) < 2 * num + den ∧ 2 * num < 2 * (nearest num den * den) + den := by
  rcases nearest_spec pos num with ⟨hlow, hhigh⟩ | ⟨heven, -⟩
  · exact .inr ⟨hhigh, by linarith⟩
  · exact .inl (Nat.even_iff.mpr heven)

/-- If two numbers of so many digits are nearest, the digit that is kept is even. -/
theorem even_of_tie (pos : 0 < den) (hz : Exact (bits + 1) z)
    (hne : z ≠ significant (bits + 1) num den)
    (htie : (z + significant (bits + 1) num den) * den = 2 * num) :
    Even (nearest num (den * 2 ^ excess (bits + 1) num den)) := by
  have hplace : 0 < 2 ^ excess (bits + 1) num den := Nat.two_pow_pos _
  refine (even_or_nearest_lt (Nat.mul_pos pos hplace) num).resolve_right fun ⟨hlow, hhigh⟩ => ?_
  have hleading : ¬ 2 ^ excess (bits + 1) num den ∣ z → _ := fun h => exists_leading pos h hz
  rw [significant_eq] at hne htie
  generalize nearest num (den * 2 ^ excess (bits + 1) num den) = n at *
  generalize 2 ^ excess (bits + 1) num den = place at *
  -- The other number is less than one place away, so it is no multiple of the place.
  have hbefore : z < n * place + place := by
    refine Nat.lt_of_mul_lt_mul_right (a := den) ?_
    linarith
  have hbehind : n * place < z + place := by
    refine Nat.lt_of_mul_lt_mul_right (a := den) ?_
    linarith
  by_cases hdvd : place ∣ z
  · obtain ⟨w, rfl⟩ := hdvd
    have hw : w < n + 1 := Nat.lt_of_mul_lt_mul_left (a := place) (by linarith)
    have hn : n < w + 1 := Nat.lt_of_mul_lt_mul_left (a := place) (by linarith)
    obtain rfl : w = n := by omega
    exact hne (Nat.mul_comm _ _)
  · -- Then it lies before the leading one, which is nearer.
    obtain ⟨_, ⟨w, rfl⟩, hless, hle⟩ := hleading hdvd
    have hpast : place * w < n * place := by
      refine Nat.lt_of_mul_lt_mul_right (a := den) ?_
      have hden := Nat.mul_lt_mul_of_pos_right hless pos
      linarith
    have hw : w + 1 ≤ n := Nat.lt_of_mul_lt_mul_left (a := place) (by linarith)
    have hplaces := Nat.mul_le_mul_left place hw
    linarith

end Ties

/-- Rounding to so many digits is to the nearest binary fraction of so many digits, ties to even. -/
theorem nearestEven_significant {digits num den : ℕ} (hdigits : 1 < digits) (pos : 0 < den) (N : ℕ) :
    NearestEven digits (-N) ((num : ℚ) / den / 2 ^ N) (significant digits num den / 2 ^ N) := by
  obtain ⟨bits, rfl⟩ : ∃ b, digits = b + 1 := Nat.exists_eq_add_one.mpr (by omega)
  have hpos := Nat.succ_pos bits
  have hzero : Exact (bits + 1) 0 := exact_of_le hpos (Nat.zero_le _)
  have hround : RoundsTo (Exact (bits + 1)) num den _ := roundsTo_significant hpos pos
  have hunit : (0 : ℚ) < 2 ^ N := by positivity
  have hdistance : ∀ s : ℚ, |(num : ℚ) / den / 2 ^ N - s / 2 ^ N| = |(num : ℚ) / den - s| / 2 ^ N :=
    fun s => by rw [← sub_div, abs_div, abs_of_pos hunit]
  refine ⟨binary_of_units hpos hround.mem N, fun z hz => ?_, fun z hz htie => ?_⟩ <;>
    obtain ⟨s, hs, rfl⟩ := (binary_iff hpos).mp hz <;>
    rcases Int.lt_or_le s 0 with hneg | hnonneg
  · rw [hdistance, hdistance, div_le_div_iff_of_pos_right hunit]
    exact (hround.abs_sub_lt pos hzero hneg).le
  · obtain ⟨t, rfl⟩ := Int.eq_ofNat_of_zero_le hnonneg
    rw [hdistance, hdistance, div_le_div_iff_of_pos_right hunit, Int.cast_natCast]
    exact hround.abs_sub_le pos hs
  · rw [hdistance, hdistance, div_left_inj' hunit.ne'] at htie
    exact absurd htie (hround.abs_sub_lt pos hzero hneg).ne'
  · obtain ⟨t, rfl⟩ := Int.eq_ofNat_of_zero_le hnonneg
    rw [hdistance, hdistance, div_left_inj' hunit.ne', Int.cast_natCast] at htie
    by_cases hsame : t = significant (bits + 1) num den
    · exact .inl (by rw [hsame, Int.cast_natCast])
    · have heven := even_of_tie pos hs hsame (middle_of_tie pos hsame htie)
      exact .inr (binaryEven_of_even hdigits (nearest_excess_le _ _ _) heven _ N)

end TreePredicate.Rounding
