import Mathlib.Algebra.Ring.Int.Defs
import Mathlib.Algebra.Ring.Nat
import TreePredicate.Width

/-!
# Places and sizes of numbers

* `Number.le_of_points`, `Number.lt_of_points`, `Number.same_of_points` : the order of numbers is that
  of their places;
* `Number.int_le_int`, `Number.int_lt_int` : and for integers that of the integers;
* `significant_le` : rounding never doubles a number;
* `toDouble?_int` : integers up to `2 ^ 63` become doubles;
* `Width.coerce_eq_ok` : what a width makes of the numbers it has room for;
* `Quantity.natAbs_le` : an integer in a tree is at most `2 ^ 63`, so each number of a tree becomes
  a double (`Quantity.toDouble?_eq`).
-/

set_option autoImplicit false

namespace TreePredicate

-- Unfolded, these two are powers that no step may write out.
attribute [local irreducible] unitsPerOne unitsBound

theorem unitsPerOne_pos : 0 < unitsPerOne := by decide +kernel

/-! ## Places -/

theorem Point.at_le_at (x y : Int) : Point.le (.at x) (.at y) = decide (x ≤ y) := by
  by_cases h : x ≤ y
  · simp [Point.le, Point.lt, h]
  · simp [Point.le, Point.lt, h, Int.not_le.mp h]

namespace Number

variable {a b : Number} {x y : Int}

theorem le_of_points (ha : a.point? = some (.at x)) (hb : b.point? = some (.at y)) :
    a.le b = decide (x ≤ y) := by
  rw [le, ha, hb]
  exact Point.at_le_at x y

theorem lt_of_points (ha : a.point? = some (.at x)) (hb : b.point? = some (.at y)) :
    a.lt b = decide (x < y) := by
  rw [lt, ha, hb]
  rfl

theorem same_of_points (ha : a.point? = some (.at x)) (hb : b.point? = some (.at y)) :
    a.same b = decide (x = y) := by
  rw [same, ha, hb]
  exact decide_eq_decide.mpr (by rw [Point.at.injEq])

end Number

theorem Number.int_le_int (m n : Int) : Number.le (.int m) (.int n) = decide (m ≤ n) := by
  rw [le_of_points rfl rfl]
  refine decide_eq_decide.mpr ⟨fun h => ?_, fun h => ?_⟩
  · exact Int.le_of_mul_le_mul_right h (Int.natCast_pos.mpr unitsPerOne_pos)
  · exact Int.mul_le_mul_of_nonneg_right h (Int.natCast_nonneg _)

theorem Number.int_lt_int (m n : Int) : Number.lt (.int m) (.int n) = decide (m < n) := by
  have hle : (!Number.lt (.int m) (.int n)) = decide (n ≤ m) := Number.int_le_int n m
  rw [← Bool.not_not (Number.lt _ _), hle, ← decide_not]
  exact decide_eq_decide.mpr Int.not_le

theorem signed_eq (negative : Bool) (m : Nat) : signed negative m = m ∨ signed negative m = -m := by
  cases negative
  · exact .inl rfl
  · exact .inr rfl

theorem signed_natAbs (negative : Bool) (m : Nat) : (signed negative m).natAbs = m := by
  rcases signed_eq negative m with h | h <;> rw [h] <;> simp

/-! ## Rounding -/

/-- Rounding never doubles a number. -/
theorem significant_le {bits : Nat} (pos : 0 < bits) (num : Nat) :
    Rounding.significant bits num 1 ≤ 2 * num := by
  unfold Rounding.significant Rounding.excess
  dsimp only
  rw [Nat.div_one, Nat.one_mul]
  generalize hk : num.log2 + 1 - bits = k
  have hnearest := Nat.mul_le_mul_right (Nat.pow 2 k) (Rounding.nearest_le num (Nat.pow 2 k))
  rw [Nat.add_mul, Nat.one_mul] at hnearest
  have hfloor := Nat.div_mul_le_self num (Nat.pow 2 k)
  rcases Nat.eq_zero_or_pos k with rfl | hpos
  · show Rounding.nearest num 1 * 1 ≤ 2 * num
    rw [Rounding.nearest_of_dvd Nat.one_pos (Nat.one_dvd num)]
    omega
  · have hnum : num ≠ 0 := by
      rintro rfl
      rw [Nat.log2_zero] at hk
      omega
    have hpow : Nat.pow 2 k ≤ num :=
      Nat.le_trans (Nat.pow_le_pow_right (by decide) (by omega)) (Nat.log2_self_le hnum)
    omega

/-- A quotient that is not rounded past the largest double is a finite double. -/
theorem ofUnits_finite (negative : Bool) {num den : Nat}
    (h : Rounding.significant 53 num den < unitsBound) :
    ∃ m, Double.ofUnits negative num den = .finite negative m ∧
      m.units = Rounding.significant 53 num den := by
  unfold Double.ofUnits
  dsimp only
  split
  · exact ⟨_, rfl, rfl⟩
  · contradiction

theorem ofInt_finite {n : Int} (h : n.natAbs ≤ 2 ^ 63) :
    ∃ m, Double.ofInt n = .finite (n < 0) m := by
  have hround := significant_le (by decide : 0 < 53) (n.natAbs * unitsPerOne)
  have hmul := Nat.mul_le_mul_right unitsPerOne h
  have hbound : 2 * (2 ^ 63 * unitsPerOne) < unitsBound := by decide +kernel
  obtain ⟨m, hm, -⟩ := ofUnits_finite (n < 0) (by omega :
    Rounding.significant 53 (n.natAbs * unitsPerOne) 1 < unitsBound)
  exact ⟨m, hm⟩

/-- Integers of a tree become doubles. -/
theorem toDouble?_int {n : Int} (h : n.natAbs ≤ 2 ^ 63) :
    (Number.int n).toDouble? = .ok (Double.ofInt n) := by
  obtain ⟨m, hm⟩ := ofInt_finite h
  rw [Number.toDouble?, hm]
  rfl

/-! ## Widths -/

namespace Width

theorem coerce_eq_ok {width : Width} {given value : Number} :
    width.coerce given = .ok value ↔ width.holds given = true ∧ width.convert given = value := by
  unfold coerce
  by_cases h : width.holds given = true
  · rw [if_pos h]
    simp [h]
  · rw [if_neg h]
    simp [h]

/-- The limits of single precision lie at the same distance from zero on both sides. -/
theorem float_limits_point :
    Width.float.limits.1.point? = some (.at (-(Width.float.greatestUnits : Int))) ∧
      Width.float.limits.2.point? = some (.at Width.float.greatestUnits) := by decide +kernel

theorem digits_le (width : Width) : width.digits ≤ 63 := by cases width <;> decide

/-- A number that an integral width has room for becomes an integer of at most `2 ^ 63`. -/
theorem natAbs_convert_le {width : Width} (hintegral : width.isIntegral = true) {given : Number}
    (h : width.holds given = true) :
    ∃ n : Int, width.convert given = .int n ∧ n.natAbs ≤ 2 ^ 63 := by
  have hpow : Nat.pow 2 width.digits ≤ 2 ^ 63 :=
    Nat.pow_le_pow_right (by decide) width.digits_le
  unfold holds limits at h
  rw [if_pos hintegral, Bool.and_eq_true] at h
  dsimp only at h
  generalize Nat.pow 2 width.digits = bound at h hpow
  cases given with
  | int n =>
    rw [Number.int_le_int, Number.int_le_int, decide_eq_true_eq, decide_eq_true_eq] at h
    refine ⟨n, ?_, by omega⟩
    cases width <;> first | rfl | cases hintegral
  | double d =>
    cases d with
    | nan => cases h.1
    | infinite negative => cases negative <;> simp [Number.le, Number.point?, Double.point?,
        Point.le, Point.lt] at h
    | finite negative m =>
      simp only [Number.le, Number.point?, Double.point?, Point.at_le_at, decide_eq_true_eq] at h
      refine ⟨(Double.finite negative m).truncate, ?_, ?_⟩
      · cases width <;> first | rfl | cases hintegral
      · rw [Double.truncate, signed_natAbs]
        refine Nat.le_trans ?_ hpow
        have habs : m.units ≤ bound * unitsPerOne := by
          have hpos : (0 : Int) ≤ unitsPerOne := Int.natCast_nonneg _
          obtain ⟨hlow, hhigh⟩ := h
          rw [Int.sub_mul, Int.one_mul] at hhigh
          rw [Int.neg_mul] at hlow
          have hcast : ((bound * unitsPerOne : Nat) : Int) = bound * unitsPerOne :=
            Int.natCast_mul _ _
          rcases signed_eq negative m.units with e | e <;> rw [e] at hlow hhigh <;> omega
        exact Nat.div_le_of_le_mul (Nat.mul_comm bound unitsPerOne ▸ habs)

end Width

/-- An integer in a tree is at most `2 ^ 63`. -/
theorem Quantity.natAbs_le {quantity : Quantity} {n : Int} (h : quantity.value = .int n) :
    n.natAbs ≤ 2 ^ 63 := by
  obtain ⟨given, hmade⟩ := quantity.made
  obtain ⟨hholds, hconvert⟩ := Width.coerce_eq_ok.mp hmade
  cases hintegral : quantity.width.isIntegral with
  | true =>
    obtain ⟨k, hk, hle⟩ := Width.natAbs_convert_le hintegral hholds
    rw [hconvert, h] at hk
    cases hk
    exact hle
  | false =>
    rw [h] at hconvert
    cases hw : quantity.width <;> rw [hw] at hconvert hintegral <;>
      first | cases hconvert | cases hintegral

/-- Each number of a tree becomes a double. -/
theorem Quantity.toDouble?_eq (quantity : Quantity) :
    ∃ d, quantity.value.toDouble? = .ok d := by
  cases h : quantity.value with
  | int n => exact ⟨_, toDouble?_int (Quantity.natAbs_le h)⟩
  | double d => exact ⟨d, rfl⟩

end TreePredicate
