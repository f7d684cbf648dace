import TreePredicate.Proofs.Generation.Candidate

/-!
# Numbers in trees are finite

* `finite_cases` : what lies between two finite places is an integer or a finite double;
* `Double.exists_toSingle` : a double near the limits of single precision or within them has a
  finite nearest single precision number;
* `Quantity.value_cases` : a number in a tree is an integer that a long has room for or a finite
  double, never an infinity and never not-a-number, so that it has a place (`Quantity.exists_point`);
* `Quantity.exists_inferred` : so the width that is inferred for it leaves it as it is.
-/

set_option autoImplicit false

namespace TreePredicate

-- Unfolded, these are powers that no step may write out.
attribute [local irreducible] unitsPerOne unitsBound greatestInteger lastPlace integerLimit

/-! ## Places between limits -/

/-- What lies between two finite places is an integer or a finite double. -/
theorem finite_cases {low high given : Number} {bound : Nat}
    (hlow : low.point? = some (.at (-bound))) (hhigh : high.point? = some (.at bound))
    (h : (low.le given && given.le high) = true) :
    (∃ n, given = .int n ∧ n.natAbs * unitsPerOne ≤ bound) ∨
      ∃ negative m, given = .double (.finite negative m) ∧ m.units ≤ bound := by
  unfold Number.le at h
  rw [hlow, hhigh] at h
  cases given with
  | int n =>
    refine .inl ⟨n, rfl, ?_⟩
    simp only [Number.point?, Point.at_le_at, Bool.and_eq_true, decide_eq_true_eq] at h
    have habs : (n * unitsPerOne : Int).natAbs = n.natAbs * unitsPerOne := by
      rw [Int.natAbs_mul, Int.natAbs_natCast]
    omega
  | double d =>
    cases d with
    | nan => cases h
    | infinite negative => cases negative <;> simp [Number.point?, Double.point?, Point.le, Point.lt] at h
    | finite negative m =>
      refine .inr ⟨negative, m, rfl, ?_⟩
      simp only [Number.point?, Double.point?, Point.at_le_at, Bool.and_eq_true,
        decide_eq_true_eq] at h
      have habs := signed_natAbs negative m.units
      omega

/-! ## Single precision -/

/-- All that is ever evaluated of the limits of single precision. -/
theorem evaluated_single :
    2 * Width.float.greatestUnits < (2 * 2 ^ 24 - 1) * 2 ^ 253 * Nat.pow 2 925 ∧
      2 * (2 ^ (24 + (253 + 1)) * Nat.pow 2 925) ≤ unitsBound ∧
      Width.float.greatestUnits ≤ greatestInteger * unitsPerOne ∧ 0 < Nat.pow 2 925 := by
  decide +kernel

/-- A double near the limits of single precision or within them has a finite nearest single precision
number. -/
theorem Double.exists_toSingle (negative : Bool) {m : Magnitude}
    (h : m.units ≤ 2 * Width.float.greatestUnits) :
    ∃ single, (Double.finite negative m).toSingle = .finite negative single := by
  obtain ⟨hgreatest, hbound, -, hpos⟩ := evaluated_single
  have hsingle : singleUnits m.units < 2 ^ (24 + (253 + 1)) * Nat.pow 2 925 := by
    unfold singleUnits
    generalize Nat.pow 2 925 = grid at hgreatest hpos ⊢
    have hround := (Rounding.significant_lt_iff (by decide : 0 < 24) hpos).mpr
      (Nat.lt_of_le_of_lt h hgreatest)
    exact Nat.mul_lt_mul_of_pos_right hround hpos
  have hle := significant_le (by decide : 0 < 53) (singleUnits m.units)
  obtain ⟨single, hsingle, -⟩ := ofUnits_finite negative (by omega :
    Rounding.significant 53 (singleUnits m.units) 1 < unitsBound)
  exact ⟨single, hsingle⟩

/-! ## What a width makes of numbers -/

namespace Width

/-- Which integers an integral width has room for. -/
theorem holds_int_iff {width : Width} (hintegral : width.isIntegral = true) {n : Int} :
    width.holds (.int n) = true ↔
      -((Nat.pow 2 width.digits : Nat) : Int) ≤ n ∧ n ≤ (Nat.pow 2 width.digits : Nat) - 1 := by
  unfold holds limits
  rw [if_pos hintegral, Bool.and_eq_true, Number.int_le_int, Number.int_le_int, decide_eq_true_eq,
    decide_eq_true_eq]

/-- Which finite doubles an integral width has room for. -/
theorem holds_finite_iff {width : Width} (hintegral : width.isIntegral = true) {negative : Bool}
    {m : Magnitude} : width.holds (.double (.finite negative m)) = true ↔
      -((Nat.pow 2 width.digits : Nat) : Int) * unitsPerOne ≤ signed negative m.units ∧
        signed negative m.units ≤ ((Nat.pow 2 width.digits : Nat) - 1) * unitsPerOne := by
  unfold holds limits Number.le
  rw [if_pos hintegral, Bool.and_eq_true]
  simp only [Number.point?, Double.point?, Point.at_le_at, decide_eq_true_eq]

/-- An integral width has room for no other doubles. -/
theorem holds_double_cases {width : Width} (hintegral : width.isIntegral = true) {d : Double}
    (h : width.holds (.double d) = true) : ∃ negative m, d = .finite negative m := by
  unfold holds limits at h
  rw [if_pos hintegral, Bool.and_eq_true] at h
  cases d with
  | nan => cases h.1
  | infinite negative =>
    cases negative <;> simp [Number.le, Number.point?, Double.point?, Point.le, Point.lt] at h
  | finite negative m => exact ⟨negative, m, rfl⟩

/-- Cutting off a fraction leads no further from zero than an integer that was no nearer. -/
theorem truncate_bounds {negative : Bool} {m : Magnitude} {bound : Nat} (hbound : 0 < bound)
    (hlow : -(bound : Int) * unitsPerOne ≤ signed negative m.units)
    (hhigh : signed negative m.units ≤ ((bound : Int) - 1) * unitsPerOne) :
    -(bound : Int) ≤ (Double.finite negative m).truncate ∧
      (Double.finite negative m).truncate ≤ (bound : Int) - 1 := by
  have hpos : (0 : Int) < unitsPerOne := Int.natCast_pos.mpr unitsPerOne_pos
  have hdiv := Nat.div_mul_le_self m.units unitsPerOne
  rw [Double.truncate]
  generalize m.units / unitsPerOne = whole at hdiv ⊢
  have hcast : (whole : Int) * unitsPerOne ≤ m.units := by
    rw [← Int.natCast_mul]
    exact Int.ofNat_le.mpr hdiv
  cases negative with
  | true =>
    have hsigned : signed true m.units = -(m.units : Int) := rfl
    have hle : (whole : Int) ≤ bound := by
      refine Int.le_of_mul_le_mul_right ?_ hpos
      rw [Int.neg_mul] at hlow
      omega
    show -(bound : Int) ≤ -(whole : Int) ∧ -(whole : Int) ≤ bound - 1
    omega
  | false =>
    have hsigned : signed false m.units = m.units := rfl
    have hle : (whole : Int) ≤ bound - 1 := by
      refine Int.le_of_mul_le_mul_right ?_ hpos
      omega
    show -(bound : Int) ≤ (whole : Int) ∧ (whole : Int) ≤ bound - 1
    omega

/-- An integral width makes an integer within its limits of each number it has room for. -/
theorem convert_integral {width : Width} (hintegral : width.isIntegral = true) {given : Number}
    (h : width.holds given = true) :
    ∃ n : Int, width.convert given = .int n ∧ width.holds (.int n) = true := by
  cases given with
  | int n =>
    refine ⟨n, ?_, h⟩
    cases width <;> first | rfl | cases hintegral
  | double d =>
    refine ⟨d.truncate, ?_, ?_⟩
    · cases width <;> first | rfl | cases hintegral
    · obtain ⟨negative, m, rfl⟩ := holds_double_cases hintegral h
      obtain ⟨hlow, hhigh⟩ := (holds_finite_iff hintegral).mp h
      exact (holds_int_iff hintegral).mpr (truncate_bounds (Nat.two_pow_pos _) hlow hhigh)

/-- A long has room for the integers of every integral width. -/
theorem long_holds {width : Width} (hintegral : width.isIntegral = true) {n : Int}
    (h : width.holds (.int n) = true) : Width.long.holds (.int n) = true := by
  have hpow : Nat.pow 2 width.digits ≤ Nat.pow 2 63 :=
    Nat.pow_le_pow_right (by decide) width.digits_le
  rw [holds_int_iff hintegral] at h
  rw [holds_int_iff rfl, show Width.long.digits = 63 from rfl]
  omega

/-- A double made of a number that single precision has room for is near its limits. -/
theorem asDouble_single {given : Number} (h : Width.float.holds given = true) :
    ∃ negative m, asDouble given = .finite negative m ∧
      m.units ≤ 2 * Width.float.greatestUnits := by
  obtain ⟨hlow, hhigh⟩ := float_limits_point
  obtain ⟨-, -, hgreatest, -⟩ := evaluated_single
  rcases finite_cases hlow hhigh h with ⟨n, rfl, hn⟩ | ⟨negative, m, rfl, hm⟩
  · have hround := significant_le (by decide : 0 < 53) (n.natAbs * unitsPerOne)
    have hsmall : n.natAbs < integerLimit := by
      have := Nat.le_of_mul_le_mul_right (Nat.le_trans hn hgreatest) unitsPerOne_pos
      have := greatestInteger_add_ten_lt
      omega
    obtain ⟨m, hm, hunits⟩ := ofUnits_finite (decide (n < 0)) ((significant_ratio_lt_iff
      Nat.one_pos).mpr ((Nat.mul_one integerLimit).symm ▸ hsmall))
    exact ⟨_, m, hm, by omega⟩
  · exact ⟨negative, m, rfl, by omega⟩

theorem double_limits_point :
    Width.double.limits.1.point? = some (.at (-((greatestInteger * unitsPerOne : Nat) : Int))) ∧
      Width.double.limits.2.point? = some (.at (greatestInteger * unitsPerOne : Nat)) := by
  obtain ⟨low, hlow, hlowUnits⟩ := double_limit true
  obtain ⟨high, hhigh, hhighUnits⟩ := double_limit false
  constructor
  · show (Number.double (Double.ofUnits true Width.double.greatestUnits 1)).point? = _
    rw [hlow, ← hlowUnits]
    rfl
  · show (Number.double (Double.ofUnits false Width.double.greatestUnits 1)).point? = _
    rw [hhigh, ← hhighUnits]
    rfl

/-- A double made of a number that double precision has room for is finite. -/
theorem asDouble_double {given : Number} (h : Width.double.holds given = true) :
    ∃ negative m, asDouble given = .finite negative m := by
  obtain ⟨hlow, hhigh⟩ := double_limits_point
  rcases finite_cases hlow hhigh h with ⟨n, rfl, hn⟩ | ⟨negative, m, rfl, -⟩
  · have hsmall : n.natAbs < integerLimit := by
      have := Nat.le_of_mul_le_mul_right hn unitsPerOne_pos
      have := greatestInteger_add_ten_lt
      omega
    obtain ⟨m, hm, -⟩ := ofUnits_finite (decide (n < 0)) ((significant_ratio_lt_iff
      Nat.one_pos).mpr ((Nat.mul_one integerLimit).symm ▸ hsmall))
    exact ⟨_, m, hm⟩
  · exact ⟨negative, m, rfl⟩

end Width

namespace Quantity

theorem value_of_make {width : Width} {given : Number} {q : Quantity}
    (h : Quantity.make width given = .ok q) : q.value = width.convert given := by
  unfold Quantity.make at h
  split at h
  · next value hvalue =>
    cases h
    exact (Width.coerce_eq_ok.mp hvalue).2.symm
  · cases h

/-- A number in a tree is an integer that a long has room for or a finite double. -/
theorem value_cases (quantity : Quantity) :
    (∃ n, quantity.value = .int n ∧ Width.long.holds (.int n) = true) ∨
      ∃ negative m, quantity.value = .double (.finite negative m) := by
  obtain ⟨given, hmade⟩ := quantity.made
  obtain ⟨hholds, hconvert⟩ := Width.coerce_eq_ok.mp hmade
  rw [← hconvert]
  cases hintegral : quantity.width.isIntegral with
  | true =>
    obtain ⟨n, hn, hroom⟩ := Width.convert_integral hintegral hholds
    exact .inl ⟨n, hn, Width.long_holds hintegral hroom⟩
  | false =>
    right
    cases hwidth : quantity.width <;> rw [hwidth] at hholds hintegral <;> try cases hintegral
    · obtain ⟨negative, m, hm, hle⟩ := Width.asDouble_single hholds
      obtain ⟨single, hsingle⟩ := Double.exists_toSingle negative hle
      exact ⟨negative, single, by rw [Width.convert, hm, hsingle]⟩
    · obtain ⟨negative, m, hm⟩ := Width.asDouble_double hholds
      exact ⟨negative, m, by rw [Width.convert, hm]⟩

/-- A number in a tree has a place. -/
theorem exists_point (q : Quantity) : ∃ place, q.value.point? = some (.at place) := by
  rcases q.value_cases with ⟨n, hn, -⟩ | ⟨negative, m, hm⟩
  · exact ⟨_, congrArg Number.point? hn⟩
  · exact ⟨_, congrArg Number.point? hm⟩

theorem same_self (quantity : Quantity) : quantity.value.same quantity.value = true := by
  rcases quantity.value_cases with ⟨n, hn, -⟩ | ⟨negative, m, hm⟩
  · simp [hn, Number.same, Number.point?]
  · simp [hm, Number.same, Number.point?, Double.point?]

/-- The width that is inferred for a number of a tree leaves it as it is. -/
theorem exists_inferred (quantity : Quantity) :
    ∃ inferred, Quantity.ofNumber none quantity.value = .ok inferred ∧
      inferred.value = quantity.value := by
  rcases quantity.value_cases with ⟨n, hn, hroom⟩ | ⟨negative, m, hm⟩
  · rw [hn]
    obtain ⟨inferred, hinferred, hvalue⟩ := exists_make (Width.infer_holds hroom)
    exact ⟨inferred, hinferred, hvalue.trans (Width.convert_infer _)⟩
  · rw [hm]
    exact exists_make (Width.double_holds negative m)

end Quantity

end TreePredicate
