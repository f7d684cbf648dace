import TreePredicate.Proofs.Generation.Search
import TreePredicate.Proofs.Number.Finite
import TreePredicate.Proofs.Number.Same
import TreePredicate.Proofs.Number.Step

/-!
# Distances from zero

A search for a number goes away from zero, so that a place is known by its distance from there, in
units, whether the search goes up or down.

* `Course.At` : a number lies at a distance, in the direction of a search; `at_cases` : then it is an
  integer or a double; `exists_at` : every place lies at a distance in some direction;
* `Course.limit`, `holds_iff` : how far a width has room;
* `at_asDouble`, `toDouble?_at`, `at_add` : where rounded numbers and sums lie;
* `mean?_at` : where midpoints lie.
-/

set_option autoImplicit false

namespace TreePredicate

-- Unfolded, these are powers that no step may write out.
attribute [local irreducible] unitsPerOne unitsBound greatestInteger lastPlace integerLimit
  leastSingle Width.greatestUnits

open Rounding Double

/-- The number is an integer. -/
def Number.isInteger : Number → Bool
  | .int _ => true
  | .double _ => false

/-- How far from zero a width has room, in units. -/
def Width.limitUnits (width : Width) (descending : Bool) : Nat :=
  if width.isIntegral then
    (if descending then Nat.pow 2 width.digits else Nat.pow 2 width.digits - 1) * unitsPerOne
  else width.greatestUnits

namespace Interval

/-- A number lies at a distance from zero, in the direction of a search. -/
def Course.At (course : Course) (a : Number) (x : Nat) : Prop :=
  a.point? = some (.at (course.along x))

section At

variable {course : Course} {a b : Number} {x y : Nat}

theorem Course.along_natAbs (course : Course) (k : Nat) : (course.along k).natAbs = k := by
  unfold along
  split <;> omega

theorem at_int (k : Nat) : course.At (.int (course.along k)) (k * unitsPerOne) := by
  unfold Course.At
  rw [Number.point?, Int.natCast_mul, Course.along_mul]

theorem at_double {negative : Bool} {m : Magnitude} :
    course.At (.double (.finite negative m)) x ↔ signed negative m.units = course.along x := by
  unfold Course.At
  rw [Number.point?, Double.point?, Option.some.injEq, Point.at.injEq]

theorem at_finite (m : Magnitude) :
    course.At (.double (.finite course.descending m)) m.units :=
  at_double.mpr rfl

theorem units_of_at {negative : Bool} {m : Magnitude}
    (h : course.At (.double (.finite negative m)) x) : m.units = x := by
  rw [← signed_natAbs negative m.units, at_double.mp h, Course.along_natAbs]

/-- What lies at a distance from zero is an integer or a finite double. -/
theorem at_cases (h : course.At a x) :
    (∃ k : Nat, a = .int (course.along k) ∧ x = k * unitsPerOne) ∨
      ∃ negative m, a = .double (.finite negative m) ∧ m.units = x := by
  cases a with
  | int n =>
    left
    unfold Course.At at h
    rw [Number.point?, Option.some.injEq, Point.at.injEq] at h
    have hx : course.along n * unitsPerOne = x := by
      rw [← Course.along_mul, h, Course.along_along]
    have hpos : (0 : Int) < unitsPerOne := Int.natCast_pos.mpr unitsPerOne_pos
    have hnonneg : 0 ≤ course.along n := by
      refine Int.le_of_mul_le_mul_right ?_ hpos
      omega
    obtain ⟨k, hk⟩ := Int.eq_ofNat_of_zero_le hnonneg
    refine ⟨k, ?_, ?_⟩
    · rw [← hk, Course.along_along]
    · rw [hk] at hx
      exact_mod_cast hx.symm
  | double d =>
    right
    cases d with
    | nan => cases h
    | infinite negative => cases negative <;> cases h
    | finite negative m => exact ⟨negative, m, rfl, units_of_at h⟩

/-- A double lies at the distance that its magnitude is. -/
theorem exact_of_at {d : Double} (h : course.At (.double d) x) : Exact 53 x := by
  obtain ⟨k, hk, -⟩ | ⟨negative, m, -, rfl⟩ := at_cases h
  · cases hk
  · exact m.rounded

/-- Each place lies at a distance in some direction. -/
theorem exists_at (place : Int) :
    ∃ (course : Course) (x : Nat), ∀ a : Number, a.point? = some (.at place) ↔ course.At a x := by
  refine ⟨⟨zero, zero, true, true, decide (place < 0)⟩, place.natAbs, fun a => ?_⟩
  have halong : Course.along ⟨zero, zero, true, true, decide (place < 0)⟩ place.natAbs = place := by
    unfold Course.along
    by_cases hneg : place < 0
    · rw [if_pos (decide_eq_true hneg)]
      omega
    · rw [if_neg (by simpa using hneg)]
      omega
  unfold Course.At
  rw [halong]

end At

/-! ## Room -/

/-- How far a width has room in the direction of a search. -/
def Course.limit (course : Course) (width : Width) : Nat := width.limitUnits course.descending

section Room

variable {course : Course} {a : Number} {x : Nat} {width : Width}

theorem limits_point (width : Width) :
    width.limits.1.point? = some (.at (-(width.limitUnits true : Int))) ∧
      width.limits.2.point? = some (.at (width.limitUnits false)) := by
  unfold Width.limitUnits
  cases hintegral : width.isIntegral with
  | true =>
    have hpos : 0 < Nat.pow 2 width.digits := Nat.two_pow_pos _
    unfold Width.limits
    rw [hintegral]
    simp only [if_true, Bool.false_eq_true, if_false, Number.point?, Int.natCast_mul, Int.neg_mul,
      true_and]
    rw [Int.natCast_sub hpos]
    rfl
  | false =>
    simp only [Bool.false_eq_true, if_false]
    obtain ⟨-, -, -, -, -, -, -, -, hgreatest⟩ := evaluated_powers
    cases width with
    | float => exact Width.float_limits_point
    | double =>
      rw [hgreatest]
      exact Width.double_limits_point
    | _ => cases hintegral

/-- A width has room for a number exactly if its distance from zero is within the limit. -/
theorem holds_iff (h : course.At a x) : width.holds a = true ↔ x ≤ course.limit width := by
  obtain ⟨hlow, hhigh⟩ := limits_point width
  rw [Width.holds, Number.le_of_points hlow h, Number.le_of_points h hhigh, Bool.and_eq_true,
    decide_eq_true_eq, decide_eq_true_eq]
  unfold Course.limit Course.along
  cases course.descending <;>
    simp only [if_true, Bool.false_eq_true, if_false] <;> omega

/-- A width has room for finite numbers only. -/
theorem exists_point_of_holds {width : Width} {a : Number} (h : width.holds a = true) :
    ∃ place, a.point? = some (.at place) := by
  obtain ⟨hlow, hhigh⟩ := limits_point width
  unfold Width.holds Number.le at h
  rw [hlow, hhigh] at h
  cases hpoint : a.point? with
  | none =>
    rw [hpoint] at h
    cases h
  | some point =>
    rw [hpoint] at h
    cases point with
    | «at» place => exact ⟨place, rfl⟩
    | _ => simp [Point.le, Point.lt] at h

/-- All that is ever evaluated of the greatest numbers of the fractional widths. -/
theorem evaluated_greatest :
    Width.float.greatestUnits = (2 ^ 24 - 1) * 2 ^ 253 * leastSingle ∧
      2 ^ 63 * unitsPerOne ≤ Width.float.greatestUnits ∧
      Width.float.greatestUnits ≤ Width.double.greatestUnits ∧
      Width.double.greatestUnits < unitsBound := by decide +kernel

theorem limit_float (course : Course) : course.limit .float = Width.float.greatestUnits := by
  unfold Course.limit Width.limitUnits
  rw [if_neg (by decide)]

theorem limit_double (course : Course) : course.limit .double = Width.double.greatestUnits := by
  unfold Course.limit Width.limitUnits
  rw [if_neg (by decide)]

theorem limit_integral (hintegral : width.isIntegral = true) :
    course.limit width =
      (if course.descending then Nat.pow 2 width.digits else Nat.pow 2 width.digits - 1) *
        unitsPerOne :=
  if_pos hintegral

theorem single_limit (course : Course) : Single (course.limit .float) := by
  rw [limit_float, evaluated_greatest.1]
  exact ⟨_, exact_mul (by decide) (by decide) 253, rfl⟩

theorem exact_limit (course : Course) : Exact 53 (course.limit .double) := by
  rw [limit_double, evaluated_powers.2.2.2.2.2.2.2.2, greatestInteger_units]
  exact exact_mul (by decide) (by decide) _

/-- No width has room for more than a double. -/
theorem limit_le (course : Course) (width : Width) : course.limit width ≤ course.limit .double := by
  obtain ⟨-, hlong, hfloat, -⟩ := evaluated_greatest
  have hintegral : width.isIntegral = true → course.limit width ≤ course.limit .double := by
    intro hintegral
    have hpow : Nat.pow 2 width.digits ≤ Nat.pow 2 63 :=
      Nat.pow_le_pow_right (by decide) width.digits_le
    rw [limit_integral hintegral, limit_double]
    refine Nat.le_trans (Nat.mul_le_mul_right unitsPerOne (Nat.le_trans ?_ hpow))
      (Nat.le_trans hlong hfloat)
    split
    · exact Nat.le_refl _
    · exact Nat.sub_le _ _
  cases width with
  | float => rwa [limit_float, limit_double]
  | double => exact Nat.le_refl _
  | _ => exact hintegral rfl

theorem limit_lt (course : Course) (width : Width) : course.limit width < unitsBound := by
  have hle := limit_le course width
  rw [limit_double] at hle
  exact Nat.lt_of_le_of_lt hle evaluated_greatest.2.2.2

/-- The wide widths have room for all that is not very far from zero. -/
theorem wide_limit (course : Course) (h : width = .long ∨ width = .float ∨ width = .double) :
    2 ^ 62 * unitsPerOne ≤ course.limit width := by
  obtain ⟨-, hfloat, hdouble, -⟩ := evaluated_greatest
  rcases h with rfl | rfl | rfl
  · rw [limit_integral rfl]
    refine Nat.mul_le_mul_right unitsPerOne ?_
    cases course.descending <;> decide
  · rw [limit_float]
    omega
  · rw [limit_double]
    omega

/-- The narrow ones have room for integers that doubles are exact for. -/
theorem narrow_limit (course : Course) (h : width = .byte ∨ width = .short ∨ width = .int) :
    unitsPerOne ∣ course.limit width ∧ course.limit width < 2 ^ 53 * unitsPerOne := by
  have hintegral : width.isIntegral = true := by rcases h with rfl | rfl | rfl <;> rfl
  rw [limit_integral hintegral]
  refine ⟨Nat.dvd_mul_left _ _, Nat.mul_lt_mul_of_pos_right ?_ unitsPerOne_pos⟩
  rcases h with rfl | rfl | rfl <;> cases course.descending <;> decide

/-- A limit of a width is as far from zero as the width has room. -/
theorem limit_at (course : Course) (width : Width) :
    ∃ limit, (limit = width.limits.1 ∨ limit = width.limits.2) ∧
      course.At limit (course.limit width) := by
  obtain ⟨hlow, hhigh⟩ := limits_point width
  unfold Course.At Course.along Course.limit
  cases hdirection : course.descending with
  | true => exact ⟨_, .inl rfl, hlow⟩
  | false => exact ⟨_, .inr rfl, hhigh⟩

/-- What there is room for is still finite once it is rounded. -/
theorem doubleUnits_lt (hroom : x ≤ course.limit .double) : doubleUnits x < unitsBound := by
  have hle := (roundsTo_doubleUnits x).le Nat.one_pos (exact_limit course) (by omega)
  exact Nat.lt_of_le_of_lt hle (limit_lt course .double)

end Room

/-! ## Rounded numbers -/

theorem significant_zero (bits den : Nat) : significant bits 0 den = 0 := by
  simp [significant, nearest]

section Rounded

variable {course : Course} {a b : Number} {x y num den : Nat} {negative : Bool} {m : Magnitude}

theorem doubleUnits_units (m : Magnitude) : doubleUnits m.units = m.units := m.rounded

theorem sign_of_at (h : course.At (.double (.finite negative m)) x) :
    x = 0 ∨ negative = course.descending := by
  have hunits := units_of_at h
  obtain ⟨-, hzero | hsign⟩ := signed_inj (at_double.mp h : signed negative m.units = signed _ x)
  · exact .inl (hunits ▸ hzero)
  · exact .inr hsign

theorem sign_of_along (course : Course) (k : Nat) :
    k = 0 ∨ decide (course.along k < 0) = course.descending := by
  rcases Nat.eq_zero_or_pos k with hzero | hpos
  · exact .inl hzero
  · refine .inr (course.descending_eq ?_)
    rw [Course.along_along]
    omega

theorem ofUnits_at (hsign : num = 0 ∨ negative = course.descending)
    (hsmall : significant 53 num den < unitsBound) :
    ∃ m, ofUnits negative num den = .finite negative m ∧
      course.At (.double (.finite negative m)) (significant 53 num den) := by
  obtain ⟨m, hm, hunits⟩ := ofUnits_finite negative hsmall
  refine ⟨m, hm, at_double.mpr ?_⟩
  rw [hunits]
  rcases hsign with rfl | rfl
  · rw [significant_zero]
    unfold signed Course.along
    cases negative <;> cases course.descending <;> rfl
  · rfl

theorem at_asDouble (h : course.At a x) (hsmall : doubleUnits x < unitsBound) :
    ∃ negative m, Width.asDouble a = .finite negative m ∧
      course.At (.double (.finite negative m)) (doubleUnits x) := by
  rcases at_cases h with ⟨k, rfl, rfl⟩ | ⟨negative, m, rfl, rfl⟩
  · have hsign : k * unitsPerOne = 0 ∨ _ := (sign_of_along course k).imp_left (by simp [·])
    obtain ⟨m, hm, hat⟩ := ofUnits_at hsign hsmall
    refine ⟨_, m, ?_, hat⟩
    rw [Width.asDouble, ofInt, ofRatio, Course.along_natAbs, hm]
  · refine ⟨negative, m, rfl, ?_⟩
    rwa [doubleUnits_units]

/-- A number that becomes a double lies at the nearest one. -/
theorem toDouble?_at {d : Double} (h : course.At a x) (hd : a.toDouble? = .ok d) :
    ∃ negative m, d = .finite negative m ∧
      course.At (.double (.finite negative m)) (doubleUnits x) := by
  rcases at_cases h with ⟨k, rfl, rfl⟩ | ⟨negative, m, rfl, rfl⟩
  · have hsmall : k < integerLimit := by
      by_contra hlarge
      have hover := Number.overflows_toDouble?.mpr (Number.large_int.mpr
        (by rwa [Course.along_natAbs, ← Nat.not_lt] : integerLimit ≤ (course.along k).natAbs))
      rw [hd] at hover
      exact not_overflows_ok _ hover
    have hround : doubleUnits (k * unitsPerOne) < unitsBound :=
      (significant_ratio_lt_iff Nat.one_pos).mpr (by omega)
    obtain ⟨negative, m, hm, hat⟩ := at_asDouble h hround
    refine ⟨negative, m, ?_, hat⟩
    rw [Width.asDouble] at hm
    rw [Number.toDouble?, hm] at hd
    exact (Except.ok.inj hd).symm
  · refine ⟨negative, m, (Except.ok.inj hd).symm, ?_⟩
    rwa [doubleUnits_units]

/-- The sum of doubles is rounded from the sum of their distances. -/
theorem add_eq {negative' : Bool} {m' : Magnitude}
    (hx : course.At (.double (.finite negative m)) x)
    (hy : course.At (.double (.finite negative' m')) y) :
    ∃ sign, (x + y = 0 ∨ sign = course.descending) ∧
      (Double.finite negative m).add (.finite negative' m') = ofUnits sign (x + y) 1 := by
  have hsum : signed negative m.units + signed negative' m'.units = course.along (x + y : Nat) := by
    rw [at_double.mp hx, at_double.mp hy, ← Course.along_add, Int.natCast_add]
  rw [Double.add, hsum, ofSignedUnits, Course.along_natAbs]
  split
  · next hzero =>
    simp only [Bool.and_eq_true, beq_iff_eq, units_of_at hx, units_of_at hy] at hzero
    have hnone : x + y = 0 := by omega
    exact ⟨true, .inl hnone, by rw [hnone]; rfl⟩
  · exact ⟨_, sign_of_along course (x + y), rfl⟩

/-- Where the sum of doubles lies. -/
theorem at_add {negative' : Bool} {m' : Magnitude}
    (hx : course.At (.double (.finite negative m)) x)
    (hy : course.At (.double (.finite negative' m')) y)
    (hsmall : doubleUnits (x + y) < unitsBound) :
    ∃ sign sum, (Double.finite negative m).add (.finite negative' m') = .finite sign sum ∧
      course.At (.double (.finite sign sum)) (doubleUnits (x + y)) := by
  obtain ⟨sign, hsign, hadd⟩ := add_eq hx hy
  obtain ⟨sum, hsum, hat⟩ := ofUnits_at hsign hsmall
  exact ⟨sign, sum, hadd.trans hsum, hat⟩

/-! ## Midpoints -/

/-- Half of a finite double is finite. -/
theorem at_half (h : course.At (.double (.finite negative m)) x) :
    ∃ half, (Double.finite negative m).half = .finite negative half ∧
      course.At (.double (.finite negative half)) (significant 53 x 2) := by
  have hunits := units_of_at h
  have hsmall : significant 53 x 2 < unitsBound := by
    refine Nat.lt_of_le_of_lt ?_ (hunits ▸ m.small)
    refine (roundsTo_significant (by decide) Nat.two_pos).le Nat.two_pos (exact_of_at h) ?_
    omega
  obtain ⟨half, hhalf, hat⟩ := ofUnits_at (sign_of_at h) hsmall
  refine ⟨half, ?_, hat⟩
  rw [Double.half, hunits, hhalf]

/-- The midpoint of integers. -/
theorem mean?_integers {j k : Nat} {d : Double}
    (h : (Number.int (course.along j)).mean? (.int (course.along k)) = .ok d) :
    course.At (.double d) (middleUnits true (j * unitsPerOne) (k * unitsPerOne)) := by
  rw [Number.mean?_int, ← Course.along_add, ← Int.natCast_add, Number.half?,
    Course.along_natAbs] at h
  have hsmall : significant 53 ((j + k) * unitsPerOne) 2 < unitsBound := by
    rw [significant_ratio_lt_iff Nat.two_pos]
    by_contra hlarge
    rw [ofRatio_infinite _ Nat.two_pos (Nat.not_lt.mp hlarge)] at h
    cases h
  have hsign : (j + k) * unitsPerOne = 0 ∨ _ :=
    (sign_of_along course (j + k)).imp_left fun hzero => by rw [hzero, Nat.zero_mul]
  obtain ⟨m, hm, hat⟩ := ofUnits_at hsign hsmall
  rw [ofRatio, hm] at h
  rw [middleUnits_integers, ← Nat.add_mul, ← Except.ok.inj h]
  exact hat

/-- The midpoint of doubles, which is infinite if their sum is. -/
theorem half_add {negative' : Bool} {m' : Magnitude}
    (hx : course.At (.double (.finite negative m)) x)
    (hy : course.At (.double (.finite negative' m')) y) :
    course.At (.double ((Double.finite negative m).add (.finite negative' m')).half)
        (significant 53 (doubleUnits (x + y)) 2) ∨
      (∃ sign, ((Double.finite negative m).add (.finite negative' m')).half = .infinite sign) ∧
        unitsBound ≤ doubleUnits (x + y) := by
  obtain ⟨sign, hsign, hadd⟩ := add_eq hx hy
  rw [hadd]
  rcases Nat.lt_or_ge (doubleUnits (x + y)) unitsBound with hsmall | hlarge
  · obtain ⟨sum, hsum, hat⟩ := ofUnits_at hsign hsmall
    obtain ⟨half, hhalf, hat⟩ := at_half hat
    rw [hsum, hhalf]
    exact .inl hat
  · have hsum : ofUnits sign (x + y) 1 = .infinite sign := dif_neg (Nat.not_lt.mpr hlarge)
    rw [hsum]
    exact .inr ⟨⟨sign, rfl⟩, hlarge⟩

/-- Unless both are integers, two numbers become doubles before their midpoint is taken. -/
theorem mean?_mixed (h : (a.isInteger && b.isInteger) = false) :
    a.mean? b = do
      let c ← a.toDouble?
      let d ← b.toDouble?
      return (c.add d).half := by
  have hbind : ∀ c? d? : Except Overflow Double,
      ((do
        let c ← c?
        let d ← d?
        return Number.double (c.add d)) >>= Number.half?) = do
          let c ← c?
          let d ← d?
          return (c.add d).half := by
    intro c? d?
    cases c? <;> cases d? <;> rfl
  cases a with
  | double c => cases b <;> exact hbind _ _
  | int j =>
    cases b with
    | double d => exact hbind _ _
    | int k => cases h

/-- Where a midpoint lies, unless it is too large. -/
theorem mean?_at {d : Double} (hx : course.At a x) (hy : course.At b y) (h : a.mean? b = .ok d) :
    course.At (.double d) (middleUnits (a.isInteger && b.isInteger) x y) ∨
      (∃ negative, d = .infinite negative) ∧ unitsBound ≤ 4 * (x + y) := by
  cases hintegers : a.isInteger && b.isInteger with
  | true =>
    rcases at_cases hx with ⟨j, rfl, rfl⟩ | ⟨negative, m, rfl, -⟩
    · rcases at_cases hy with ⟨k, rfl, rfl⟩ | ⟨negative, m, rfl, -⟩
      · exact .inl (mean?_integers h)
      · cases hintegers
    · cases hintegers
  | false =>
    rw [mean?_mixed hintegers] at h
    obtain ⟨c, hc, h⟩ := ok_of_bind h
    obtain ⟨e, he, h⟩ := ok_of_bind h
    cases h
    obtain ⟨negative, m, rfl, hcAt⟩ := toDouble?_at hx hc
    obtain ⟨negative', m', rfl, heAt⟩ := toDouble?_at hy he
    rw [middleUnits_doubles]
    refine (half_add hcAt heAt).imp_right fun ⟨hinfinite, hlarge⟩ => ⟨hinfinite, ?_⟩
    have hsum := significant_le (by decide : 0 < 53) (doubleUnits x + doubleUnits y)
    have hx := significant_le (by decide : 0 < 53) x
    have hy := significant_le (by decide : 0 < 53) y
    unfold doubleUnits at *
    omega

end Rounded

end Interval

end TreePredicate
