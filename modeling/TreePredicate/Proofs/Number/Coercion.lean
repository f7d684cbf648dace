import TreePredicate.Proofs.Interval.Held
import TreePredicate.Proofs.Number.NearestEven

/-!
# Coercion as exact arithmetic

What a width makes of a number, stated of values: integers, and the binary fractions that doubles
stand for.

* `Number.value?` : the value of a number; `Number.le_iff_value` : numbers compare by value;
* `Width.HasRoom`, `Width.Represents`, `Width.Rounded` : a value is within the limits of a width; a
  number is one of a width; how a value is moved;
* `Width.point?_convert_of_holds` : where the number lies that a width makes of another, on either side
  of zero; `Width.rounded_place` : and that this is a rounding;
* `Width.Coerced`, `Width.coerce_spec` : all that coercion promises; `Width.Coerced.same` : numbers that
  keep it are equal in value.
-/

set_option autoImplicit false

namespace TreePredicate

-- Unfolded, these are powers that no step may write out.
attribute [local irreducible] unitsPerOne unitsBound greatestInteger lastPlace integerLimit
  leastSingle Width.greatestUnits

open Rounding Double

/-! ## Values -/

theorem unitsPerOne_eq : unitsPerOne = 2 ^ 1074 := by decide +kernel

theorem unitsPerOne_cast : (unitsPerOne : ℚ) = 2 ^ 1074 := by
  rw [unitsPerOne_eq, Nat.cast_pow, Nat.cast_ofNat]

theorem unitsPerOne_cast_pos : (0 : ℚ) < unitsPerOne := by exact_mod_cast unitsPerOne_pos

namespace Number

/-- The value of a number: an integer, or the binary fraction that a finite double stands for. -/
def value? : Number → Option ℚ
  | .int n => some n
  | .double (.finite negative m) => some ((signed negative m.units : ℚ) / unitsPerOne)
  | .double _ => none

variable {a b : Number} {x y : ℚ}

theorem value?_of_point {p : ℤ} (h : a.point? = some (.at p)) :
    a.value? = some ((p : ℚ) / unitsPerOne) := by
  cases a with
  | int n =>
    obtain rfl : n * unitsPerOne = p := Point.at.inj (Option.some.inj h)
    rw [value?, Int.cast_mul, Int.cast_natCast, mul_div_cancel_right₀ _ unitsPerOne_cast_pos.ne']
  | double d =>
    cases d with
    | nan => cases h
    | infinite negative => cases negative <;> cases h
    | finite negative m =>
      obtain rfl : signed negative m.units = p := Point.at.inj (Option.some.inj h)
      rfl

/-- What has a value has a place, so many units from zero. -/
theorem exists_point_of_value (h : a.value? = some x) :
    ∃ p : ℤ, a.point? = some (.at p) ∧ x = p / unitsPerOne := by
  have hfinite : a.isFinite = true := by
    cases a with
    | int n => rfl
    | double d =>
      cases d with
      | finite negative m => rfl
      | _ => cases h
  obtain ⟨p, hp⟩ := exists_point_of_isFinite hfinite
  exact ⟨p, hp, Option.some.inj (h.symm.trans (value?_of_point hp))⟩

/-- Numbers compare by value. -/
theorem le_iff_value (ha : a.value? = some x) (hb : b.value? = some y) : a.le b = true ↔ x ≤ y := by
  obtain ⟨p, hp, rfl⟩ := exists_point_of_value ha
  obtain ⟨q, hq, rfl⟩ := exists_point_of_value hb
  rw [le_of_points hp hq, decide_eq_true_eq, div_le_div_iff_of_pos_right unitsPerOne_cast_pos,
    Int.cast_le]

end Number

namespace Width

/-! ## Limits -/

/-- The value of a number is within the limits of a width; what has no value is not. -/
def HasRoom (width : Width) (a : Number) : Prop :=
  ∃ low x high : ℚ, width.limits.1.value? = some low ∧ a.value? = some x ∧
    width.limits.2.value? = some high ∧ low ≤ x ∧ x ≤ high

variable {width : Width} {v r : Number} {x y z : ℚ} {p : ℤ}

theorem hasRoom_iff : width.HasRoom v ↔ width.holds v = true := by
  obtain ⟨hlow, hhigh⟩ := Interval.limits_point width
  have hlow := Number.value?_of_point hlow
  have hhigh := Number.value?_of_point hhigh
  rw [holds, Bool.and_eq_true]
  constructor
  · rintro ⟨low, x, high, hlow, hx, hhigh, hle, hge⟩
    exact ⟨(Number.le_iff_value hlow hx).mpr hle, (Number.le_iff_value hx hhigh).mpr hge⟩
  · intro h
    obtain ⟨p, hp⟩ := Interval.exists_point_of_holds ((Bool.and_eq_true _ _).mpr h)
    have hx := Number.value?_of_point hp
    exact ⟨_, _, _, hlow, hx, hhigh, (Number.le_iff_value hlow hx).mp h.1,
      (Number.le_iff_value hx hhigh).mp h.2⟩

theorem exists_error_iff : (∃ e, width.coerce v = .error e) ↔ ¬ width.HasRoom v := by
  rw [hasRoom_iff, coerce]
  by_cases h : width.holds v = true
  · rw [if_pos h]
    simp [h]
  · rw [if_neg h]
    simp [h]

/-! ## Rounding -/

/-- A number is one of a width: an integer, or a double that stands for a binary fraction with as many
digits as the width has. -/
def Represents (width : Width) (a : Number) : Prop :=
  match width with
  | .float => ∃ d x, a = .double d ∧ a.value? = some x ∧ Binary 24 (-149) x
  | .double => ∃ d x, a = .double d ∧ a.value? = some x ∧ Binary 53 (-1074) x
  | _ => ∃ n, a = .int n

/-- How a width moves a value: integral widths towards zero by less than one, the others to the nearest
number, single precision through double precision. -/
def Rounded (width : Width) (x y : ℚ) : Prop :=
  match width with
  | .float => ∃ d, NearestEven 53 (-1074) x d ∧ NearestEven 24 (-149) d y
  | .double => NearestEven 53 (-1074) x y
  | _ => |y| ≤ |x| ∧ |x - y| < 1

theorem Rounded.neg (h : width.Rounded x y) : width.Rounded (-x) (-y) := by
  have htowards (h : |y| ≤ |x| ∧ |x - y| < 1) : |-y| ≤ |-x| ∧ |-x - -y| < 1 := by
    rwa [abs_neg, abs_neg, neg_sub_neg, abs_sub_comm]
  cases width with
  | float =>
    obtain ⟨d, hdouble, hsingle⟩ := h
    exact ⟨-d, hdouble.neg, hsingle.neg⟩
  | double => exact NearestEven.neg h
  | _ => exact htowards h

/-- The distance from zero at which a width holds what is so far from zero. -/
def settledUnits (width : Width) (k : ℕ) : ℕ :=
  match width with
  | .float => Interval.heldUnits k
  | .double => doubleUnits k
  | _ => k / unitsPerOne * unitsPerOne

theorem settledUnits_mono (width : Width) : Monotone width.settledUnits := by
  have htruncate : Monotone fun k => k / unitsPerOne * unitsPerOne := fun j k hle =>
    Nat.mul_le_mul_right _ (Nat.div_le_div_right hle)
  cases width with
  | float => exact Interval.heldUnits_mono
  | double => exact Interval.monotone_of_roundsTo roundsTo_doubleUnits
  | _ => exact htruncate

theorem settledUnits_zero (width : Width) : width.settledUnits 0 = 0 := by
  have htruncate : 0 / unitsPerOne * unitsPerOne = 0 := by rw [Nat.zero_div, Nat.zero_mul]
  cases width with
  | float => exact Interval.heldUnits_zero
  | double => exact Interval.significant_zero 53 1
  | _ => exact htruncate

/-- Where the number lies that a width makes of another that it has room for. -/
theorem point?_convert_of_holds (hp : v.point? = some (.at p)) (h : width.holds v = true) :
    (width.convert v).point? = some (.at (mirrored width.settledUnits p)) := by
  obtain ⟨course, k, hcourse⟩ := Interval.exists_at p
  have hat := (hcourse v).mp hp
  obtain rfl : p = course.along k := Point.at.inj (Option.some.inj (hp.symm.trans hat))
  have hsettle : course.settle (some width) k = width.settledUnits k := by cases width <;> rfl
  rw [mirrored_along width.settledUnits_zero, ← hsettle]
  exact Interval.convert_at hat ((Interval.holds_iff hat).mp h)

theorem nearestEven_doubleUnits (k : ℕ) :
    NearestEven 53 (-1074) (k / unitsPerOne) (doubleUnits k / unitsPerOne) := by
  have hround : NearestEven 53 (-1074) ((k : ℚ) / (1 : ℕ) / 2 ^ 1074) _ :=
    nearestEven_significant (by decide) Nat.one_pos 1074
  rwa [Nat.cast_one, div_one, ← unitsPerOne_cast] at hround

theorem nearestEven_singleUnits (k : ℕ) :
    NearestEven 24 (-149) (k / unitsPerOne) (singleUnits k / unitsPerOne) := by
  have hround : NearestEven 24 (-149) ((k : ℚ) / leastSingle / 2 ^ 149) _ :=
    nearestEven_significant (by decide) leastSingle_pos 149
  have hleast : (leastSingle : ℚ) ≠ 0 := by exact_mod_cast leastSingle_pos.ne'
  have hunits : (unitsPerOne : ℚ) = leastSingle * 2 ^ 149 := by
    rw [unitsPerOne_eq_single, Nat.cast_mul, Nat.cast_pow, Nat.cast_ofNat]
  rw [div_div] at hround
  rwa [singleUnits_eq, hunits, Nat.cast_mul, mul_comm (leastSingle : ℚ),
    mul_div_mul_right _ _ hleast, mul_comm _ (leastSingle : ℚ)]

theorem rounded_units (width : Width) (k : ℕ) :
    width.Rounded (k / unitsPerOne) (width.settledUnits k / unitsPerOne) := by
  have htowards : |((k / unitsPerOne * unitsPerOne : ℕ) : ℚ) / unitsPerOne| ≤ |(k : ℚ) / unitsPerOne| ∧
      |(k : ℚ) / unitsPerOne - (k / unitsPerOne * unitsPerOne : ℕ) / unitsPerOne| < 1 := by
    have hle : ((k / unitsPerOne * unitsPerOne : ℕ) : ℚ) ≤ k :=
      Nat.cast_le.mpr (Nat.div_mul_le_self k unitsPerOne)
    have hlt : (k : ℚ) < (k / unitsPerOne * unitsPerOne : ℕ) + unitsPerOne := by
      exact_mod_cast Nat.lt_div_mul_add unitsPerOne_pos
    have hpos := unitsPerOne_cast_pos
    rw [abs_of_nonneg (by positivity), abs_of_nonneg (by positivity), ← sub_div,
      abs_of_nonneg (div_nonneg (by linarith) hpos.le), div_lt_one hpos,
      div_le_div_iff_of_pos_right hpos]
    exact ⟨hle, by linarith⟩
  cases width with
  | float => exact ⟨_, nearestEven_doubleUnits k, nearestEven_singleUnits _⟩
  | double => exact nearestEven_doubleUnits k
  | _ => exact htowards

/-- On either side of zero, a width rounds. -/
theorem rounded_place (width : Width) (p : ℤ) :
    width.Rounded (p / unitsPerOne) (mirrored width.settledUnits p / unitsPerOne) := by
  have hround := width.rounded_units p.natAbs
  rcases Int.lt_or_le p 0 with hneg | hnonneg
  · have hp : (p : ℚ) = -(p.natAbs : ℚ) := by
      rw [← Int.cast_natCast, ← Int.cast_neg, Int.ofNat_natAbs_of_nonpos hneg.le, neg_neg]
    rw [mirrored_of_neg hneg, hp, Int.cast_neg, Int.cast_natCast, neg_div, neg_div]
    exact hround.neg
  · have hp : (p : ℚ) = p.natAbs := by
      rw [← Int.cast_natCast, Int.natAbs_of_nonneg hnonneg]
    rwa [mirrored_of_nonneg hnonneg, hp, Int.cast_natCast]

/-! ## Coercion -/

/-- What coercion promises of the number that it makes: it is within the limits and one of the width,
it is the rounded value, coercion leaves it alone, and numbers stay in order. -/
structure Coerced (width : Width) (v r : Number) : Prop where
  hasRoom : width.HasRoom r
  represents : width.Represents r
  rounded : ∃ x y, v.value? = some x ∧ r.value? = some y ∧ width.Rounded x y
  again : width.coerce r = .ok r
  ordered : ∀ w s, width.coerce w = .ok s → v.le w = true → r.le s = true

/-- Between a value and zero, less than one away from the value, there is one integer. -/
theorem eq_of_towards {m n : ℤ} (hm : |(m : ℚ)| ≤ |x| ∧ |x - m| < 1)
    (hn : |(n : ℚ)| ≤ |x| ∧ |x - n| < 1) : m = n := by
  have hclose : |((m - n : ℤ) : ℚ)| < 1 := by
    have hmx := abs_lt.mp hm.2
    have hnx := abs_lt.mp hn.2
    push_cast
    rw [abs_lt]
    rcases le_total 0 x with hx | hx
    · rw [abs_of_nonneg hx] at hm hn
      have := (abs_le.mp hm.1).2
      have := (abs_le.mp hn.1).2
      constructor <;> linarith
    · rw [abs_of_nonpos hx] at hm hn
      have := (abs_le.mp hm.1).1
      have := (abs_le.mp hn.1).1
      constructor <;> linarith
  have hzero : |m - n| < 1 := by exact_mod_cast hclose
  have := Int.abs_lt_one_iff.mp hzero
  omega

/-- There is one value to round to. -/
theorem Rounded.unique {a b : Number} (hy : a.value? = some y) (hz : b.value? = some z)
    (ha : width.Represents a) (hb : width.Represents b) (h : width.Rounded x y)
    (h' : width.Rounded x z) : y = z := by
  have htowards (ha : ∃ n, a = .int n) (hb : ∃ n, b = .int n) (h : |y| ≤ |x| ∧ |x - y| < 1)
      (h' : |z| ≤ |x| ∧ |x - z| < 1) : y = z := by
    obtain ⟨m, rfl⟩ := ha
    obtain ⟨n, rfl⟩ := hb
    obtain rfl := Option.some.inj hy
    obtain rfl := Option.some.inj hz
    rw [eq_of_towards h h']
  cases width with
  | float =>
    obtain ⟨d, hdouble, hsingle⟩ := h
    obtain ⟨d', hdouble', hsingle'⟩ := h'
    obtain rfl := hdouble.unique (by decide) hdouble'
    exact hsingle.unique (by decide) hsingle'
  | double => exact NearestEven.unique (by decide) h h'
  | _ => exact htowards ha hb h h'

/-- Coercion has no choice: numbers of which it promises that are equal in value. -/
theorem Coerced.same {s : Number} (h : width.Coerced v r) (h' : width.Coerced v s) :
    r.same s = true := by
  obtain ⟨x, y, hx, hy, hround⟩ := h.rounded
  obtain ⟨x', z, hx', hz, hround'⟩ := h'.rounded
  obtain rfl := Option.some.inj (hx.symm.trans hx')
  obtain rfl := hround.unique hy hz h.represents h'.represents hround'
  obtain ⟨p, hp, rfl⟩ := Number.exists_point_of_value hy
  obtain ⟨q, hq, heq⟩ := Number.exists_point_of_value hz
  rw [div_left_inj' unitsPerOne_cast_pos.ne', Int.cast_inj] at heq
  rw [Number.same_of_points hp hq, decide_eq_true_eq, heq]

theorem holds_convert (h : width.holds v = true) : width.holds (width.convert v) = true := by
  obtain ⟨p, hp⟩ := Interval.exists_point_of_holds h
  obtain ⟨course, k, hcourse⟩ := Interval.exists_at p
  have hat := (hcourse v).mp hp
  have hroom := (Interval.holds_iff hat).mp h
  exact (Interval.holds_iff (Interval.convert_at hat hroom)).mpr (Interval.settle_kind hroom).2

theorem toSingle_toSingle (d : Double) : d.toSingle.toSingle = d.toSingle := by
  cases d with
  | finite negative m =>
    have hsingle := roundsTo_singleUnits m.units
    rcases Nat.lt_or_ge (significant 53 (singleUnits m.units) 1) unitsBound with hsmall | hlarge
    · obtain ⟨single, heq, hunits⟩ := ofUnits_finite negative hsmall
      rw [hsingle.mem.exact] at hunits
      rw [toSingle, heq, toSingle, hunits, (roundsTo_singleUnits _).eq_self hsingle.mem, heq]
    · rw [toSingle, ofUnits, dif_neg (Nat.not_lt.mpr hlarge)]
      rfl
  | _ => rfl

theorem convert_convert (width : Width) (v : Number) :
    width.convert (width.convert v) = width.convert v := by
  cases width with
  | float => exact congrArg Number.double (toSingle_toSingle _)
  | double => rfl
  | _ => cases v <;> rfl

theorem represents_convert (h : width.holds v = true) (hy : (width.convert v).value? = some y)
    (hround : width.Rounded x y) : width.Represents (width.convert v) := by
  cases width with
  | float =>
    obtain ⟨d, -, hsingle⟩ := hround
    exact ⟨_, y, rfl, hy, hsingle.mem⟩
  | double => exact ⟨_, y, rfl, hy, hround.mem⟩
  | _ =>
    obtain ⟨n, hn, -⟩ := convert_integral rfl h
    exact ⟨n, hn⟩

/-- A width keeps the order of the numbers that it has room for. -/
theorem convert_le_convert {w : Number} (hv : width.holds v = true) (hw : width.holds w = true)
    (hle : v.le w = true) : (width.convert v).le (width.convert w) = true := by
  obtain ⟨p, hp⟩ := Interval.exists_point_of_holds hv
  obtain ⟨q, hq⟩ := Interval.exists_point_of_holds hw
  rw [Number.le_of_points hp hq, decide_eq_true_eq] at hle
  rw [Number.le_of_points (point?_convert_of_holds hp hv) (point?_convert_of_holds hq hw),
    decide_eq_true_eq]
  exact mirrored_le width.settledUnits_mono hle

/-- Coercion is refused exactly if the value is not within the limits of the width, which holds of no
infinity and of not-a-number; and else it keeps its promises. -/
theorem coerce_spec (width : Width) (v : Number) :
    ((∃ e, width.coerce v = .error e) ↔ ¬ width.HasRoom v) ∧
    (v.isFinite = false → ¬ width.HasRoom v) ∧
    ∀ r, width.coerce v = .ok r → width.Coerced v r := by
  refine ⟨exists_error_iff, fun hinfinite => ?_, fun r hcoerce => ?_⟩
  · rintro ⟨low, x, high, -, hx, -⟩
    cases v with
    | int n => cases hinfinite
    | double d =>
      cases d with
      | finite negative m => cases hinfinite
      | _ => cases hx
  · obtain ⟨hholds, rfl⟩ := coerce_eq_ok.mp hcoerce
    obtain ⟨p, hp⟩ := Interval.exists_point_of_holds hholds
    have hx := Number.value?_of_point hp
    have hy := Number.value?_of_point (point?_convert_of_holds hp hholds)
    have hround := width.rounded_place p
    refine ⟨hasRoom_iff.mpr (holds_convert hholds), represents_convert hholds hy hround,
      ⟨_, _, hx, hy, hround⟩, coerce_eq_ok.mpr ⟨holds_convert hholds, width.convert_convert v⟩,
      fun w s hw hle => ?_⟩
    obtain ⟨hroom, rfl⟩ := coerce_eq_ok.mp hw
    exact convert_le_convert hholds hroom hle

/-- An integer at the middle between two single precision numbers, and one that a byte has no room
for. -/
theorem coerce_spec_middle :
    Width.float.coerce (.int (2 ^ 24 + 1)) = .ok (.double (.ofInt (2 ^ 24))) ∧
      Width.float.Coerced (.int (2 ^ 24 + 1)) (.double (.ofInt (2 ^ 24))) ∧
      ¬ Width.byte.HasRoom (.int 300) := by
  have hcoerce : Width.float.coerce (.int (2 ^ 24 + 1)) = .ok (.double (.ofInt (2 ^ 24))) := by
    decide +kernel
  obtain ⟨-, -, hpromise⟩ := coerce_spec .float (.int (2 ^ 24 + 1))
  obtain ⟨hrefused, -, -⟩ := coerce_spec .byte (.int 300)
  exact ⟨hcoerce, hpromise _ hcoerce, hrefused.mp ⟨⟨.int 300, .byte⟩, by decide +kernel⟩⟩

end Width

end TreePredicate
