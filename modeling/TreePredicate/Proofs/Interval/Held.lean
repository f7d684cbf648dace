import TreePredicate.Proofs.Generation.Settle
import TreePredicate.Proofs.Predicate.Evaluate

/-!
# Bounds as they are held

A bound that is declared as a single precision number stands for two: the one that is written, and
the one that a node of that width holds. The second is found by rounding, which keeps the order of
places and changes none of them twice.

* `Number.point?_min`, `Number.point?_max` : where the smaller and the larger of two numbers lie;
* `mirrored` : a function of distances on both sides of zero, in order if the function is
  (`mirrored_le`);
* `Interval.singlePlace` : where single precision puts a place; `singlePlace_le`,
  `singlePlace_singlePlace` : in order, and only once; `point?_convert` : and that is where it puts
  numbers;
* `Interval.heldPlace`, `point?_held` : where a node of a declared width holds a bound;
* `held_of_room`, `held_eq_self` : it is rounded to single precision, or left as it is.
-/

set_option autoImplicit false

namespace TreePredicate

-- Unfolded, these are powers that no step may write out.
attribute [local irreducible] unitsPerOne unitsBound greatestInteger lastPlace integerLimit
  leastSingle Width.greatestUnits

open Rounding Double

/-! ## Places in order -/

namespace Number

variable {a b : Number} {x y : Int}

theorem point?_min (ha : a.point? = some (.at x)) (hb : b.point? = some (.at y)) :
    (a.min b).point? = some (.at (Min.min x y)) := by
  rw [min, lt_of_points hb ha]
  by_cases h : y < x
  · rw [if_pos (decide_eq_true h), hb, min_eq_right (Int.le_of_lt h)]
  · rw [if_neg (by simpa using h), ha, min_eq_left (Int.not_lt.mp h)]

theorem point?_max (ha : a.point? = some (.at x)) (hb : b.point? = some (.at y)) :
    (a.max b).point? = some (.at (Max.max x y)) := by
  rw [max, lt_of_points ha hb]
  by_cases h : x < y
  · rw [if_pos (decide_eq_true h), hb, max_eq_right (Int.le_of_lt h)]
  · rw [if_neg (by simpa using h), ha, max_eq_left (Int.not_lt.mp h)]

theorem exists_point_of_isFinite (h : a.isFinite = true) : ∃ x, a.point? = some (.at x) := by
  cases a with
  | int n => exact ⟨_, rfl⟩
  | double d =>
    cases d with
    | finite negative m => exact ⟨_, rfl⟩
    | _ => cases h

end Number

/-! ## Functions of distances -/

/-- A function of distances from zero, on both sides of zero. -/
def mirrored (f : Nat → Nat) (place : Int) : Int := signed (decide (place < 0)) (f place.natAbs)

section Mirrored

variable {f : Nat → Nat} {x y : Int}

theorem mirrored_of_nonneg (h : 0 ≤ x) : mirrored f x = f x.natAbs := by
  rw [mirrored, decide_eq_false (Int.not_lt.mpr h), signed, if_neg Bool.false_ne_true]

theorem mirrored_of_neg (h : x < 0) : mirrored f x = -(f x.natAbs : Int) := by
  rw [mirrored, decide_eq_true h, signed, if_pos rfl]

theorem natAbs_mirrored (f : Nat → Nat) (x : Int) : (mirrored f x).natAbs = f x.natAbs :=
  signed_natAbs _ _

theorem mirrored_le (hf : Monotone f) (hle : x ≤ y) : mirrored f x ≤ mirrored f y := by
  have hup := @hf x.natAbs y.natAbs
  have hdown := @hf y.natAbs x.natAbs
  rcases Int.lt_or_le x 0 with hx | hx
  · rw [mirrored_of_neg hx]
    rcases Int.lt_or_le y 0 with hy | hy
    · rw [mirrored_of_neg hy]
      have := hdown (by omega)
      omega
    · rw [mirrored_of_nonneg hy]
      omega
  · rw [mirrored_of_nonneg hx, mirrored_of_nonneg (Int.le_trans hx hle)]
    exact Int.ofNat_le.mpr (hup (by omega))

theorem mirrored_mirrored (hf : ∀ k, f (f k) = f k) (x : Int) :
    mirrored f (mirrored f x) = mirrored f x := by
  have habs := natAbs_mirrored f x
  have htwice := hf x.natAbs
  rcases Int.lt_or_le (mirrored f x) 0 with h | h
  · rw [mirrored_of_neg h, habs, htwice]
    omega
  · rw [mirrored_of_nonneg h, habs, htwice]
    omega

theorem mirrored_along (hf : f 0 = 0) (course : Interval.Course) (k : Nat) :
    mirrored f (course.along k) = course.along (f k) := by
  unfold Interval.Course.along
  split
  · rcases Nat.eq_zero_or_pos k with rfl | hk
    · show mirrored f 0 = _
      rw [mirrored_of_nonneg (Int.le_refl 0), Int.natAbs_zero, hf]
      rfl
    · rw [mirrored_of_neg (by omega), Int.natAbs_neg, Int.natAbs_natCast]
  · rw [mirrored_of_nonneg (Int.natCast_nonneg k), Int.natAbs_natCast]

end Mirrored

namespace Interval

/-! ## Single precision in order -/

theorem monotone_of_roundsTo {kind : Nat → Prop} {round : Nat → Nat}
    (h : ∀ x, RoundsTo kind x 1 (round x)) : Monotone round := by
  intro x y hle
  rcases Nat.eq_or_lt_of_le hle with rfl | hlt
  · exact Nat.le_refl _
  · exact (h x).mono (h y) hlt

/-- The units of the nearest single precision number, through the nearest double. -/
def heldUnits (x : Nat) : Nat := singleUnits (doubleUnits x)

theorem heldUnits_mono : Monotone heldUnits :=
  (monotone_of_roundsTo roundsTo_singleUnits).comp (monotone_of_roundsTo roundsTo_doubleUnits)

theorem heldUnits_of_single {x : Nat} (h : Single x) : heldUnits x = x := by
  rw [heldUnits, (roundsTo_doubleUnits x).eq_self h.exact, (roundsTo_singleUnits x).eq_self h]

theorem heldUnits_heldUnits (x : Nat) : heldUnits (heldUnits x) = heldUnits x :=
  heldUnits_of_single (roundsTo_singleUnits _).mem

theorem heldUnits_zero : heldUnits 0 = 0 := by
  rw [heldUnits, doubleUnits, significant_zero, singleUnits_eq, significant_zero, Nat.zero_mul]

theorem single_greatest : Single Width.float.greatestUnits := by
  rw [evaluated_greatest.1]
  exact ⟨_, exact_mul (by decide) (by decide) 253, rfl⟩

theorem heldUnits_le {x : Nat} (h : x ≤ Width.float.greatestUnits) :
    heldUnits x ≤ Width.float.greatestUnits := by
  have hle := heldUnits_mono h
  rwa [heldUnits_of_single single_greatest] at hle

/-- Where single precision puts a place. -/
def singlePlace (place : Int) : Int := signed (decide (place < 0)) (heldUnits place.natAbs)

theorem singlePlace_le {x y : Int} (hle : x ≤ y) : singlePlace x ≤ singlePlace y :=
  mirrored_le heldUnits_mono hle

theorem natAbs_singlePlace (place : Int) : (singlePlace place).natAbs = heldUnits place.natAbs :=
  natAbs_mirrored heldUnits place

theorem singlePlace_singlePlace (place : Int) :
    singlePlace (singlePlace place) = singlePlace place :=
  mirrored_mirrored heldUnits_heldUnits place

theorem singlePlace_along (course : Course) (x : Nat) :
    singlePlace (course.along x) = course.along (heldUnits x) :=
  mirrored_along heldUnits_zero course x

theorem point?_convert {v : Number} {place : Int} (hplace : v.point? = some (.at place))
    (h : Width.float.holds v = true) :
    (Width.float.convert v).point? = some (.at (singlePlace place)) := by
  obtain ⟨course, x, hcourse⟩ := exists_at place
  have hat := (hcourse v).mp hplace
  obtain rfl : place = course.along x :=
    Point.at.inj (Option.some.inj (hplace.symm.trans hat))
  rw [singlePlace_along]
  exact convert_at hat ((holds_iff hat).mp h)

/-! ## Bounds as they are held -/

/-- Where a node of a declared width holds a bound. -/
def heldPlace (width? : Option Width) (place : Int) : Int :=
  if width? = some .float ∧ place.natAbs ≤ Width.float.greatestUnits then singlePlace place
  else place

theorem heldPlace_cases (width? : Option Width) (place : Int) :
    heldPlace width? place = singlePlace place ∧ width? = some .float ∧
        place.natAbs ≤ Width.float.greatestUnits ∧
        (heldPlace width? place).natAbs ≤ Width.float.greatestUnits ∨
      heldPlace width? place = place ∧
        (width? = some .float → Width.float.greatestUnits < place.natAbs) := by
  unfold heldPlace
  split
  · next h => exact .inl ⟨rfl, h.1, h.2, natAbs_singlePlace place ▸ heldUnits_le h.2⟩
  · next h => exact .inr ⟨rfl, fun hwidth => Nat.lt_of_not_le fun hle => h ⟨hwidth, hle⟩⟩

theorem heldPlace_le (width? : Option Width) {x y : Int} (hle : x ≤ y) :
    heldPlace width? x ≤ heldPlace width? y := by
  have hsingle := singlePlace_le hle
  rcases heldPlace_cases width? x with ⟨hx, hwidth, hroom, hheld⟩ | ⟨hx, hbeyond⟩
  · rcases heldPlace_cases width? y with ⟨hy, -⟩ | ⟨hy, hbeyond⟩
    · rw [hx, hy]
      exact hsingle
    · have := hbeyond hwidth
      omega
  · rcases heldPlace_cases width? y with ⟨hy, hwidth, hroom, hheld⟩ | ⟨hy, -⟩
    · have := hbeyond hwidth
      omega
    · omega

theorem heldPlace_heldPlace (width? : Option Width) (place : Int) :
    heldPlace width? (heldPlace width? place) = heldPlace width? place := by
  rcases heldPlace_cases width? place with ⟨heq, -⟩ | ⟨heq, -⟩
  · rcases heldPlace_cases width? (heldPlace width? place) with ⟨hagain, -⟩ | ⟨hagain, -⟩
    · rw [hagain, heq, singlePlace_singlePlace]
    · exact hagain
  · rw [heq, heq]

theorem float_holds_iff {v : Number} {place : Int} (hplace : v.point? = some (.at place)) :
    Width.float.holds v = true ↔ place.natAbs ≤ Width.float.greatestUnits := by
  obtain ⟨hlow, hhigh⟩ := Width.float_limits_point
  rw [Width.holds, Number.le_of_points hlow hplace, Number.le_of_points hplace hhigh,
    Bool.and_eq_true, decide_eq_true_eq, decide_eq_true_eq]
  omega

/-- A bound is made a single precision number if there is room for it, and else it is left alone. -/
theorem held_cases (v : Number) :
    held v (some .float) = Width.float.convert v ∧ Width.float.holds v = true ∨
      held v (some .float) = v ∧ Width.float.holds v = false := by
  unfold held
  have hsingle : isSingle v (some .float) = v.abs.le Width.float.limits.2 := Bool.true_and _
  by_cases habs : v.abs.le Width.float.limits.2 = true
  · rw [hsingle, if_pos habs]
    exact .inl ⟨rfl, float_holds_of_abs_le habs⟩
  · rw [hsingle, if_neg habs]
    refine .inr ⟨rfl, Bool.eq_false_iff.mpr fun hholds => habs ?_⟩
    obtain ⟨hlow, hhigh⟩ := Width.float_limits_point
    obtain ⟨place, hplace⟩ := exists_point_of_holds hholds
    rw [Width.holds, Number.le_of_points hlow hplace, Number.le_of_points hplace hhigh,
      Bool.and_eq_true, decide_eq_true_eq, decide_eq_true_eq] at hholds
    have hdistance : v.abs.point? = some (.at place.natAbs) := by
      rw [Number.point?_abs, hplace]
      rfl
    rw [Number.le_of_points hdistance hhigh]
    exact decide_eq_true (by omega)

theorem held_of_room {v : Number} (h : Width.float.holds v = true) :
    held v (some .float) = Width.float.convert v := by
  rcases held_cases v with ⟨heq, -⟩ | ⟨-, hnot⟩
  · exact heq
  · rw [h] at hnot
    cases hnot

theorem held_eq_self {width? : Option Width} (h : width? ≠ some .float) (v : Number) : held v width? = v := by
  rw [held, isSingle, beq_eq_false_iff_ne.mpr h, Bool.false_and, if_neg Bool.false_ne_true]

/-- A bound that is held elsewhere than it is written has a place. -/
theorem held_eq_or_exists_point (v : Number) (width? : Option Width) :
    held v width? = v ∨ ∃ p, v.point? = some (.at p) := by
  by_cases hwidth : width? = some .float
  · subst hwidth
    rcases held_cases v with ⟨-, hholds⟩ | ⟨heq, -⟩
    · exact .inr (exists_point_of_holds hholds)
    · exact .inl heq
  · exact .inl (held_eq_self hwidth v)

theorem point?_held {v : Number} {place : Int} (hplace : v.point? = some (.at place))
    (width? : Option Width) : (held v width?).point? = some (.at (heldPlace width? place)) := by
  by_cases hwidth : width? = some .float
  · subst hwidth
    rcases held_cases v with ⟨heq, hholds⟩ | ⟨heq, hholds⟩
    · rw [heq, heldPlace, if_pos ⟨rfl, (float_holds_iff hplace).mp hholds⟩]
      exact point?_convert hplace hholds
    · rw [heq, heldPlace, if_neg, hplace]
      rintro ⟨-, hroom⟩
      rw [(float_holds_iff hplace).mpr hroom] at hholds
      cases hholds
  · rw [heldPlace, if_neg fun h => hwidth h.1, held_eq_self hwidth, hplace]

theorem heldPlace_of_room {v : Number} {place : Int} (hplace : v.point? = some (.at place))
    (h : Width.float.holds v = true) : heldPlace (some .float) place = singlePlace place :=
  if_pos ⟨rfl, (float_holds_iff hplace).mp h⟩

end Interval

end TreePredicate
