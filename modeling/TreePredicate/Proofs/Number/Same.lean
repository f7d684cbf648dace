import TreePredicate.Predicate
import TreePredicate.Interval
import TreePredicate.Proofs.Number.Order

/-!
# Numbers of equal value

An integer and a double of equal value have one place on the number line, and so have the two zeros.
What a test says of a number depends on such places only, also where a bound is rounded to single
precision.

* `Number.point?_eq_of_same` : numbers of equal value have one place;
* `le_congr`, `lt_congr`, `min_congr`, `max_congr` : comparisons and choices by place;
* `point?_convert_float_congr` : single precision numbers by place;
* `Interval.holds_congr` : an interval says the same of numbers of equal value;
* `Interval.holds_ofTest_congr` : equal tests say the same of numbers of equal value.
-/

set_option autoImplicit false

namespace TreePredicate

-- Unfolded, these two are powers that no step may write out.
attribute [local irreducible] unitsPerOne unitsBound

/-! ## Places -/

/-- The place at the same distance from zero that is not left of it. -/
def Point.abs : Point → Point
  | .at units => .at units.natAbs
  | _ => .plusInfinity

namespace Number

variable {a a' b b' : Number}

theorem point?_eq_of_same (h : a.same b = true) : a.point? = b.point? := by
  unfold same at h
  split at h
  · next x y hx hy => rw [hx, hy, eq_of_beq h]
  · cases h

theorem le_congr (ha : a.point? = a'.point?) (hb : b.point? = b'.point?) : a.le b = a'.le b' := by
  rw [le, le, ha, hb]

theorem lt_congr (ha : a.point? = a'.point?) (hb : b.point? = b'.point?) : a.lt b = a'.lt b' := by
  rw [lt, lt, ha, hb]

theorem min_congr (ha : a.point? = a'.point?) (hb : b.point? = b'.point?) :
    (a.min b).point? = (a'.min b').point? := by
  rw [min, min, lt_congr hb ha]
  split
  · exact hb
  · exact ha

theorem max_congr (ha : a.point? = a'.point?) (hb : b.point? = b'.point?) :
    (a.max b).point? = (a'.max b').point? := by
  rw [max, max, lt_congr ha hb]
  split
  · exact hb
  · exact ha

theorem point?_abs (a : Number) : a.abs.point? = a.point?.map Point.abs := by
  cases a with
  | int n =>
    have hunits : ((n.natAbs * unitsPerOne : Nat) : Int) = (n * unitsPerOne).natAbs := by
      rw [Int.natAbs_mul, Int.natAbs_natCast]
    rw [abs, point?, point?, Option.map_some, Point.abs, ← hunits, Int.natCast_mul]
  | double d =>
    cases d with
    | nan => rfl
    | infinite negative => cases negative <;> rfl
    | finite negative m =>
      rw [abs, point?, point?, Double.point?, Double.point?, Option.map_some, Point.abs, signed_natAbs]
      rfl

theorem abs_congr (h : a.point? = b.point?) : a.abs.point? = b.abs.point? := by
  rw [point?_abs, point?_abs, h]

end Number

/-! ## Doubles -/

theorem signed_natAbs_mul (n : Int) (k : Nat) : signed (n < 0) (n.natAbs * k) = n * k := by
  unfold signed
  rw [Int.natCast_mul]
  by_cases h : n < 0
  · rw [if_pos (decide_eq_true h), Int.ofNat_natAbs_of_nonpos (by omega), Int.neg_mul, Int.neg_neg]
  · rw [if_neg (by simpa using h), Int.natAbs_of_nonneg (by omega)]

namespace Double

/-- An integer that has the place of a double becomes a double at that place. -/
theorem point?_ofInt {n : Int} {negative : Bool} {m : Magnitude}
    (h : signed negative m.units = n * unitsPerOne) :
    (ofInt n).point? = some (.at (n * unitsPerOne)) := by
  have hunits : m.units = n.natAbs * unitsPerOne := by
    rw [← signed_natAbs negative m.units, h, Int.natAbs_mul, Int.natAbs_natCast]
  have hrounded : Rounding.significant 53 (n.natAbs * unitsPerOne) 1 = n.natAbs * unitsPerOne := by
    rw [← hunits]
    exact m.rounded
  have hsmall : Rounding.significant 53 (n.natAbs * unitsPerOne) 1 < unitsBound := by
    rw [hrounded, ← hunits]
    exact m.small
  obtain ⟨m', hm', hm'units⟩ := ofUnits_finite (n < 0) hsmall
  rw [ofInt, ofRatio, hm', point?, hm'units, hrounded, signed_natAbs_mul]

theorem point?_ofUnits_zero (negative : Bool) : (ofUnits negative 0 1).point? = some (.at 0) := by
  have hzero : Rounding.significant 53 0 1 = 0 := by decide +kernel
  have hsmall : Rounding.significant 53 0 1 < unitsBound := by
    rw [hzero]
    decide +kernel
  obtain ⟨m, hm, hunits⟩ := ofUnits_finite negative hsmall
  rw [hm, point?, hunits, hzero]
  cases negative <;> rfl

/-- Doubles at one place have one magnitude, and one sign unless they are zero. -/
theorem signed_inj {negative negative' : Bool} {k k' : Nat}
    (h : signed negative k = signed negative' k') : k = k' ∧ (k = 0 ∨ negative = negative') := by
  have hunits : k = k' := by rw [← signed_natAbs negative k, h, signed_natAbs]
  refine ⟨hunits, ?_⟩
  subst hunits
  cases negative <;> cases negative' <;> simp [signed] at h ⊢ <;> omega

theorem toSingle_congr {d e : Double} (h : d.point? = e.point?) :
    d.toSingle.point? = e.toSingle.point? := by
  cases d with
  | nan => cases e with
    | nan => rfl
    | infinite negative => cases negative <;> cases h
    | finite negative m => cases h
  | infinite negative => cases e with
    | nan => cases negative <;> cases h
    | infinite negative' => cases negative <;> cases negative' <;> first | rfl | cases h
    | finite negative' m => cases negative <;> cases h
  | finite negative m => cases e with
    | nan => cases h
    | infinite negative' => cases negative' <;> cases h
    | finite negative' m' =>
      rw [point?, point?, Option.some.injEq, Point.at.injEq] at h
      obtain ⟨hunits, hzero | rfl⟩ := signed_inj h
      · have hsingle : singleUnits 0 = 0 := by decide +kernel
        rw [toSingle, toSingle, ← hunits, hzero, hsingle, point?_ofUnits_zero, point?_ofUnits_zero]
      · rw [toSingle, toSingle, hunits]

end Double

/-! ## Numbers made to fit a width -/

namespace Width

theorem asDouble_congr {a b : Number} (h : a.point? = b.point?) :
    (asDouble a).point? = (asDouble b).point? := by
  -- an integer with the place of a double is not rounded
  have hmixed : ∀ (n : Int) (d : Double), (Number.int n).point? = (Number.double d).point? →
      (asDouble (.int n)).point? = (asDouble (.double d)).point? := by
    intro n d h
    cases d with
    | nan => cases h
    | infinite negative => cases negative <;> cases h
    | finite negative m =>
      rw [Number.point?, Number.point?, Double.point?, Option.some.injEq, Point.at.injEq] at h
      rw [asDouble, asDouble, Double.point?_ofInt h.symm, Double.point?, h]
  cases a with
  | int m =>
    cases b with
    | int n =>
      rw [Number.point?, Number.point?, Option.some.injEq, Point.at.injEq] at h
      rw [Int.eq_of_mul_eq_mul_right (Int.natCast_ne_zero.mpr (Nat.ne_of_gt unitsPerOne_pos)) h]
    | double d => exact hmixed m d h
  | double d =>
    cases b with
    | int n => exact (hmixed n d h.symm).symm
    | double e => exact h

theorem point?_convert_float_congr {a b : Number} (h : a.point? = b.point?) :
    (Width.float.convert a).point? = (Width.float.convert b).point? :=
  Double.toSingle_congr (asDouble_congr h)

end Width

/-! ## Intervals -/

namespace Interval

variable {a b v w : Number}

theorem isSingle_congr (h : a.point? = b.point?) (width? : Option Width) :
    isSingle a width? = isSingle b width? := by
  rw [isSingle, isSingle, Number.le_congr (Number.abs_congr h) rfl]

theorem held_congr (h : a.point? = b.point?) (width? : Option Width) :
    (held a width?).point? = (held b width?).point? := by
  rw [held, held, isSingle_congr h]
  split
  · exact Width.point?_convert_float_congr h
  · exact h

theorem lowOf_congr {a? b? : Option Number} (h : NumberTest.sameBound a? b? = true) :
    (lowOf a?).point? = (lowOf b?).point? := by
  cases a? <;> cases b? <;> first | rfl | cases h | exact Number.point?_eq_of_same h

theorem highOf_congr {a? b? : Option Number} (h : NumberTest.sameBound a? b? = true) :
    (highOf a?).point? = (highOf b?).point? := by
  cases a? <;> cases b? <;> first | rfl | cases h | exact Number.point?_eq_of_same h

/-- What an interval says of a number depends on its place only. -/
theorem holds_congr (i : Interval) (hv : v.point? = w.point?) : i.holds v = i.holds w := by
  rw [holds, holds, Number.le_congr rfl hv, Number.lt_congr rfl hv, Number.le_congr hv rfl,
    Number.lt_congr hv rfl]

/-- What the interval between two bounds says of a number depends on places only. -/
theorem holds_between_congr {low low' high high' : Number} (hlow : low.point? = low'.point?)
    (hhigh : high.point? = high'.point?) (lowIncluded highIncluded : Bool) (width? : Option Width)
    (hv : v.point? = w.point?) :
    (between low (held low width?) high (held high width?) lowIncluded highIncluded width?).holds v =
      (between low' (held low' width?) high' (held high' width?) lowIncluded highIncluded
        width?).holds w := by
  have hmin := Number.min_congr hlow (held_congr hlow width?)
  have hmax := Number.max_congr hhigh (held_congr hhigh width?)
  rw [between, between, holds, holds, Number.le_congr hmin hv, Number.lt_congr hmin hv,
    Number.le_congr hv hmax, Number.lt_congr hv hmax]

/-- Equal tests say the same of numbers of equal value. -/
theorem holds_ofTest_congr {test test' : NumberTest} (h : test.same test' = true)
    (hv : v.same w = true) : (ofTest test).holds v = (ofTest test').holds w := by
  have hv := Number.point?_eq_of_same hv
  unfold NumberTest.same at h
  split at h
  · simp only [Bool.and_eq_true, beq_iff_eq] at h
    obtain ⟨hvalue, rfl⟩ := h
    have hvalue := Number.point?_eq_of_same hvalue
    exact holds_between_congr hvalue hvalue true true _ hv
  · simp only [Bool.and_eq_true, beq_iff_eq] at h
    obtain ⟨⟨⟨⟨hlower, hupper⟩, rfl⟩, rfl⟩, rfl⟩ := h
    exact holds_between_congr (lowOf_congr hlower) (highOf_congr hupper) _ _ _ hv
  · next comparison value width? comparison' value' width'? =>
    simp only [Bool.and_eq_true, beq_iff_eq] at h
    obtain ⟨⟨rfl, hvalue⟩, rfl⟩ := h
    have hvalue := Number.point?_eq_of_same hvalue
    cases comparison with
    | atLeast => exact holds_between_congr hvalue rfl true true _ hv
    | atMost => exact holds_between_congr rfl hvalue true true _ hv
    | above => exact holds_between_congr hvalue rfl false true _ hv
    | below => exact holds_between_congr rfl hvalue true false _ hv
  · cases h

end Interval

end TreePredicate
