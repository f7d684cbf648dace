import TreePredicate.Proofs.Predicate.Declared

/-!
# Comparisons with one number

A number is less than a bound, equal to it or greater. So are numbers in trees, except by a bound in
single precision that is held elsewhere than it is written. Equality then admits all from the one to
the other, and neither of the two comparisons loses what it admits without the width, so that some
numbers pass more than one test.

* `NumberTest.comparisons` : the three tests with one bound;
* `NumberTest.accepts_below` and its siblings : what each test says of places;
* `Interval.Blurred` : a number lies from a bound to where it is held, and these are two places;
* `NumberTest.comparisons_partition` : all other numbers pass exactly one of the three.
-/

set_option autoImplicit false

namespace TreePredicate

-- Unfolded, these are powers that no step may write out.
attribute [local irreducible] unitsPerOne unitsBound greatestInteger lastPlace integerLimit
  leastSingle Width.greatestUnits

namespace Interval

/-! ## Ends that are left open -/

/-- Where there is no lower bound, every number is on the inner side. -/
theorem low_open {a : Number} {x : Int} (ha : a.point? = some (.at x)) (width? : Option Width) :
    ((lowOf none).min (held (lowOf none) width?)).le a = true := by
  rcases held_eq_or_exists_point (lowOf none) width? with heq | ⟨p, hp⟩
  · rw [heq, Number.min, ite_self, Number.le, ha]
    rfl
  · cases hp

/-- Where there is no upper bound, every number is on the inner side. -/
theorem high_open {a : Number} {x : Int} (ha : a.point? = some (.at x)) (width? : Option Width) :
    a.le ((highOf none).max (held (highOf none) width?)) = true := by
  rcases held_eq_or_exists_point (highOf none) width? with heq | ⟨p, hp⟩
  · rw [heq, Number.max, ite_self, Number.le, ha]
    rfl
  · cases hp

/-! ## Bounds in two places -/

/-- A number lies from a bound to where it is held, and these are two places. -/
structure Blurred (bound : Number) (width? : Option Width) (value : Number) : Prop where
  single : width? = some .float
  room : Width.float.holds bound = true
  moved : bound.same (Width.float.convert bound) = false
  between : Between bound (Width.float.convert bound) value

theorem blurred_iff {v a : Number} {width? : Option Width} {p x : Int}
    (hp : v.point? = some (.at p)) (hx : a.point? = some (.at x)) :
    Blurred v width? a ↔ heldPlace width? p ≠ p ∧
      min p (heldPlace width? p) ≤ x ∧ x ≤ max p (heldPlace width? p) := by
  constructor
  · rintro ⟨rfl, hroom, hmoved, hbetween⟩
    have hheld := point?_convert hp hroom
    rw [Number.same_of_points hp hheld, decide_eq_false_iff_not] at hmoved
    rw [heldPlace_of_room hp hroom]
    exact ⟨fun h => hmoved h.symm, (between_iff hp hheld hx).mp hbetween⟩
  · rintro ⟨hmoved, hbetween⟩
    rcases heldPlace_cases width? p with ⟨hplace, rfl, hle, -⟩ | ⟨hplace, -⟩
    · have hroom := (float_holds_iff hp).mpr hle
      have hheld := point?_convert hp hroom
      rw [hplace] at hmoved hbetween
      refine ⟨rfl, hroom, ?_, (between_iff hp hheld hx).mpr hbetween⟩
      rw [Number.same_of_points hp hheld, decide_eq_false_iff_not]
      exact fun h => hmoved h.symm
    · exact absurd hplace hmoved

end Interval

namespace NumberTest

open TreePredicate.Interval

/-- Less than a bound, equal to it, and greater. -/
def comparisons (bound : Number) (width? : Option Width) : List NumberTest :=
  [.compare .below bound width?, .equals bound width?, .compare .above bound width?]

/-! ## Comparisons by places -/

section Places

variable {v : Number} {q : Quantity} {p x : Int} (hp : v.point? = some (.at p))
  (hx : q.value.point? = some (.at x)) (width? : Option Width)
include hp hx

theorem accepts_equals :
    (equals v width?).Accepts q ↔
      min p (heldPlace width? p) ≤ x ∧ x ≤ max p (heldPlace width? p) := by
  have hheld := point?_held hp width?
  rw [accepts_iff, holds_iff_passes]
  show (v.min (held v width?)).le q.value = true ∧ q.value.le (v.max (held v width?)) = true ↔ _
  rw [Number.le_of_points (Number.point?_min hp hheld) hx,
    Number.le_of_points hx (Number.point?_max hp hheld), decide_eq_true_eq, decide_eq_true_eq]

theorem accepts_below :
    (compare .below v width?).Accepts q ↔ x < max p (heldPlace width? p) := by
  rw [accepts_iff, holds_iff_passes]
  show ((lowOf none).min (held (lowOf none) width?)).le q.value = true ∧
    q.value.lt (v.max (held v width?)) = true ↔ _
  rw [Number.lt_of_points hx (Number.point?_max hp (point?_held hp width?)), decide_eq_true_eq]
  exact and_iff_right (low_open hx width?)

theorem accepts_atMost :
    (compare .atMost v width?).Accepts q ↔ x ≤ max p (heldPlace width? p) := by
  rw [accepts_iff, holds_iff_passes]
  show ((lowOf none).min (held (lowOf none) width?)).le q.value = true ∧
    q.value.le (v.max (held v width?)) = true ↔ _
  rw [Number.le_of_points hx (Number.point?_max hp (point?_held hp width?)), decide_eq_true_eq]
  exact and_iff_right (low_open hx width?)

theorem accepts_above :
    (compare .above v width?).Accepts q ↔ min p (heldPlace width? p) < x := by
  rw [accepts_iff, holds_iff_passes]
  show (v.min (held v width?)).lt q.value = true ∧
    q.value.le ((highOf none).max (held (highOf none) width?)) = true ↔ _
  rw [Number.lt_of_points (Number.point?_min hp (point?_held hp width?)) hx, decide_eq_true_eq]
  exact and_iff_left (high_open hx width?)

theorem accepts_atLeast :
    (compare .atLeast v width?).Accepts q ↔ min p (heldPlace width? p) ≤ x := by
  rw [accepts_iff, holds_iff_passes]
  show (v.min (held v width?)).le q.value = true ∧
    q.value.le ((highOf none).max (held (highOf none) width?)) = true ↔ _
  rw [Number.le_of_points (Number.point?_min hp (point?_held hp width?)) hx, decide_eq_true_eq]
  exact and_iff_left (high_open hx width?)

/-- What is not between the two places of a bound passes one test with it. -/
theorem existsUnique_comparison (h : ¬ Blurred v width? q.value) :
    ∃! test, test ∈ comparisons v width? ∧ test.Accepts q := by
  rw [blurred_iff hp hx] at h
  have hbelow := accepts_below hp hx width?
  have hequals := accepts_equals hp hx width?
  have habove := accepts_above hp hx width?
  have hunique : ∀ test ∈ comparisons v width?, test.Accepts q →
      ∀ other ∈ comparisons v width?, other.Accepts q → other = test := by
    intro test htest haccepts other hother hagain
    simp only [comparisons, List.mem_cons, List.not_mem_nil, or_false] at htest hother
    rcases htest with rfl | rfl | rfl <;> rcases hother with rfl | rfl | rfl <;>
      first
        | rfl
        | simp only [hbelow, hequals, habove] at haccepts hagain; omega
  have hfound : ∃ test ∈ comparisons v width?, test.Accepts q := by
    rcases Int.lt_or_le x (min p (heldPlace width? p)) with hlow | hlow
    · exact ⟨_, List.mem_cons_self, hbelow.mpr (by omega)⟩
    rcases Int.lt_or_le (max p (heldPlace width? p)) x with hhigh | hhigh
    · exact ⟨.compare .above v width?, by simp [comparisons], habove.mpr (by omega)⟩
    · exact ⟨.equals v width?, by simp [comparisons], hequals.mpr ⟨hlow, hhigh⟩⟩
  obtain ⟨test, htest, haccepts⟩ := hfound
  exact ⟨test, ⟨htest, haccepts⟩, fun other h => hunique test htest haccepts other h.1 h.2⟩

end Places

/-- A number in a tree is less than a bound, equal to it or greater, and passes exactly one of the
three tests, unless the bound is in single precision, is held elsewhere than it is written, and the
number lies from the one place to the other. Such numbers are equal to the bound. What is less than
the bound as it is written, or greater, passes that test in any case; at most is less or equal, and at
least is greater or equal. -/
theorem comparisons_partition {v : Number} (hv : v.isFinite = true) (width? : Option Width)
    (q : Quantity) :
    (¬ Blurred v width? q.value → ∃! test, test ∈ comparisons v width? ∧ test.Accepts q) ∧
    (Blurred v width? q.value → (equals v width?).Accepts q) ∧
    (q.value.lt v = true → (compare .below v width?).Accepts q) ∧
    (v.lt q.value = true → (compare .above v width?).Accepts q) ∧
    ((compare .atMost v width?).Accepts q ↔
      (compare .below v width?).Accepts q ∨ (equals v width?).Accepts q) ∧
    ((compare .atLeast v width?).Accepts q ↔
      (compare .above v width?).Accepts q ∨ (equals v width?).Accepts q) := by
  obtain ⟨p, hp⟩ := Number.exists_point_of_isFinite hv
  obtain ⟨x, hx⟩ := q.exists_point
  have hbelow := accepts_below hp hx width?
  have hequals := accepts_equals hp hx width?
  have habove := accepts_above hp hx width?
  refine ⟨existsUnique_comparison hp hx width?, fun hblurred => ?_, fun hlt => ?_, fun hlt => ?_,
    ?_, ?_⟩
  · exact hequals.mpr ((blurred_iff hp hx).mp hblurred).2
  · rw [Number.lt_of_points hx hp, decide_eq_true_eq] at hlt
    exact hbelow.mpr (by omega)
  · rw [Number.lt_of_points hp hx, decide_eq_true_eq] at hlt
    exact habove.mpr (by omega)
  · rw [accepts_atMost hp hx, hbelow, hequals]
    omega
  · rw [accepts_atLeast hp hx, habove, hequals]
    omega

/-- The node with one fifth in single precision passes one of the three tests with 5, and equality
with one fifth. -/
theorem comparisons_partition_fifth :
    (∃! test, test ∈ comparisons (.int 5) (some .float) ∧ test.Accepts singleFifth) ∧
      (equals Predicate.fifth (some .float)).Accepts singleFifth := by
  obtain ⟨hunique, -⟩ := comparisons_partition (rfl : (Number.int 5).isFinite = true)
    (some .float) singleFifth
  obtain ⟨-, hblurred, -⟩ := comparisons_partition
    (by decide +kernel : Predicate.fifth.isFinite = true) (some .float) singleFifth
  refine ⟨hunique fun h => absurd h.moved (by decide +kernel), hblurred ?_⟩
  exact ⟨rfl, by decide +kernel, by decide +kernel, .inl ⟨by decide +kernel, by decide +kernel⟩⟩

/-- It is both equal to one fifth in single precision and greater. -/
theorem not_existsUnique_fifth :
    (equals Predicate.fifth (some .float)).Accepts singleFifth ∧
      (compare .above Predicate.fifth (some .float)).Accepts singleFifth ∧
      ¬ ∃! test, test ∈ comparisons Predicate.fifth (some .float) ∧ test.Accepts singleFifth := by
  have hequals : (equals Predicate.fifth (some .float)).Accepts singleFifth :=
    accepts_iff.mpr (by decide +kernel)
  have habove : (compare .above Predicate.fifth (some .float)).Accepts singleFifth :=
    accepts_iff.mpr (by decide +kernel)
  refine ⟨hequals, habove, fun ⟨test, _, hunique⟩ => ?_⟩
  have hsame := (hunique _ ⟨by simp [comparisons], hequals⟩).trans
    (hunique _ ⟨by simp [comparisons], habove⟩).symm
  cases hsame

end NumberTest

end TreePredicate
