import TreePredicate.Proofs.Generation.Inverted

/-!
# Tests with a declared width

The width that a test declares says which numbers are made for it, and not which numbers pass: an
integer passes a test for doubles, and a double one for integers. Only single precision matters for
what passes, and it only widens. A bound then stands for itself and for the single precision number
next to it, and the end of the interval lies at the outer one of the two.

* `NumberTest.Accepts`, `NumberTest.undeclared` : a number in a tree passes a test; the test without
  its width;
* `Interval.PassesLow`, `Interval.PassesHigh` : a number is on the inner side of one end;
* `Interval.passesLow_bound`, `Interval.passesHigh_bound` : an included end admits its bound, as it
  is written and as it is held;
* `NumberTest.accepts_declared` : what a declared width changes.
-/

set_option autoImplicit false

namespace TreePredicate

-- Unfolded, these are powers that no step may write out.
attribute [local irreducible] unitsPerOne unitsBound greatestInteger lastPlace integerLimit
  leastSingle Width.greatestUnits

namespace NumberTest

/-- The same test without a width. -/
def undeclared : NumberTest → NumberTest
  | .equals value _ => .equals value none
  | .range lower? upper? lowerIncluded upperIncluded _ =>
    .range lower? upper? lowerIncluded upperIncluded none
  | .compare comparison value _ => .compare comparison value none

/-- A number in a tree passes a test. -/
def Accepts (test : NumberTest) (q : Quantity) : Prop :=
  (Predicate.number test).evaluate (.number q) = .ok true

theorem accepts_iff {test : NumberTest} {q : Quantity} :
    test.Accepts q ↔ (Interval.ofTest test).holds q.value = true := by
  rw [Accepts, Predicate.evaluate, Predicate.evaluateNumber_eq, Except.ok.injEq]

end NumberTest

namespace Interval

/-! ## One end -/

/-- A number is on the inner side of the lower end. -/
def PassesLow (i : Interval) (a : Number) : Prop :=
  (if i.lowIncluded then i.low.le a else i.low.lt a) = true

/-- A number is on the inner side of the upper end. -/
def PassesHigh (i : Interval) (a : Number) : Prop :=
  (if i.highIncluded then a.le i.high else a.lt i.high) = true

theorem holds_iff_passes {i : Interval} {a : Number} :
    i.holds a = true ↔ i.PassesLow a ∧ i.PassesHigh a := by
  rw [holds, Bool.and_eq_true, PassesLow, PassesHigh]

/-- A number lies between two others, in whatever order these are. -/
def Between (a b value : Number) : Prop :=
  a.le value = true ∧ value.le b = true ∨ b.le value = true ∧ value.le a = true

theorem between_iff {a b value : Number} {p q x : Int} (ha : a.point? = some (.at p))
    (hb : b.point? = some (.at q)) (hvalue : value.point? = some (.at x)) :
    Between a b value ↔ min p q ≤ x ∧ x ≤ max p q := by
  rw [Between, Number.le_of_points ha hvalue, Number.le_of_points hvalue hb,
    Number.le_of_points hb hvalue, Number.le_of_points hvalue ha]
  simp only [decide_eq_true_eq]
  omega

section Bound

variable {v a : Number} {width? : Option Width} {p x : Int}

/-- A lower end does not move inwards. -/
theorem low_widens {included : Bool} (ha : a.point? = some (.at x))
    (h : (if included then v.le a else v.lt a) = true) :
    (if included then (v.min (held v width?)).le a else (v.min (held v width?)).lt a) = true := by
  rcases held_eq_or_exists_point v width? with heq | ⟨p, hp⟩
  · rwa [heq, Number.min, ite_self]
  · have hmin := Number.point?_min hp (point?_held hp width?)
    rw [ends_iff hp ha] at h
    rw [ends_iff hmin ha]
    exact ⟨by omega, fun hopen => by have := h.2 hopen; omega⟩

/-- An upper end does not move inwards. -/
theorem high_widens {included : Bool} (ha : a.point? = some (.at x))
    (h : (if included then a.le v else a.lt v) = true) :
    (if included then a.le (v.max (held v width?)) else a.lt (v.max (held v width?))) = true := by
  rcases held_eq_or_exists_point v width? with heq | ⟨p, hp⟩
  · rwa [heq, Number.max, ite_self]
  · have hmax := Number.point?_max hp (point?_held hp width?)
    rw [ends_iff ha hp] at h
    rw [ends_iff ha hmax]
    exact ⟨by omega, fun hopen => by have := h.2 hopen; omega⟩

end Bound

/-! ## The interval of a test -/

/-- The interval of a test and that of the same test without a width have the same bounds. -/
theorem exists_between (test : NumberTest) :
    ∃ low high lowIncluded highIncluded,
      ofTest test = between low (held low test.width?) high (held high test.width?) lowIncluded
        highIncluded test.width? ∧
      ofTest test.undeclared = between low (held low none) high (held high none) lowIncluded
        highIncluded none := by
  cases test with
  | equals value width? => exact ⟨_, _, _, _, rfl, rfl⟩
  | range lower? upper? lowerIncluded upperIncluded width? => exact ⟨_, _, _, _, rfl, rfl⟩
  | compare comparison value width? => cases comparison <;> exact ⟨_, _, _, _, rfl, rfl⟩

/-- A declared width only widens the interval of a test. -/
theorem holds_of_undeclared {test : NumberTest} {a : Number} {x : Int}
    (ha : a.point? = some (.at x)) (h : (ofTest test.undeclared).holds a = true) :
    (ofTest test).holds a = true := by
  obtain ⟨low, high, lowIncluded, highIncluded, hdeclared, hundeclared⟩ := exists_between test
  have hnone : (none : Option Width) ≠ some .float := by simp
  rw [hundeclared, between, held_eq_self hnone, held_eq_self hnone, Number.min, Number.max, ite_self,
    ite_self, holds_iff_passes] at h
  rw [hdeclared, holds_iff_passes]
  exact ⟨low_widens ha h.1, high_widens ha h.2⟩

/-- Only single precision changes what is inside. -/
theorem holds_undeclared {test : NumberTest} (hwidth : test.width? ≠ some .float) (a : Number) :
    (ofTest test.undeclared).holds a = (ofTest test).holds a := by
  obtain ⟨low, high, lowIncluded, highIncluded, hdeclared, hundeclared⟩ := exists_between test
  have hnone : (none : Option Width) ≠ some .float := by simp
  rw [hdeclared, hundeclared, held_eq_self hnone, held_eq_self hnone, held_eq_self hwidth,
    held_eq_self hwidth]
  rfl

/-! ## Ends in single precision -/

section Room

variable {v : Number} (hroom : Width.float.holds v = true)
include hroom

/-- A bound lies where it is written and is held where single precision puts it. -/
theorem exists_held_point : ∃ p, v.point? = some (.at p) ∧
    (Width.float.convert v).point? = some (.at (singlePlace p)) := by
  obtain ⟨p, hp⟩ := exists_point_of_holds hroom
  exact ⟨p, hp, point?_convert hp hroom⟩

/-- An included lower end admits its bound, as it is written and as it is held. -/
theorem passesLow_bound {i : Interval} (hincluded : i.lowIncluded = true)
    (hlow : i.low = v.min (held v (some .float))) :
    i.PassesLow v ∧ i.PassesLow (Width.float.convert v) := by
  obtain ⟨p, hp, hheld⟩ := exists_held_point hroom
  have hmin := Number.point?_min hp hheld
  rw [← held_of_room hroom, ← hlow] at hmin
  rw [PassesLow, PassesLow, hincluded, ends_iff hmin hp, ends_iff hmin hheld]
  simp

/-- An included upper end admits its bound, as it is written and as it is held. -/
theorem passesHigh_bound {i : Interval} (hincluded : i.highIncluded = true)
    (hhigh : i.high = v.max (held v (some .float))) :
    i.PassesHigh v ∧ i.PassesHigh (Width.float.convert v) := by
  obtain ⟨p, hp, hheld⟩ := exists_held_point hroom
  have hmax := Number.point?_max hp hheld
  rw [← held_of_room hroom, ← hhigh] at hmax
  rw [PassesHigh, PassesHigh, hincluded, ends_iff hp hmax, ends_iff hheld hmax]
  simp

/-- What equals a number in single precision lies between that number and the one that is held. -/
theorem holds_equals_iff {a : Number} {x : Int} (ha : a.point? = some (.at x)) :
    (ofTest (.equals v (some .float))).holds a = true ↔ Between v (Width.float.convert v) a := by
  obtain ⟨p, hp, hheld⟩ := exists_held_point hroom
  have hmin := Number.point?_min hp hheld
  have hmax := Number.point?_max hp hheld
  rw [← held_of_room hroom] at hmin hmax
  rw [between_iff hp hheld ha, holds_iff_passes]
  show (v.min (held v (some .float))).le a = true ∧ a.le (v.max (held v (some .float))) = true ↔ _
  rw [Number.le_of_points hmin ha, Number.le_of_points ha hmax, decide_eq_true_eq, decide_eq_true_eq]

end Room

end Interval

namespace NumberTest

open TreePredicate.Interval

/-- A declared width only widens what passes a test, and only single precision does. What equals a
number in single precision lies between that number, as it is written, and the single precision number
that is held for it; both pass. An included bound of a range or comparison in single precision, which
has room for it, admits both as well. -/
theorem accepts_declared (test : NumberTest) (q : Quantity) :
    (test.undeclared.Accepts q → test.Accepts q) ∧
    (test.width? ≠ some .float → test.Accepts q → test.undeclared.Accepts q) ∧
    (∀ v, test = .equals v (some .float) → Width.float.holds v = true →
      (test.Accepts q ↔ Between v (Width.float.convert v) q.value) ∧
      (ofTest test).holds v = true ∧ (ofTest test).holds (Width.float.convert v) = true) ∧
    (∀ lower? upper? lowerIncluded upperIncluded,
      test.asRange = .range lower? upper? lowerIncluded upperIncluded (some .float) →
      (∀ v, lower? = some v → lowerIncluded = true → Width.float.holds v = true →
        (ofTest test).PassesLow v ∧ (ofTest test).PassesLow (Width.float.convert v)) ∧
      (∀ v, upper? = some v → upperIncluded = true → Width.float.holds v = true →
        (ofTest test).PassesHigh v ∧ (ofTest test).PassesHigh (Width.float.convert v))) := by
  obtain ⟨x, hx⟩ := q.exists_point
  refine ⟨fun h => ?widens, fun hwidth h => ?agrees, fun v htest hroom => ?equals,
    fun lower? upper? lowerIncluded upperIncluded hrange => ?bounds⟩
  case widens => exact accepts_iff.mpr (holds_of_undeclared hx (accepts_iff.mp h))
  case agrees =>
    rw [accepts_iff] at h ⊢
    rwa [holds_undeclared hwidth]
  case equals =>
    subst htest
    obtain ⟨p, hp, hheld⟩ := exists_held_point hroom
    refine ⟨accepts_iff.trans (holds_equals_iff hroom hx), ?_, ?_⟩
    · rw [holds_equals_iff hroom hp, between_iff hp hheld hp]
      omega
    · rw [holds_equals_iff hroom hheld, between_iff hp hheld hheld]
      omega
  case bounds =>
    have hofTest : ofTest test = between (lowOf lower?) (held (lowOf lower?) (some .float))
        (highOf upper?) (held (highOf upper?) (some .float)) lowerIncluded upperIncluded
        (some .float) := by
      unfold ofTest
      rw [hrange]
    rw [hofTest]
    constructor
    · rintro v rfl hincluded hroom
      exact passesLow_bound hroom hincluded rfl
    · rintro v rfl hincluded hroom
      exact passesHigh_bound hroom hincluded rfl

/-- One fifth, as a node in single precision holds it. -/
def singleFifth : Quantity :=
  ⟨.float, Width.float.convert Predicate.fifth, Predicate.fifth, by decide +kernel⟩

/-- A range in single precision with one fifth at its lower end, and an integer at its upper end. -/
def fifthToFive : NumberTest :=
  .range (some Predicate.fifth) (some (.int 5)) true true (some .float)

/-- The node passes both tests, and the second one of its two only because of the width. -/
theorem accepts_declared_fifth :
    (NumberTest.equals Predicate.fifth (some .float)).Accepts singleFifth ∧
      ¬ (NumberTest.equals Predicate.fifth none).Accepts singleFifth ∧
      (NumberTest.equals (.int 5) (some .int)).undeclared.Accepts
        (⟨.double, .double (.ofRatio false 5 1), .int 5, by decide +kernel⟩ : Quantity) ∧
      fifthToFive.Accepts singleFifth ∧
      (ofTest fifthToFive).PassesLow Predicate.fifth ∧
      (ofTest fifthToFive).PassesHigh (Width.float.convert (.int 5)) := by
  have hroom : Width.float.holds Predicate.fifth = true := by decide +kernel
  obtain ⟨-, -, hequals, -⟩ :=
    accepts_declared (.equals Predicate.fifth (some .float)) singleFifth
  obtain ⟨-, hagrees, -, -⟩ := accepts_declared (.equals (.int 5) (some .int))
    ⟨.double, .double (.ofRatio false 5 1), .int 5, by decide +kernel⟩
  obtain ⟨hwidens, -, -, hbounds⟩ := accepts_declared fifthToFive singleFifth
  obtain ⟨hlow, hhigh⟩ := hbounds _ _ _ _ rfl
  refine ⟨(hequals _ rfl hroom).1.mpr (.inl ⟨by decide +kernel, by decide +kernel⟩), ?_,
    hagrees (by decide) (accepts_iff.mpr (by decide +kernel)),
    hwidens (accepts_iff.mpr (by decide +kernel)), (hlow _ rfl rfl hroom).1,
    (hhigh _ rfl rfl (by decide +kernel)).2⟩
  rw [accepts_iff]
  decide +kernel

end NumberTest

end TreePredicate
