import TreePredicate.Proofs.Generation.Candidate

/-!
# Searches that overflow

* `Course.Unlisted`, `Course.Beyond` : the candidates of a search cannot be worked out; no double is
  inside, and a candidate is too large to become one;
* `TooLarge` : one of the two, for the search of an interval;
* `Course.along`, `start_le_of_holds`, `holds_of_lt_stop` : places as seen in the direction of a
  search, so that searches away from zero are one and not two;
* `outside_of_start`, `exists_start_inside`, `exists_middle_inside` : which numbers are inside if an
  integer past the doubles is next to the interval;
* `overflows_choose?_iff` : the search of an interval overflows exactly if it is too large, which
  none is between integers less than the greatest double (`not_tooLarge`).
-/

set_option autoImplicit false

namespace TreePredicate

-- Unfolded, these are powers that no step may write out.
attribute [local irreducible] unitsPerOne unitsBound greatestInteger lastPlace integerLimit

namespace Interval

/-! ## Intervals that are too large -/

namespace Course

/-- The candidates of a search cannot be worked out. -/
def Unlisted (course : Course) : Prop :=
  course.start.Large ∨
    (∃ m n, course.start = .int m ∧ course.stop = .int n ∧ 2 * integerLimit ≤ (m + n).natAbs) ∨
    (∃ d, course.start = .double d) ∧ course.stop.Large

/-- No double is inside, from the start of a search on, and one of its candidates is too large to
become a double. -/
def Beyond (course : Course) : Prop :=
  ∃ n, course.start = .int n ∧
    (greatestInteger < n.natAbs ∨ greatestInteger = n.natAbs ∧ course.startIncluded = false) ∧
    (integerLimit ≤ n.natAbs + 10 ∨ course.stopIncluded = true ∧ course.stop.Large)

end Course

/-- An integer too large for a double gets in the way of a search. -/
def TooLarge (i : Interval) : Prop :=
  ∃ course, i.course? = some course ∧ (course.Unlisted ∨ i.width? = none ∧ course.Beyond)

/-! ## The direction of a search -/

/-- A place as seen in the direction of a search. -/
def Course.along (course : Course) (x : Int) : Int := if course.descending then -x else x

section Along

variable (course : Course)

theorem Course.along_le (x : Int) : course.along x ≤ x.natAbs := by
  unfold along
  split <;> omega

theorem Course.along_add (x y : Int) : course.along (x + y) = course.along x + course.along y := by
  unfold along
  split <;> omega

theorem Course.along_of_nonneg {x : Int} (h : 0 ≤ course.along x) :
    course.along x = x.natAbs := by
  unfold along at h ⊢
  cases hd : course.descending <;>
    simp only [hd, if_true, Bool.false_eq_true, if_false] at h ⊢ <;> omega

theorem Course.descending_eq {x : Int} (h : 0 < course.along x) :
    decide (x < 0) = course.descending := by
  unfold along at h
  cases hd : course.descending <;> simp [hd] at h ⊢ <;> omega

theorem Course.along_along (x : Int) : course.along (course.along x) = x := by
  unfold along
  split <;> omega

theorem Course.along_mul (x y : Int) : course.along (x * y) = course.along x * y := by
  unfold along
  split
  · rw [Int.neg_mul]
  · rfl

theorem Course.along_signed (m : Nat) : course.along (signed course.descending m) = m := by
  unfold along signed
  split <;> simp

end Along

theorem ends_iff {included : Bool} {a b : Number} {x y : Int} (ha : a.point? = some (.at x))
    (hb : b.point? = some (.at y)) :
    (if included then a.le b else a.lt b) = true ↔ x ≤ y ∧ (included = false → x < y) := by
  cases included with
  | true => simp [Number.le_of_points ha hb]
  | false =>
    simp only [Bool.false_eq_true, if_false, Number.lt_of_points ha hb, decide_eq_true_eq,
      forall_const]
    exact ⟨fun h => ⟨Int.le_of_lt h, h⟩, And.right⟩

section Ends

variable {i : Interval} {course : Course} (hcourse : i.course? = some course)
include hcourse

/-- A search starts at the end next to zero. -/
theorem course_cases :
    (zero.le i.low = true ∧
        course = ⟨i.low, i.high, i.lowIncluded, i.highIncluded, false⟩) ∨
      i.high.le zero = true ∧ course = ⟨i.high, i.low, i.highIncluded, i.lowIncluded, true⟩ := by
  unfold course? at hcourse
  split at hcourse
  · cases hcourse
    exact .inl ⟨‹_›, rfl⟩
  · split at hcourse
    · cases hcourse
      exact .inr ⟨‹_›, rfl⟩
    · cases hcourse

/-- An integer from which a search starts has the direction of the search. -/
theorem along_start {n : Int} (hstart : course.start = .int n) : course.along n = n.natAbs := by
  obtain ⟨hside, rfl⟩ | ⟨hside, rfl⟩ := course_cases hcourse
  · replace hstart : i.low = .int n := hstart
    rw [hstart, zero, Number.int_le_int, decide_eq_true_eq] at hside
    simp only [Course.along, Bool.false_eq_true, if_false]
    omega
  · replace hstart : i.high = .int n := hstart
    rw [hstart, zero, Number.int_le_int, decide_eq_true_eq] at hside
    simp only [Course.along, if_true]
    omega

/-- Between integer ends the midpoint is half of their sum. -/
theorem mean?_ends {n m : Int} (hstart : course.start = .int n) (hstop : course.stop = .int m) :
    i.low.mean? i.high = (Number.int (n + m)).half? := by
  obtain ⟨-, rfl⟩ | ⟨-, rfl⟩ := course_cases hcourse
  · replace hstart : i.low = .int n := hstart
    replace hstop : i.high = .int m := hstop
    rw [hstart, hstop, Number.mean?_int]
  · replace hstart : i.high = .int n := hstart
    replace hstop : i.low = .int m := hstop
    rw [hstart, hstop, Number.mean?_int, Int.add_comm]

/-- An interval that is not empty has its ends in order. -/
theorem along_start_le_stop {n m : Int} (hstart : course.start = .int n)
    (hstop : course.stop = .int m) (hempty : i.isEmpty = false) :
    course.along n ≤ course.along m := by
  have hlt : i.high.lt i.low = false := (Bool.or_eq_false_iff.mp hempty).1
  obtain ⟨-, rfl⟩ | ⟨-, rfl⟩ := course_cases hcourse
  · replace hstart : i.low = .int n := hstart
    replace hstop : i.high = .int m := hstop
    rw [hstart, hstop, Number.int_lt_int, decide_eq_false_iff_not] at hlt
    exact Int.not_lt.mp hlt
  · replace hstart : i.high = .int n := hstart
    replace hstop : i.low = .int m := hstop
    rw [hstart, hstop, Number.int_lt_int, decide_eq_false_iff_not] at hlt
    exact Int.neg_le_neg (Int.not_lt.mp hlt)

variable {value : Number} {s t x : Int}

/-- What is inside lies behind the start. -/
theorem start_le_of_holds (hs : course.start.point? = some (.at s))
    (hx : value.point? = some (.at x)) (h : i.holds value = true) :
    course.along s ≤ course.along x ∧
      (course.startIncluded = false → course.along s < course.along x) := by
  obtain ⟨hlow, hhigh⟩ := (Bool.and_eq_true _ _).mp h
  obtain ⟨-, rfl⟩ | ⟨-, rfl⟩ := course_cases hcourse
  · exact (ends_iff hs hx).mp hlow
  · simp only [Course.along, if_true, Int.neg_le_neg_iff, Int.neg_lt_neg_iff]
    exact (ends_iff hx hs).mp hhigh

/-- What lies behind the start and before the stop is inside. -/
theorem holds_of_lt_stop (hs : course.start.point? = some (.at s))
    (ht : course.stop.point? = some (.at t)) (hx : value.point? = some (.at x))
    (hstart : course.along s ≤ course.along x)
    (hstrict : course.startIncluded = false → course.along s < course.along x)
    (hstop : course.along x < course.along t) : i.holds value = true := by
  refine (Bool.and_eq_true _ _).mpr ?_
  obtain ⟨-, rfl⟩ | ⟨-, rfl⟩ := course_cases hcourse
  · exact ⟨(ends_iff hs hx).mpr ⟨hstart, hstrict⟩,
      (ends_iff hx ht).mpr ⟨Int.le_of_lt hstop, fun _ => hstop⟩⟩
  · simp only [Course.along, if_true, Int.neg_le_neg_iff, Int.neg_lt_neg_iff]
      at hstart hstrict hstop
    exact ⟨(ends_iff ht hx).mpr ⟨Int.le_of_lt hstop, fun _ => hstop⟩,
      (ends_iff hx hs).mpr ⟨hstart, hstrict⟩⟩

/-! ## Candidates inside -/

/-- Nothing is inside an interval that starts past the greatest double. -/
theorem outside_of_start {n : Int} (hstart : course.start = .int n)
    (hpast : greatestInteger < n.natAbs ∨
      greatestInteger = n.natAbs ∧ course.startIncluded = false)
    {a : Number} {q : Quantity} (hfinite : a.isFinite = true)
    (hq : quantity? none a = .ok (some q)) : i.holds q.value = false := by
  obtain ⟨x, hx, hle⟩ := exists_place hfinite hq
  refine Bool.eq_false_iff.mpr fun hinside => ?_
  obtain ⟨hbehind, hstrict⟩ := start_le_of_holds hcourse (congrArg Number.point? hstart) hx hinside
  have hplace : course.along (n * unitsPerOne) = n.natAbs * unitsPerOne := by
    rw [Course.along_mul, along_start hcourse hstart]
  have halong := course.along_le x
  rw [hplace] at hbehind hstrict
  rcases hpast with hlt | ⟨heq, hopen⟩
  · have hmul := Nat.mul_lt_mul_of_pos_right hlt unitsPerOne_pos
    omega
  · have hlt := hstrict hopen
    rw [heq] at hle
    omega

variable {n m : Int} (hstart : course.start = .int n) (hstop : course.stop = .int m)
  (hempty : i.isEmpty = false) (hlarge : integerLimit ≤ m.natAbs)
include hstart hstop hempty hlarge

omit hlarge in
theorem along_stop : course.along m = m.natAbs := by
  refine course.along_of_nonneg ?_
  have hle := along_start_le_stop hcourse hstart hstop hempty
  rw [along_start hcourse hstart] at hle
  omega

/-- What lies behind the start and is no greater than the greatest double is inside. -/
theorem inside_of_behind {value : Number} {x : Int} (hx : value.point? = some (.at x))
    (hle : x.natAbs ≤ greatestInteger * unitsPerOne)
    (hbehind : n.natAbs * unitsPerOne ≤ course.along x)
    (hstrict : course.startIncluded = false → n.natAbs * unitsPerOne < course.along x) :
    i.holds value = true := by
  have hfrom : course.along (n * unitsPerOne) = n.natAbs * unitsPerOne := by
    rw [Course.along_mul, along_start hcourse hstart]
  have hto : course.along (m * unitsPerOne) = m.natAbs * unitsPerOne := by
    rw [Course.along_mul, along_stop hcourse hstart hstop hempty]
  refine holds_of_lt_stop hcourse (congrArg Number.point? hstart) (congrArg Number.point? hstop) hx
    (hfrom ▸ hbehind) (hfrom ▸ hstrict) ?_
  have hlimit := greatestInteger_add_ten_lt
  have hmul := Nat.mul_lt_mul_of_pos_right (by omega : greatestInteger < m.natAbs) unitsPerOne_pos
  have halong := course.along_le x
  rw [hto]
  omega

/-- A start at the greatest double is inside. -/
theorem exists_start_inside (hgreatest : n.natAbs = greatestInteger)
    (hincluded : course.startIncluded = true) :
    ∃ q, quantity? none (.int n) = .ok (some q) ∧ i.holds q.value = true := by
  have hlimit := greatestInteger_add_ten_lt
  have hsmall : n.natAbs < integerLimit := by omega
  obtain ⟨q, hq, hvalue⟩ := exists_quantity (a := .int n) rfl (by simpa using hsmall)
  have hplace : q.value.point? = some (.at (n * unitsPerOne)) := by
    rcases hvalue with ⟨k, hk, -, hpoint⟩ | ⟨negative, d, hd, hn⟩
    · rw [hk, hpoint]
      rfl
    · obtain ⟨top, hdouble, htop⟩ := Number.toDouble?_int_eq hsmall
      rw [hn, Except.ok.injEq, Double.finite.injEq] at hdouble
      obtain ⟨rfl, rfl⟩ := hdouble
      have hsigned : signed (decide (n < 0)) d.units = n * unitsPerOne := by
        rw [htop hgreatest.ge, ← hgreatest, ← signed_mul, signed_decide]
      rw [hd, ← hsigned]
      rfl
  refine ⟨q, hq, inside_of_behind hcourse hstart hstop hempty hlarge hplace ?_ ?_ ?_⟩
  · rw [Int.natAbs_mul, Int.natAbs_natCast, hgreatest]
  · rw [Course.along_mul, along_start hcourse hstart]
  · intro hopen
    rw [hincluded] at hopen
    cases hopen

/-- A midpoint is inside if the start is less than the greatest double. -/
theorem exists_middle_inside (hless : n.natAbs < greatestInteger)
    (hsum : (n + m).natAbs < 2 * integerLimit) :
    ∃ d q, i.low.mean? i.high = .ok d ∧ d.isFinite = true ∧
      quantity? none (.double d) = .ok (some q) ∧ i.holds q.value = true := by
  have hlimit := integerLimit_eq
  have hn := along_start hcourse hstart
  have hm := along_stop hcourse hstart hstop hempty
  have halong := course.along_add n m
  have habs : (n + m).natAbs = n.natAbs + m.natAbs := by
    have := course.along_of_nonneg (x := n + m) (by omega)
    omega
  have hdirection : decide (n + m < 0) = course.descending := course.descending_eq (by omega)
  obtain ⟨middle, hmiddle, htop, herror⟩ := Number.half?_int_eq hsum
  rw [hdirection] at hmiddle
  obtain ⟨q, hq, hvalue⟩ := exists_quantity (a := .double (.finite course.descending middle)) rfl
    (Number.not_large_double _)
  have hplace : q.value.point? = some (.at (signed course.descending middle.units)) := by
    rcases hvalue with ⟨k, hk, -, hpoint⟩ | ⟨negative, d, hd, hdouble⟩
    · rw [hk, hpoint]
      rfl
    · cases hdouble
      rw [hd]
      rfl
  have hbehind : n.natAbs * unitsPerOne < middle.units := by
    rcases Nat.lt_or_ge (n + m).natAbs (2 * greatestInteger) with hlow | hhigh
    · -- The ends are so far apart that the midpoint is not rounded back to the start.
      have hgap : 2 * n.natAbs + lastPlace < (n + m).natAbs := by omega
      have hmul := Nat.mul_lt_mul_of_pos_right hgap unitsPerOne_pos
      linarith
    · rw [htop hhigh]
      exact Nat.mul_lt_mul_of_pos_right hless unitsPerOne_pos
  refine ⟨_, q, (mean?_ends hcourse hstart hstop).trans hmiddle, rfl, hq,
    inside_of_behind hcourse hstart hstop hempty hlarge hplace ?_ ?_ ?_⟩
  · rw [signed_natAbs]
    exact middle.units_le
  · rw [Course.along_signed]
    omega
  · rw [Course.along_signed]
    omega

end Ends

/-! ## The candidates of an interval -/

section Stepped

variable {course : Course} {stepped : List Number}

/-- A step in the direction of a search. -/
theorem step_cases (course : Course) {step : Number} (h : step ∈ steps) :
    (∃ d, (if course.descending then step.neg else step) = .double d) ∨
      ∃ k : Int, (if course.descending then step.neg else step) = .int (course.along k) ∧
        0 < k ∧ k ≤ 10 := by
  simp only [steps, List.mem_cons, List.not_mem_nil, or_false] at h
  rcases h with rfl | rfl | rfl | rfl | rfl | rfl | rfl | rfl <;>
    unfold Course.along <;> split <;> simp [Number.neg]

theorem overflows_stepped? : Overflows (stepped? course) ↔ course.start.Large := by
  unfold stepped?
  rw [overflows_mapM]
  constructor
  · rintro ⟨step, hstep, h⟩
    rcases Number.overflows_add?.mp h with ⟨hlarge, -⟩ | ⟨-, hlarge⟩
    · exact hlarge
    · have hlimit := greatestInteger_add_ten_lt
      rcases step_cases course hstep with ⟨d, hd⟩ | ⟨k, hk, hpos, hle⟩
      · rw [hd] at hlarge
        exact absurd hlarge (Number.not_large_double d)
      · rw [hk, Number.large_int] at hlarge
        unfold Course.along at hlarge
        split at hlarge <;> omega
  · intro hlarge
    refine ⟨.double (Double.ofRatio false 1 2), List.mem_cons_self, ?_⟩
    rw [Number.overflows_add?]
    refine .inl ⟨hlarge, ?_⟩
    split <;> exact ⟨_, rfl⟩

/-- A step from an integer goes to an integer, and a step of ten goes farthest. -/
theorem large_stepped_iff {i : Interval} (hcourse : i.course? = some course)
    (h : stepped? course = .ok stepped) :
    (∃ a ∈ stepped, a.Large) ↔ ∃ n, course.start = .int n ∧ integerLimit ≤ n.natAbs + 10 := by
  have hmem := mem_iff_of_mapM h
  constructor
  · rintro ⟨a, ha, hlarge⟩
    obtain ⟨step, hstep, hadd⟩ := (hmem a).mp ha
    rcases Number.add?_eq_ok hadd with ⟨n, y, hn, hy, rfl⟩ | ⟨x, y, -, -, rfl⟩
    · rcases step_cases course hstep with ⟨d, hd⟩ | ⟨k, hk, hpos, hle⟩
      · rw [hd] at hy
        cases hy
      · rw [hk, Number.int.injEq] at hy
        subst hy
        rw [Number.large_int] at hlarge
        have hlength : (course.along k).natAbs ≤ 10 := by
          unfold Course.along
          split <;> omega
        exact ⟨n, hn, by omega⟩
    · exact absurd hlarge (Number.not_large_double _)
  · rintro ⟨n, hstart, hlarge⟩
    refine ⟨.int (n + course.along 10), (hmem _).mpr ⟨.int 10, by simp [steps], ?_⟩, ?_⟩
    · rw [hstart]
      unfold Course.along
      split <;> rfl
    · have hle := course.along_le (n + course.along 10)
      rw [Course.along_add, Course.along_along, along_start hcourse hstart] at hle
      rw [Number.large_int]
      omega

end Stepped

/-- The candidates of a search before its stop. -/
def Course.before (course : Course) (stepped : List Number) (middle : Double) : List Number :=
  ((if course.startIncluded then [course.start] else []) ++ stepped ++
    [Number.double middle]).filter Number.isFinite

/-- The stop of a search as its last candidate. -/
def Course.last (course : Course) : List Number :=
  (if course.stopIncluded then [course.stop] else []).filter Number.isFinite

theorem Course.mem_before {course : Course} {stepped : List Number} {middle : Double} {a : Number} :
    a ∈ course.before stepped middle ↔
      (course.startIncluded = true ∧ a = course.start ∨ a ∈ stepped ∨ a = .double middle) ∧
        a.isFinite = true := by
  cases h : course.startIncluded <;> simp [before, h, or_and_right]

theorem Course.mem_last {course : Course} {a : Number} :
    a ∈ course.last ↔ course.stopIncluded = true ∧ a = course.stop ∧ a.isFinite = true := by
  cases h : course.stopIncluded <;> simp [last, h]

section Choice

variable {i : Interval} {course : Course} (hcourse : i.course? = some course)
include hcourse

theorem candidates?_eq :
    i.candidates? = do
      let stepped ← stepped? course
      let middle ← i.low.mean? i.high
      let found := (if course.startIncluded then [course.start] else []) ++ stepped ++
        [.double middle] ++ (if course.stopIncluded then [course.stop] else [])
      return found.filter Number.isFinite := by
  unfold candidates?
  rw [hcourse]

theorem overflows_mean?_iff :
    Overflows (i.low.mean? i.high) ↔ Overflows (course.start.mean? course.stop) := by
  obtain ⟨-, rfl⟩ | ⟨-, rfl⟩ := course_cases hcourse
  · rfl
  · exact ⟨Number.overflows_mean?_comm, Number.overflows_mean?_comm⟩

/-- The candidates of a search cannot be worked out exactly if one step from the start overflows or
the midpoint does. -/
theorem overflows_candidates? : Overflows i.candidates? ↔ course.Unlisted := by
  rw [candidates?_eq hcourse, overflows_bind, overflows_stepped?]
  constructor
  · rintro (h | ⟨stepped, -, h⟩)
    · exact .inl h
    rcases overflows_bind.mp h with h | ⟨middle, -, h⟩
    · rw [overflows_mean?_iff hcourse, Number.overflows_mean?] at h
      rcases h with h | ⟨hlarge, -⟩ | h
      · exact .inr (.inl h)
      · exact .inl hlarge
      · exact .inr (.inr h)
    · exact absurd h (not_overflows_ok _)
  · intro h
    by_cases hlarge : course.start.Large
    · exact .inl hlarge
    · obtain ⟨stepped, hstepped⟩ := eq_ok_of_not_overflows (mt overflows_stepped?.mp hlarge)
      have hmean := Number.overflows_mean?.mpr ((h.resolve_left hlarge).imp_right .inr)
      rw [← overflows_mean?_iff hcourse] at hmean
      exact .inr ⟨stepped, hstepped, overflows_bind.mpr (.inl hmean)⟩

theorem exists_candidates {candidates : List Number} (h : i.candidates? = .ok candidates) :
    ∃ stepped middle, stepped? course = .ok stepped ∧ i.low.mean? i.high = .ok middle ∧
      candidates = course.before stepped middle ++ course.last := by
  rw [candidates?_eq hcourse] at h
  obtain ⟨stepped, hstepped, h⟩ := ok_of_bind h
  obtain ⟨middle, hmiddle, h⟩ := ok_of_bind h
  cases h
  exact ⟨stepped, middle, hstepped, hmiddle, List.filter_append ..⟩

variable (hlisted : ¬ course.Unlisted) {candidates stepped : List Number} {middle : Double}
include hlisted

/-- A candidate before the stop is too large exactly if a step from the start goes so far. -/
theorem large_before_iff (hstepped : stepped? course = .ok stepped) :
    (∃ a ∈ course.before stepped middle, a.Large) ↔
      ∃ n, course.start = .int n ∧ integerLimit ≤ n.natAbs + 10 := by
  rw [← large_stepped_iff hcourse hstepped]
  constructor
  · rintro ⟨a, ha, hlarge⟩
    obtain ⟨⟨-, rfl⟩ | hmem | rfl, -⟩ := Course.mem_before.mp ha
    · exact absurd (.inl hlarge) hlisted
    · exact ⟨a, hmem, hlarge⟩
    · exact absurd hlarge (Number.not_large_double middle)
  · rintro ⟨a, hmem, hlarge⟩
    exact ⟨a, Course.mem_before.mpr ⟨.inr (.inl hmem), hlarge.isFinite⟩, hlarge⟩

/-- Some candidate is inside, before the stop, unless no double is. -/
theorem exists_inside (hempty : i.isEmpty = false) {n : Int} (hstart : course.start = .int n)
    (hpast : ¬ (greatestInteger < n.natAbs ∨
      greatestInteger = n.natAbs ∧ course.startIncluded = false))
    (hlarge : course.stop.Large) (hmiddle : i.low.mean? i.high = .ok middle) :
    ∃ a ∈ course.before stepped middle, ∃ q, quantity? none a = .ok (some q) ∧
      i.holds q.value = true := by
  obtain ⟨m, hstop, hlarge⟩ := hlarge
  rcases Nat.lt_or_ge n.natAbs greatestInteger with hless | hge
  · have hsum : (n + m).natAbs < 2 * integerLimit :=
      Nat.lt_of_not_le fun hle => hlisted (.inr (.inl ⟨n, m, hstart, hstop, hle⟩))
    obtain ⟨d, q, hd, hfinite, hq, hinside⟩ :=
      exists_middle_inside hcourse hstart hstop hempty hlarge hless hsum
    rw [hmiddle, Except.ok.injEq] at hd
    subst hd
    exact ⟨_, Course.mem_before.mpr ⟨.inr (.inr rfl), hfinite⟩, q, hq, hinside⟩
  · have hgreatest : n.natAbs = greatestInteger := by omega
    have hincluded : course.startIncluded = true := by
      cases h : course.startIncluded with
      | true => rfl
      | false => exact absurd (.inr ⟨hgreatest.symm, h⟩) hpast
    obtain ⟨q, hq, hinside⟩ :=
      exists_start_inside hcourse hstart hstop hempty hlarge hgreatest hincluded
    exact ⟨_, Course.mem_before.mpr ⟨.inl ⟨hincluded, hstart.symm⟩, rfl⟩, q, hq, hinside⟩

/-- A candidate is too large exactly if a step from the start goes so far or the stop lies so far. -/
theorem large_candidate_iff (hstepped : stepped? course = .ok stepped) :
    (∃ a ∈ course.before stepped middle ++ course.last, a.Large) ↔
      (∃ n, course.start = .int n ∧ integerLimit ≤ n.natAbs + 10) ∨
        course.stopIncluded = true ∧ course.stop.Large := by
  rw [← large_before_iff hcourse hlisted hstepped]
  constructor
  · rintro ⟨a, ha, hlarge⟩
    rcases List.mem_append.mp ha with ha | ha
    · exact .inl ⟨a, ha, hlarge⟩
    · obtain ⟨hincluded, rfl, -⟩ := Course.mem_last.mp ha
      exact .inr ⟨hincluded, hlarge⟩
  · rintro (⟨a, ha, hlarge⟩ | ⟨hincluded, hlarge⟩)
    · exact ⟨a, List.mem_append_left _ ha, hlarge⟩
    · exact ⟨_, List.mem_append_right _ (Course.mem_last.mpr ⟨hincluded, rfl, hlarge.isFinite⟩),
        hlarge⟩

/-- Once its candidates are worked out, a search overflows exactly if no double is inside and one
of them is too large. -/
theorem overflows_firstInside?_iff (hempty : i.isEmpty = false)
    (h : i.candidates? = .ok candidates) :
    Overflows (i.firstInside? candidates) ↔ i.width? = none ∧ course.Beyond := by
  obtain ⟨stepped, middle, hstepped, hmiddle, rfl⟩ := exists_candidates hcourse h
  have hbefore : (∃ a ∈ course.before stepped middle, a.Large) ↔ _ :=
    large_before_iff hcourse hlisted hstepped
  have hlarge_iff : (∃ a ∈ course.before stepped middle ++ course.last, a.Large) ↔ _ :=
    large_candidate_iff hcourse hlisted hstepped
  constructor
  · intro hover
    obtain ⟨hwidth, hlarge⟩ := large_of_overflows hover
    rw [hlarge_iff] at hlarge
    refine ⟨hwidth, ?_⟩
    cases hstart : course.start with
    | double d =>
      rcases hlarge with ⟨n, hn, -⟩ | ⟨-, hstop⟩
      · rw [hstart] at hn
        cases hn
      · exact absurd (.inr (.inr ⟨⟨d, hstart⟩, hstop⟩)) hlisted
    | int n =>
      simp only [hstart, Number.int.injEq, exists_eq_left'] at hlarge hbefore
      refine ⟨n, hstart, ?_, hlarge⟩
      by_contra hpast
      have hlimit := greatestInteger_add_ten_lt
      have hstop := hlarge.resolve_left (by omega)
      refine not_overflows_append (fun a ha hlarge => ?_) ?_ hover
      · have := hbefore.mp ⟨a, ha, hlarge⟩
        omega
      · rw [hwidth]
        exact exists_inside hcourse hlisted hempty hstart hpast hstop.2 hmiddle
  · rintro ⟨hwidth, n, hstart, hpast, hlarge⟩
    refine overflows_of_large hwidth (fun a ha q hq => ?_) (hlarge_iff.mpr ?_)
    · have hfinite : a.isFinite = true := by
        rcases List.mem_append.mp ha with ha | ha
        · exact (Course.mem_before.mp ha).2
        · exact (Course.mem_last.mp ha).2.2
      exact outside_of_start hcourse hstart hpast hfinite (hwidth ▸ hq)
    · exact hlarge.imp_left fun h => ⟨n, hstart, h⟩

end Choice

/-- Between doubles and integers less than the greatest double a search does not overflow. -/
theorem not_tooLarge {i : Interval} (hlow : ∀ n, i.low = .int n → n.natAbs < greatestInteger)
    (hhigh : ∀ n, i.high = .int n → n.natAbs < greatestInteger) : ¬ i.TooLarge := by
  have hlimit := greatestInteger_add_ten_lt
  rintro ⟨course, hcourse, h⟩
  have hends : (∀ n, course.start = .int n → n.natAbs < greatestInteger) ∧
      ∀ n, course.stop = .int n → n.natAbs < greatestInteger := by
    obtain ⟨-, rfl⟩ | ⟨-, rfl⟩ := course_cases hcourse
    · exact ⟨hlow, hhigh⟩
    · exact ⟨hhigh, hlow⟩
  obtain ⟨hstart, hstop⟩ := hends
  rcases h with (⟨n, hn, hle⟩ | ⟨m, n, hm, hn, hle⟩ | ⟨-, n, hn, hle⟩) | ⟨-, n, hn, hpast, -⟩
  · have := hstart n hn
    omega
  · have := hstart m hm
    have := hstop n hn
    omega
  · have := hstop n hn
    omega
  · have := hstart n hn
    omega

/-- The search of an interval that is not empty overflows exactly if the interval is too large. -/
theorem overflows_choose?_iff {i : Interval} (hempty : i.isEmpty = false) :
    Overflows i.choose? ↔ i.TooLarge := by
  unfold choose? TooLarge
  rw [overflows_bind]
  cases hcourse : i.course? with
  | none =>
    have hcandidates : i.candidates? = .ok [zero] := by
      unfold candidates?
      rw [hcourse]
    rw [hcandidates]
    refine iff_of_false ?_ (by simp)
    rintro (h | ⟨candidates, hzero, h⟩)
    · exact not_overflows_ok _ h
    · cases hzero
      obtain ⟨-, a, ha, hlarge⟩ := large_of_overflows h
      rw [List.mem_singleton] at ha
      subst ha
      have hlimit := greatestInteger_add_ten_lt
      have hzero := Number.large_int.mp hlarge
      omega
  | some course =>
    simp only [Option.some.injEq, exists_eq_left']
    rw [overflows_candidates? hcourse]
    by_cases hlisted : course.Unlisted
    · simp [hlisted]
    · obtain ⟨candidates, h⟩ :=
        eq_ok_of_not_overflows (mt (overflows_candidates? hcourse).mp hlisted)
      simp only [hlisted, false_or, h, Except.ok.injEq, exists_eq_left']
      exact overflows_firstInside?_iff hcourse hlisted hempty h

end Interval

end TreePredicate
