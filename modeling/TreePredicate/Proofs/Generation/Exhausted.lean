import TreePredicate.Proofs.Generation.Settle
import TreePredicate.Proofs.Generation.Stretch
import TreePredicate.Proofs.Interval

/-!
# Exhausted searches

A search that finds nothing has tried every candidate, and none of them comes to lie inside.

* `StretchOf` : an interval on one side of zero, seen from there; `exists_stretch` : that is how an
  interval looks in which there is a number;
* `stepped_at`, `half_at`, `mean?_ends_at` : where the candidates lie;
* `exhausted_of_choose?` : a search that finds nothing is exhausted;
* `exists_course` : and only an interval that does not lie across zero is searched in vain.
-/

set_option autoImplicit false

namespace TreePredicate

-- Unfolded, these are powers that no step may write out.
attribute [local irreducible] unitsPerOne unitsBound greatestInteger lastPlace integerLimit
  leastSingle Width.greatestUnits

open Rounding Double

namespace Interval

/-! ## Intervals seen from zero -/

/-- An end of an interval, as it lies in the direction of a search. -/
structure EndOf (course : Course) (bound : Number) (included : Bool) (e : End) : Prop where
  units : course.At bound e.units
  integer : bound.isInteger = e.integer
  included : included = e.included

/-- One number comes before another in the direction of a search, or not after it if it counts as
well. -/
def Course.Precedes (course : Course) (included : Bool) (a b : Number) : Prop :=
  if course.descending then (if included then b.le a else b.lt a) = true
  else (if included then a.le b else a.lt b) = true

/-- An interval on one side of zero, as it lies in the direction of a search. -/
structure StretchOf (i : Interval) (course : Course) (r : Stretch) : Prop where
  start : EndOf course course.start course.startIncluded r.start
  stop : ∀ stop, r.stop? = some stop → EndOf course course.stop course.stopIncluded stop
  endless : r.stop? = none → course.stop = .double (.infinite course.descending)
  holds_iff : ∀ {a x}, course.At a x → (i.holds a = true ↔ r.Has x)

section View

variable {i : Interval} {course : Course} {included : Bool} {a b : Number} {x y : Nat}

theorem exists_end (h : course.At a x) (included : Bool) : ∃ e : End, EndOf course a included e := by
  rcases at_cases h with ⟨k, rfl, rfl⟩ | ⟨negative, m, rfl, rfl⟩
  · exact ⟨⟨_, true, included, fun _ => Nat.dvd_mul_left _ _, by simp⟩, h, rfl, rfl⟩
  · exact ⟨⟨_, false, included, by simp, fun _ => m.rounded⟩, h, rfl, rfl⟩

theorem infinite_of_point? {negative : Bool} (h : a.point? = (Double.infinite negative).point?) :
    a = .double (.infinite negative) := by
  cases a with
  | int n => cases negative <;> cases h
  | double d =>
    cases d with
    | nan => cases negative <;> cases h
    | infinite negative' => cases negative <;> cases negative' <;> first | rfl | cases h
    | finite negative' m => cases negative <;> cases h

/-- What comes before what, by distances. -/
theorem precedes_iff (ha : course.At a x) (hb : course.At b y) :
    course.Precedes included a b ↔ x ≤ y ∧ (included = false → x < y) := by
  unfold Course.At Course.along at ha hb
  unfold Course.Precedes
  cases hdirection : course.descending with
  | false =>
    simp only [hdirection, Bool.false_eq_true, if_false] at ha hb ⊢
    rw [ends_iff ha hb, Int.ofNat_le, Int.ofNat_lt]
  | true =>
    simp only [hdirection, if_true] at ha hb ⊢
    rw [ends_iff hb ha, Int.neg_le_neg_iff, Int.neg_lt_neg_iff, Int.ofNat_le, Int.ofNat_lt]

theorem le_of_precedes (ha : course.At a x) (hb : course.At b y) (h : course.Precedes true a b) :
    x ≤ y :=
  ((precedes_iff ha hb).mp h).1

/-- What comes after a distance lies at one or is infinite. -/
theorem at_or_infinite (ha : course.At a x) (h : course.Precedes included a b) :
    (∃ y, course.At b y) ∨ b = .double (.infinite course.descending) := by
  unfold Course.At Course.along at *
  unfold Course.Precedes at h
  cases hdirection : course.descending with
  | false =>
    simp only [hdirection, Bool.false_eq_true, if_false] at ha h ⊢
    obtain ⟨p, q, hp, hq, hle, -⟩ := end_iff.mp h
    rw [ha, Option.some.injEq] at hp
    subst hp
    cases q with
    | minusInfinity => cases hle
    | plusInfinity => exact .inr (infinite_of_point? hq)
    | «at» z =>
      rw [Point.at_le_at, decide_eq_true_eq] at hle
      refine .inl ⟨z.natAbs, ?_⟩
      rw [hq, Int.natAbs_of_nonneg (by omega)]
  | true =>
    simp only [hdirection, if_true] at ha h ⊢
    obtain ⟨q, p, hq, hp, hle, -⟩ := end_iff.mp h
    rw [ha, Option.some.injEq] at hp
    subst hp
    cases q with
    | minusInfinity => exact .inr (infinite_of_point? hq)
    | plusInfinity => cases hle
    | «at» z =>
      rw [Point.at_le_at, decide_eq_true_eq] at hle
      refine .inl ⟨z.natAbs, ?_⟩
      rw [hq, Int.ofNat_natAbs_of_nonpos (by omega), Int.neg_neg]

theorem precedes_infinite (ha : course.At a x) :
    course.Precedes included a (.double (.infinite course.descending)) := by
  unfold Course.Precedes
  cases course.descending with
  | false => exact end_iff.mpr ⟨_, _, ha, rfl, rfl, by simp⟩
  | true => exact end_iff.mpr ⟨_, _, rfl, ha, rfl, by simp⟩

theorem not_infinite_precedes {place : Int} (hb : b.point? = some (.at place)) :
    ¬ course.Precedes included (.double (.infinite course.descending)) b := by
  unfold Course.Precedes
  cases course.descending with
  | false =>
    intro h
    obtain ⟨p, q, hp, hq, hle, -⟩ := end_iff.mp h
    rw [hb] at hq
    cases hp
    cases hq
    cases hle
  | true =>
    intro h
    obtain ⟨q, p, hq, hp, hle, -⟩ := end_iff.mp h
    rw [hb] at hq
    cases hp
    cases hq
    cases hle

/-- What is inside comes after the start and before the stop. -/
theorem holds_iff_precedes (hcourse : i.course? = some course) {value : Number} :
    i.holds value = true ↔ course.Precedes course.startIncluded course.start value ∧
      course.Precedes course.stopIncluded value course.stop := by
  unfold holds Course.Precedes
  rw [Bool.and_eq_true]
  obtain ⟨-, rfl⟩ | ⟨-, rfl⟩ := course_cases hcourse
  · simp only [Bool.false_eq_true, if_false]
  · simp only [if_true]
    exact And.comm

end View

theorem at_zero (course : Course) : course.At zero 0 := by
  unfold Course.At Course.along zero
  simp [Number.point?]

/-- How an interval looks from zero in which there is a number. -/
theorem exists_stretch {i : Interval} {course : Course} (hcourse : i.course? = some course)
    {value : Number} {place : Int} (hplace : value.point? = some (.at place))
    (hholds : i.holds value = true) :
    ∃ r y, StretchOf i course r ∧ course.At value y ∧ r.Has y := by
  obtain ⟨hbehind, hbefore⟩ := (holds_iff_precedes hcourse).mp hholds
  have hside : course.Precedes true zero course.start := by
    unfold Course.Precedes
    obtain ⟨hside, rfl⟩ | ⟨hside, rfl⟩ := course_cases hcourse
    · exact hside
    · exact hside
  obtain ⟨s, hs⟩ := (at_or_infinite (at_zero course) hside).resolve_right fun heq =>
    not_infinite_precedes hplace (heq ▸ hbehind)
  obtain ⟨y, hy⟩ := (at_or_infinite hs hbehind).resolve_right fun heq => by
    rw [heq] at hplace
    cases hd : course.descending <;> rw [hd] at hplace <;> cases hplace
  obtain ⟨start, hstart⟩ := exists_end hs course.startIncluded
  have hstart_iff : ∀ {a x}, course.At a x →
      (course.Precedes course.startIncluded course.start a ↔
        start.units ≤ x ∧ (start.included = false → start.units < x)) := by
    intro a x ha
    rw [← hstart.included]
    exact precedes_iff hstart.units ha
  rcases at_or_infinite hy hbefore with ⟨e, he⟩ | hinfinite
  · obtain ⟨stop, hstop⟩ := exists_end he course.stopIncluded
    have hview : StretchOf i course ⟨start, some stop⟩ := by
      refine ⟨hstart, fun other hother => ?_, by simp, fun {a x} ha => ?_⟩
      · rw [← Option.some.inj hother]
        exact hstop
      · rw [holds_iff_precedes hcourse, hstart_iff ha, precedes_iff ha hstop.units, hstop.included]
        simp [Stretch.Has]
    exact ⟨_, y, hview, hy, (hview.holds_iff hy).mp hholds⟩
  · have hview : StretchOf i course ⟨start, none⟩ := by
      refine ⟨hstart, by simp, fun _ => hinfinite, fun {a x} ha => ?_⟩
      rw [holds_iff_precedes hcourse, hstart_iff ha, hinfinite]
      simp [Stretch.Has, precedes_infinite ha]
    exact ⟨_, y, hview, hy, (hview.holds_iff hy).mp hholds⟩

/-! ## Where candidates lie -/

/-- The midpoint is a number that the declared width has room for, or a double if none is declared. -/
def MiddleFits (i : Interval) : Prop :=
  ∃ d, i.low.mean? i.high = .ok d ∧ (i.width?.getD .double).holds (.double d) = true

section Candidates

variable {i : Interval} {course : Course} {r : Stretch} {stepped : List Number} {x : Nat}

theorem isFinite_of_at {a : Number} (h : course.At a x) : a.isFinite = true := by
  rcases at_cases h with ⟨k, rfl, -⟩ | ⟨negative, m, rfl, -⟩ <;> rfl

/-- A step in the direction of a search is a candidate. -/
theorem mem_stepped (hstepped : stepped? course = .ok stepped) {step a : Number}
    (hstep : step ∈ steps)
    (ha : course.start.add? (if course.descending then step.neg else step) = .ok a) :
    a ∈ stepped :=
  (mem_iff_of_mapM hstepped a).mpr ⟨step, hstep, ha⟩

/-- A step from a double. -/
theorem double_stepped_at {start step : Double} {s t : Nat} (hs : course.At (.double start) s)
    (ht : course.At (.double step) t) (hsmall : doubleUnits (s + t) < unitsBound) :
    course.At (.double (start.add step)) (doubleUnits (s + t)) := by
  obtain ⟨k, hk, -⟩ | ⟨negative, m, hm, -⟩ := at_cases hs
  · cases hk
  · obtain ⟨k, hk, -⟩ | ⟨negative', m', hm', -⟩ := at_cases ht
    · cases hk
    · cases hm
      cases hm'
      obtain ⟨sign, sum, hsum, hat⟩ := at_add hs ht hsmall
      rwa [hsum]

theorem int_step_mem {k : Nat} (hk : k ∈ [1, 2, 5, 10]) : Number.int k ∈ steps := by
  simp only [List.mem_cons, List.not_mem_nil, or_false] at hk
  rcases hk with rfl | rfl | rfl | rfl <;> simp [steps]

/-- Where a whole step leads. -/
theorem stepped_at (hview : StretchOf i course r) (hstepped : stepped? course = .ok stepped) {k : Nat}
    (hk : k ∈ [1, 2, 5, 10]) (hroom : r.stepped (k * unitsPerOne) < unitsBound) :
    ∃ a ∈ stepped, course.At a (r.stepped (k * unitsPerOne)) := by
  have hdirection : (if course.descending then (Number.int k).neg else .int k) =
      .int (course.along k) := by
    unfold Course.along
    split <;> rfl
  have hstart := hview.start.units
  have hinteger := hview.start.integer
  rcases at_cases hstart with ⟨n, hn, hunits⟩ | ⟨negative, m, hm, hunits⟩
  · rw [hn] at hinteger
    refine ⟨.int (course.along (n + k : Nat)), mem_stepped hstepped (int_step_mem hk) ?_, ?_⟩
    · rw [hdirection, hn, Int.natCast_add, Course.along_add]
      rfl
    · rw [Stretch.stepped_integer hinteger.symm, hunits, ← Nat.add_mul]
      exact at_int _
  · rw [hm] at hinteger hstart
    rw [Stretch.stepped_double hinteger.symm] at hroom ⊢
    have hkexact : doubleUnits (k * unitsPerOne) = k * unitsPerOne := by
      refine (roundsTo_doubleUnits _).eq_self (exact_integer ?_)
      simp only [List.mem_cons, List.not_mem_nil, or_false] at hk
      omega
    have hle : k * unitsPerOne ≤ doubleUnits (r.start.units + k * unitsPerOne) := by
      refine (roundsTo_doubleUnits _).ge Nat.one_pos (hkexact ▸ (roundsTo_doubleUnits _).mem) ?_
      omega
    have hkAt : course.At (.int (course.along k)) (k * unitsPerOne) := at_int k
    obtain ⟨sign, step, hdouble, hstep⟩ := at_asDouble hkAt (by omega)
    rw [hkexact] at hstep
    refine ⟨_, mem_stepped hstepped (int_step_mem hk) ?_, double_stepped_at hstart hstep hroom⟩
    rw [hdirection, hm, Number.add?, toDouble?_eq_asDouble hdouble]
    · rfl
    · simp

/-- Where a step of one half leads from a double. -/
theorem half_at (hview : StretchOf i course r) (hstepped : stepped? course = .ok stepped)
    (hdouble : r.start.integer = false) (hroom : r.stepped halfUnits < unitsBound) :
    ∃ a ∈ stepped, course.At a (r.stepped halfUnits) := by
  obtain ⟨m, hm, hunits⟩ := ofUnits_finite false
    ((significant_ratio_lt_iff (n := 1) Nat.two_pos).mpr (by
      have := greatestInteger_add_ten_lt
      omega))
  rw [Nat.one_mul] at hunits
  have hdirection : (if course.descending then (Number.double (ofRatio false 1 2)).neg
      else .double (ofRatio false 1 2)) = .double (.finite course.descending m) := by
    rw [ofRatio, hm]
    cases course.descending <;> rfl
  have hhalf : course.At (.double (.finite course.descending m)) halfUnits := by
    unfold halfUnits
    rw [← hunits]
    exact at_finite m
  have hstart := hview.start.units
  rw [Stretch.stepped_double hdouble] at hroom ⊢
  cases hnumber : course.start with
  | int n =>
    have hinteger := hview.start.integer
    rw [hnumber, hdouble] at hinteger
    cases hinteger
  | double d =>
    rw [hnumber] at hstart
    refine ⟨_, mem_stepped hstepped List.mem_cons_self ?_, double_stepped_at hstart hhalf hroom⟩
    rw [hdirection, hnumber]
    rfl

/-- The midpoint of the two ends, in either order. -/
theorem mean?_ends_at (hcourse : i.course? = some course) (hview : StretchOf i course r) {stop : End}
    (hstop : r.stop? = some stop) {d : Double} (h : i.low.mean? i.high = .ok d) :
    course.At (.double d) (r.middle stop) ∨
      (∃ negative, d = .infinite negative) ∧ unitsBound ≤ 4 * (r.start.units + stop.units) := by
  have hstart := hview.start.units
  have hend := (hview.stop stop hstop).units
  unfold Stretch.middle
  rw [← hview.start.integer, ← (hview.stop stop hstop).integer]
  obtain ⟨-, heq⟩ | ⟨-, heq⟩ := course_cases hcourse
  · have hlow : course.start = i.low := by rw [heq]
    have hhigh : course.stop = i.high := by rw [heq]
    rw [hlow] at hstart ⊢
    rw [hhigh] at hend ⊢
    exact mean?_at hstart hend h
  · have hhigh : course.start = i.high := by rw [heq]
    have hlow : course.stop = i.low := by rw [heq]
    rw [hhigh] at hstart ⊢
    rw [hlow] at hend ⊢
    rw [Bool.and_comm, middleUnits_comm, Nat.add_comm r.start.units]
    exact mean?_at hend hstart h

/-- Without a stop there is no midpoint. -/
theorem not_middleFits_of_endless (hcourse : i.course? = some course) (hview : StretchOf i course r)
    (hstop : r.stop? = none) : ¬ i.MiddleFits := by
  rintro ⟨d, hd, hholds⟩
  have hinfinite := hview.endless hstop
  have hmixed : (course.start.isInteger && course.stop.isInteger) = false := by
    rw [hinfinite]
    exact Bool.and_false _
  have hd : d = .infinite course.descending := by
    obtain ⟨-, heq⟩ | ⟨-, heq⟩ := course_cases hcourse
    · have hlow : course.start = i.low := by rw [heq]
      have hhigh : course.stop = i.high := by rw [heq]
      rw [← hlow, ← hhigh, mean?_mixed hmixed] at hd
      obtain ⟨c, hc, hd⟩ := ok_of_bind hd
      obtain ⟨negative, m, rfl, -⟩ := toDouble?_at hview.start.units hc
      rw [hinfinite] at hd
      cases hd
      rfl
    · have hhigh : course.start = i.high := by rw [heq]
      have hlow : course.stop = i.low := by rw [heq]
      rw [← hlow, ← hhigh, mean?_mixed (Bool.and_comm _ _ ▸ hmixed), hinfinite] at hd
      obtain ⟨c, hc, hd⟩ := ok_of_bind hd
      obtain ⟨e, he, hd⟩ := ok_of_bind hd
      obtain ⟨negative, m, rfl, -⟩ := toDouble?_at hview.start.units he
      cases hc
      cases hd
      rfl
  obtain ⟨place, hplace⟩ := exists_point_of_holds hholds
  rw [hd] at hplace
  cases hdirection : course.descending <;> rw [hdirection] at hplace <;> cases hplace

end Candidates

/-! ## Searches that find nothing -/

/-- None of the candidates that a search has tried becomes a quantity inside. -/
theorem outside_of_firstInside? {i : Interval} {candidates : List Number}
    (h : i.firstInside? candidates = .ok none) :
    ∀ a ∈ candidates, ∀ q, quantity? i.width? a = .ok (some q) → i.holds q.value = false := by
  induction candidates with
  | nil => simp
  | cons a rest ih =>
    rw [firstInside?] at h
    obtain ⟨found?, hfound, h⟩ := ok_of_bind h
    rw [List.forall_mem_cons]
    cases found? with
    | none =>
      refine ⟨fun q hq => ?_, ih h⟩
      rw [hfound] at hq
      cases hq
    | some found =>
      cases hholds : i.holds found.value with
      | true =>
        simp only [hholds, if_true] at h
        cases h
      | false =>
        simp only [hholds, Bool.false_eq_true, if_false] at h
        refine ⟨fun q hq => ?_, ih h⟩
        rw [hfound] at hq
        cases hq
        exact hholds

/-- A search that finds nothing is exhausted. -/
theorem exhausted_of_choose? {i : Interval} {course : Course} {r : Stretch}
    (hcourse : i.course? = some course) (hview : StretchOf i course r)
    (h : i.choose? = .ok none) :
    r.Exhausted (course.limit (i.width?.getD .double)) (course.settle i.width?) i.MiddleFits := by
  unfold choose? at h
  obtain ⟨candidates, hcandidates, h⟩ := ok_of_bind h
  obtain ⟨stepped, middle, hstepped, hmiddle, rfl⟩ := exists_candidates hcourse hcandidates
  have hlimit := limit_lt course (i.width?.getD .double)
  -- A candidate comes to lie outside, if there is room for it.
  have hout : ∀ {a x}, a ∈ course.before stepped middle ++ course.last → course.At a x →
      x ≤ course.limit (i.width?.getD .double) → ¬ r.Has (course.settle i.width? x) := by
    intro a x ha hat hroom hhas
    obtain ⟨q, hq, hqat⟩ := exists_settled i.width? hat hroom
    have houtside := outside_of_firstInside? h a ha q hq
    rw [(hview.holds_iff hqat).mpr hhas] at houtside
    cases houtside
  have hbefore : ∀ {a x}, course.At a x →
      (course.startIncluded = true ∧ a = course.start ∨ a ∈ stepped ∨ a = .double middle) →
      a ∈ course.before stepped middle ++ course.last := fun hat ha =>
    List.mem_append_left _ (Course.mem_before.mpr ⟨ha, isFinite_of_at hat⟩)
  constructor
  case start =>
    intro hincluded
    rw [← hview.start.included] at hincluded
    exact hout (hbefore hview.start.units (.inl ⟨hincluded, rfl⟩)) hview.start.units
  case step =>
    intro k hk hroom
    obtain ⟨a, ha, hat⟩ := stepped_at hview hstepped hk (Nat.lt_of_le_of_lt hroom hlimit)
    exact hout (hbefore hat (.inr (.inl ha))) hat hroom
  case half =>
    intro hdouble hroom
    obtain ⟨a, ha, hat⟩ := half_at hview hstepped hdouble (Nat.lt_of_le_of_lt hroom hlimit)
    exact hout (hbefore hat (.inr (.inl ha))) hat hroom
  case middle =>
    rintro stop hstop ⟨d, hd, hholds⟩
    obtain rfl : middle = d := by
      rw [hmiddle] at hd
      exact Except.ok.inj hd
    rcases mean?_ends_at hcourse hview hstop hmiddle with hat | ⟨⟨negative, rfl⟩, -⟩
    · exact hout (hbefore hat (.inr (.inr rfl))) hat ((holds_iff hat).mp hholds)
    · obtain ⟨place, hplace⟩ := exists_point_of_holds hholds
      cases negative <;> cases hplace
  case endless => exact not_middleFits_of_endless hcourse hview
  case far =>
    intro stop hstop hfits
    rcases mean?_ends_at hcourse hview hstop hmiddle with hat | ⟨-, hlarge⟩
    · have hpast : ¬ r.middle stop ≤ course.limit (i.width?.getD .double) := fun hroom =>
        hfits ⟨middle, hmiddle, (holds_iff hat).mpr hroom⟩
      have herror := (middle_error (r.start.integer && stop.integer) r.start.units stop.units).1
      unfold Stretch.middle at hpast
      omega
    · omega
  case stop =>
    intro stop hstop hincluded hroom
    have hend := hview.stop stop hstop
    rw [← hend.included] at hincluded
    refine hout (List.mem_append_right _ (Course.mem_last.mpr ?_)) hend.units hroom
    exact ⟨hincluded, rfl, isFinite_of_at hend.units⟩

theorem settle_zero (course : Course) (width? : Option Width) : course.settle width? 0 = 0 := by
  have hdouble : doubleUnits 0 = 0 := significant_zero 53 1
  have hsingle : singleUnits 0 = 0 := by decide +kernel
  unfold Course.settle
  split
  · rw [hdouble, hsingle]
  · exact hdouble
  · rw [Nat.zero_div, Nat.zero_mul]
  · split
    · rfl
    · exact hdouble

/-- One of two places comes first. -/
theorem le_of_not_le {x y : Point} (h : ¬ x.le y = true) : y.le x = true ∧ y ≠ x := by
  have hlt : y.lt x = true := by simpa [Point.le] using h
  exact (Point.lt_iff y x).mp hlt

/-- An interval across zero is not searched in vain. -/
theorem exists_course {i : Interval} {value : Number} (hholds : i.holds value = true)
    (h : i.choose? = .ok none) : ∃ course, i.course? = some course := by
  by_contra hnone
  rw [← Option.isSome_iff_exists, Bool.not_eq_true, Option.isSome_eq_false_iff,
    Option.isNone_iff_eq_none] at hnone
  obtain ⟨hlow, hhigh⟩ := (Bool.and_eq_true _ _).mp hholds
  obtain ⟨x, -, hx, -⟩ := end_iff.mp hlow
  obtain ⟨-, z, -, hz, -⟩ := end_iff.mp hhigh
  unfold choose? candidates? at h
  rw [hnone] at h
  have hzero := at_zero ⟨zero, zero, true, true, false⟩
  obtain ⟨q, hq, hat⟩ := exists_settled i.width? hzero (Nat.zero_le _)
  rw [settle_zero] at hat
  have hpoint : zero.point? = some (.at 0) := hzero
  have hvalue : q.value.point? = some (.at 0) := hat
  refine Bool.false_ne_true ((outside_of_firstInside? h zero (by simp) q hq).symm.trans ?_)
  unfold course? Number.le at hnone
  rw [hpoint, hx, hz] at hnone
  dsimp only at hnone
  split at hnone
  · cases hnone
  · next hbehind =>
    split at hnone
    · cases hnone
    · next hbefore =>
      obtain ⟨hle, hne⟩ := le_of_not_le hbehind
      obtain ⟨hle', hne'⟩ := le_of_not_le hbefore
      exact (Bool.and_eq_true _ _).mpr ⟨end_iff.mpr ⟨x, _, hx, hvalue, hle, fun _ => hne⟩,
        end_iff.mpr ⟨_, z, hvalue, hz, hle', fun _ => hne'⟩⟩

end Interval

end TreePredicate
