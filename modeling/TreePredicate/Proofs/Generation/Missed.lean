import TreePredicate.Proofs.Generation.Exhausted
import TreePredicate.Proofs.Interval.Held

/-!
# Numbers that a search misses

The candidates of a search are few, and a number may be inside where none of them is. This happens
next to a limit of a width, far from zero, where steps are too short for doubles or for single
precision numbers, and between ends that single precision or rounded arithmetic keeps out.

* `Interval.MayMiss` : the intervals in which a search may miss a number, by the reason for it;
* `far_iff`, `stopFits_iff`, `distance_of_hasDouble` : what these say of distances;
* `mayMiss_narrow`, `mayMiss_long`, `mayMiss_double`, `mayMiss_none`, `mayMiss_float` : if a search
  finds nothing, though there is something, then its interval is one of these, for each width;
* `mayMiss_of_choose?` : the same of the interval of a test.
-/

set_option autoImplicit false

namespace TreePredicate

-- Unfolded, these are powers that no step may write out.
attribute [local irreducible] unitsPerOne unitsBound greatestInteger lastPlace integerLimit
  leastSingle Width.greatestUnits

open Rounding Double

namespace Interval

/-! ## Where numbers are missed -/

/-- The stop is included, and it is a number that the declared width has room for. -/
def StopFits (i : Interval) (course : Course) : Prop :=
  course.stopIncluded = true ∧ (i.width?.getD .double).holds course.stop = true

/-- The start is at least so large a power of two away from zero. -/
def Course.Far (course : Course) (k : Nat) : Prop :=
  (Number.int (2 ^ k : Nat)).le course.start.abs = true

/-- A double is inside, and the declared width has room for it. -/
def HasDouble (i : Interval) (d : Double) : Prop :=
  (i.width?.getD .double).holds (.double d) = true ∧ i.holds (.double d) = true

/-- The intervals in which a search may miss a number, all of them on one side of zero. -/
inductive MayMiss (i : Interval) (course : Course) : Prop where
  /-- A narrow integral width, a start with a fraction, and only a limit of the width inside. -/
  | edge (width : Width) (hwidth : i.width? = some width)
      (hnarrow : width = .byte ∨ width = .short ∨ width = .int)
      (hstart : whole? course.start = none) (hstop : ¬ i.StopFits course) (limit : Number)
      (hlimit : limit = width.limits.1 ∨ limit = width.limits.2)
      (hlone : ∀ n, width.holds (.int n) = true → i.holds (.int n) = true →
        (Number.int n).same limit = true)
  /-- An excluded double so far from zero that doubles are more than one apart, and only integers
  inside. -/
  | between (hwidth : i.width? = none ∨ i.width? = some .long)
      (hstart : ∃ d, course.start = .double d) (hopen : course.startIncluded = false)
      (hfar : course.Far 53) (hnone : ∀ d, ¬ i.HasDouble d)
  /-- A start so far from zero that no step leaves it, and no room for the midpoint nor a stop that
  is a candidate as it is. -/
  | stride (hwidth : i.width? = none ∨ i.width? = some .double ∨
        i.width? = some .long ∧ ∃ d, course.start = .double d)
      (hstart : course.startIncluded = true → ∃ n, course.start = .int n) (hfar : course.Far 57)
      (hmiddle : ¬ i.MiddleFits)
      (hstop : i.StopFits course → i.width? ≠ some .long ∧ ∃ n, course.stop = .int n)
  /-- An excluded double so far from zero that no step leaves it, and an integer as the stop that
  rounded arithmetic takes for the only double inside. -/
  | tie (hwidth : i.width? = none ∨ i.width? = some .double ∨ i.width? = some .long)
      (hstart : ∃ d, course.start = .double d) (hopen : course.startIncluded = false)
      (hfar : course.Far 57) (hinteger : ∃ n, course.stop = .int n) (hstop : ¬ i.StopFits course)
      (hlone : ∀ c d, i.HasDouble c → i.HasDouble d →
        (Number.double c).same (.double d) = true)
  /-- Single precision, an excluded start and a stop that is no candidate: the start is so far from
  zero that no step leaves it, and there is no room for the midpoint, or there is only one number
  inside. -/
  | single (hwidth : i.width? = some .float) (hopen : course.startIncluded = false)
      (hstop : ¬ i.StopFits course)
      (hmissed : course.Far 28 ∧ ¬ i.MiddleFits ∨ ∀ p q : Quantity, p.width = .float →
        q.width = .float → i.holds p.value = true → i.holds q.value = true → p.same q = true)

/-! ## Distances -/

section View

variable {i : Interval} {course : Course} {r : Stretch} {a b : Number} {x y : Nat}

theorem same_of_at (ha : course.At a x) (hb : course.At b x) : a.same b = true := by
  unfold Course.At at ha hb
  unfold Number.same
  rw [ha, hb]
  exact beq_self_eq_true _

theorem int_of_isInteger (h : a.isInteger = true) : ∃ n, a = .int n := by
  cases a with
  | int n => exact ⟨n, rfl⟩
  | double d => cases h

theorem double_of_isInteger (h : a.isInteger = false) : ∃ d, a = .double d := by
  cases a with
  | int n => cases h
  | double d => exact ⟨d, rfl⟩

/-- What is inside lies at a distance, in the direction of the search. -/
theorem at_of_holds (hcourse : i.course? = some course) {place : Int}
    (hplace : a.point? = some (.at place)) (hholds : i.holds a = true) : ∃ x, course.At a x := by
  obtain ⟨-, x, -, hat, -⟩ := exists_stretch hcourse hplace hholds
  exact ⟨x, hat⟩

theorem far_iff (hview : StretchOf i course r) {k : Nat} :
    course.Far k ↔ 2 ^ k * unitsPerOne ≤ r.start.units := by
  have hstart := hview.start.units
  have hdistance : course.start.abs.point? = some (.at r.start.units) := by
    rw [Number.point?_abs, hstart, Option.map_some, Point.abs, Course.along_natAbs]
  rw [Course.Far, Number.le_of_points rfl hdistance, decide_eq_true_eq, ← Int.natCast_mul,
    Int.ofNat_le]

theorem stopFits_iff (hview : StretchOf i course r) :
    i.StopFits course ↔ ∃ stop, r.stop? = some stop ∧ stop.included = true ∧
      stop.units ≤ course.limit (i.width?.getD .double) := by
  unfold StopFits
  cases hstop : r.stop? with
  | none =>
    refine iff_of_false ?_ (by simp)
    rintro ⟨-, hholds⟩
    obtain ⟨place, hplace⟩ := exists_point_of_holds hholds
    rw [hview.endless hstop] at hplace
    cases hd : course.descending <;> rw [hd] at hplace <;> cases hplace
  | some stop =>
    have hend := hview.stop stop hstop
    simp only [Option.some.injEq, exists_eq_left']
    rw [hend.included, holds_iff hend.units]

/-- A stop that there is no room for does not fit. -/
theorem not_stopFits (hview : StretchOf i course r)
    (h : ∀ stop, r.stop? = some stop → stop.included = true →
      course.limit (i.width?.getD .double) < stop.units) : ¬ i.StopFits course := by
  intro hfits
  obtain ⟨stop, hstop, hincluded, hroom⟩ := (stopFits_iff hview).mp hfits
  exact Nat.not_le_of_lt (h stop hstop hincluded) hroom

/-- A double inside lies at the distance of a double inside. -/
theorem distance_of_hasDouble (hcourse : i.course? = some course) (hview : StretchOf i course r)
    {d : Double} (h : i.HasDouble d) :
    ∃ x, course.At (.double d) x ∧ r.Has x ∧ Exact 53 x ∧
      x ≤ course.limit (i.width?.getD .double) := by
  obtain ⟨place, hplace⟩ := exists_point_of_holds h.1
  obtain ⟨x, hat⟩ := at_of_holds hcourse hplace h.2
  exact ⟨x, hat, (hview.holds_iff hat).mp h.2, exact_of_at hat, (holds_iff hat).mp h.1⟩

end View

/-! ## Searches that find nothing -/

section Missed

variable {i : Interval} {course : Course} {r : Stretch} {y : Nat}
  (hcourse : i.course? = some course) (hview : StretchOf i course r)
include hcourse hview

omit hcourse in
/-- A start that no step leaves, and no midpoint. -/
theorem mayMiss_stride
    (hwidth : i.width? = none ∨ i.width? = some .double ∨
      i.width? = some .long ∧ r.start.integer = false)
    (hnear : r.Near (course.settle i.width?))
    (hlong : i.width? = some .long → ∀ x, unitsPerOne ∣ x → course.settle i.width? x = x)
    (hy : r.Has y) (hfar : course.Far 57)
    (hincluded : r.start.included = true → r.start.integer = true) (hmiddle : ¬ i.MiddleFits)
    (hstop : ∀ stop, r.stop? = some stop → stop.included = true →
      stop.units ≤ course.limit (i.width?.getD .double) →
        course.settle i.width? stop.units ≠ stop.units) :
    i.MayMiss course := by
  have hstart := hview.start.integer
  refine .stride ?_ (fun h => ?_) hfar hmiddle fun hfits => ?_
  · refine hwidth.imp_right (Or.imp_right fun ⟨heq, hdouble⟩ => ⟨heq, ?_⟩)
    exact double_of_isInteger (hstart.trans hdouble)
  · rw [hview.start.included] at h
    exact int_of_isInteger (hstart.trans (hincluded h))
  · -- A stop that is moved is an integer.
    obtain ⟨stop, heq, hstopIncluded, hroom⟩ := (stopFits_iff hview).mp hfits
    have hmoved := hstop stop heq hstopIncluded hroom
    have hbehind : r.start.units ≤ stop.units := Nat.le_trans hy.1.1 (hy.2 stop heq).1
    have hinteger : stop.integer = true := by
      by_contra hdouble
      have hexact := stop.exact (Bool.eq_false_iff.mpr hdouble)
      exact hmoved (Stretch.Exhausted.settle_eq hnear hexact hbehind)
    refine ⟨fun hwide => hmoved (hlong hwide _ (stop.whole hinteger)), ?_⟩
    exact int_of_isInteger ((hview.stop stop heq).integer.trans hinteger)

/-- A stop that is rounded to the only double inside. -/
theorem mayMiss_tie (hwidth : i.width? = none ∨ i.width? = some .double ∨ i.width? = some .long)
    (hfar : course.Far 57) (hincluded : r.start.included = true → r.start.integer = true)
    (hdouble : r.start.integer = false) {stop : End} (hstop : r.stop? = some stop)
    (hinteger : stop.integer = true)
    (hheld : stop.included = true → course.limit (i.width?.getD .double) < stop.units)
    (hlone : ∀ x, r.Has x → Exact 53 x → x ≤ course.limit (i.width?.getD .double) → x = y) :
    i.MayMiss course := by
  refine .tie hwidth (double_of_isInteger (hview.start.integer.trans hdouble)) ?_ hfar
    (int_of_isInteger ((hview.stop stop hstop).integer.trans hinteger)) ?_ fun c d hc hd => ?_
  · rw [hview.start.included, Bool.eq_false_iff]
    intro h
    rw [hincluded h] at hdouble
    cases hdouble
  · refine not_stopFits hview fun other hother => ?_
    rw [hstop, Option.some.injEq] at hother
    exact hother ▸ hheld
  · obtain ⟨x, hx, hhas, hmem, hroom⟩ := distance_of_hasDouble hcourse hview hc
    obtain ⟨x', hx', hhas', hmem', hroom'⟩ := distance_of_hasDouble hcourse hview hd
    rw [hlone x hhas hmem hroom] at hx
    rw [hlone x' hhas' hmem' hroom'] at hx'
    exact same_of_at hx hx'

/-- A search that is exhausted, though a double is inside. -/
theorem mayMiss_of_doubles
    (hwidth : i.width? = none ∨ i.width? = some .double ∨
      i.width? = some .long ∧ r.start.integer = false)
    (h : r.Exhausted (course.limit (i.width?.getD .double)) (course.settle i.width?) i.MiddleFits)
    (hnear : r.Near (course.settle i.width?))
    (hlong : i.width? = some .long → ∀ x, unitsPerOne ∣ x → course.settle i.width? x = x)
    (hy : r.Has y) (hexact : Exact 53 y) (hle : y ≤ course.limit (i.width?.getD .double)) :
    i.MayMiss course := by
  have hlimit : 2 ^ 62 * unitsPerOne ≤ course.limit (i.width?.getD .double) := by
    refine wide_limit course ?_
    rcases hwidth with heq | heq | ⟨heq, -⟩ <;> rw [heq]
    · exact .inr (.inr rfl)
    · exact .inr (.inr rfl)
    · exact .inl rfl
  obtain ⟨hfar, hincluded, hmissed⟩ := h.doubles hnear hlimit hy hexact hle
  rw [← far_iff hview] at hfar
  rcases hmissed with ⟨hmiddle, hstop⟩ | ⟨hdouble, stop, hstop, hinteger, hheld, hlone⟩
  · exact mayMiss_stride hview hwidth hnear hlong hy hfar hincluded hmiddle hstop
  · exact mayMiss_tie hcourse hview (hwidth.imp_right (Or.imp_right And.left)) hfar hincluded hdouble
      hstop hinteger hheld hlone

/-- A search in a narrow integral width. -/
theorem mayMiss_narrow {width : Width} (hwidth : i.width? = some width)
    (hnarrow : width = .byte ∨ width = .short ∨ width = .int)
    (h : r.Exhausted (course.limit width) (course.settle (some width)) i.MiddleFits)
    (hy : r.Has y) (hwhole : unitsPerOne ∣ y) (hle : y ≤ course.limit width) :
    i.MayMiss course := by
  obtain ⟨hdvd, hsmall⟩ := narrow_limit course hnarrow
  have hsettle : ∀ x, course.settle (some width) x = x / unitsPerOne * unitsPerOne := by
    rcases hnarrow with rfl | rfl | rfl <;> exact fun x => rfl
  by_cases hstart : unitsPerOne ∣ r.start.units
  · -- A whole start is followed by the integer that is inside.
    obtain ⟨-, hlarge⟩ := h.not_whole (fun x hx _ => by rw [hsettle, Nat.div_mul_cancel hx])
      (Nat.le_refl _) hy hle hstart hwhole
    have := hy.1.1
    omega
  · obtain ⟨-, hlone, hstop⟩ := h.fraction hsettle hdvd hy hwhole hle hstart
    obtain ⟨limit, hlimit, hat⟩ := limit_at course width
    rw [show width = i.width?.getD .double by rw [hwidth, Option.getD_some]] at hstop
    refine .edge width hwidth hnarrow ?_ (not_stopFits hview hstop) limit hlimit
      fun n hroom hholds => ?_
    · by_contra hnone
      obtain ⟨n, hn⟩ := Option.ne_none_iff_exists'.mp hnone
      exact hstart (dvd_of_at (at_of_whole hview.start.units hn))
    · obtain ⟨x, hx⟩ := at_of_holds hcourse rfl hholds
      rw [hlone x ((hview.holds_iff hx).mp hholds) (dvd_of_at hx) ((holds_iff hx).mp hroom)] at hx
      exact same_of_at hx hat

/-- No double is inside if none is at a distance inside. -/
theorem mayMiss_between (hwidth : i.width? = none ∨ i.width? = some .long)
    (hdouble : r.start.integer = false) (hexcluded : r.start.included = false)
    (hfar : 2 ^ 53 * unitsPerOne ≤ r.start.units)
    (hnone : ¬ ∃ x, r.Has x ∧ Exact 53 x ∧ x ≤ course.limit (i.width?.getD .double)) :
    i.MayMiss course := by
  refine .between hwidth (double_of_isInteger (hview.start.integer.trans hdouble))
    (hview.start.included.trans hexcluded) ((far_iff hview).mpr hfar) fun d hd => hnone ?_
  obtain ⟨x, -, hx⟩ := distance_of_hasDouble hcourse hview hd
  exact ⟨x, hx⟩

/-- A search for a long. -/
theorem mayMiss_long (hwidth : i.width? = some .long)
    (h : r.Exhausted (course.limit .long) (course.settle (some .long)) i.MiddleFits)
    (hy : r.Has y) (hwhole : unitsPerOne ∣ y) (hle : y ≤ course.limit .long) :
    i.MayMiss course := by
  have pos := unitsPerOne_pos
  have hlimit : 2 ^ 62 * unitsPerOne ≤ course.limit .long := wide_limit course (.inl rfl)
  have hsettle : ∀ x, course.settle (some .long) x = x / unitsPerOne * unitsPerOne := fun x => rfl
  have hkept : ∀ x, unitsPerOne ∣ x → course.settle (some .long) x = x := fun x hx => by
    rw [hsettle, Nat.div_mul_cancel hx]
  have hdvd : unitsPerOne ∣ course.limit .long := by
    rw [limit_integral rfl]
    exact Nat.dvd_mul_left _ _
  by_cases hstart : unitsPerOne ∣ r.start.units
  · obtain ⟨hdouble, hlarge⟩ :=
      h.not_whole (fun x hx _ => hkept x hx) (Nat.le_refl _) hy hle hstart hwhole
    by_cases hsome : ∃ x, r.Has x ∧ Exact 53 x ∧ x ≤ course.limit (i.width?.getD .double)
    · obtain ⟨x, hx, hmem, hroom⟩ := hsome
      refine mayMiss_of_doubles hcourse hview (.inr (.inr ⟨hwidth, hdouble⟩)) (hwidth ▸ h) ?_ ?_ hx
        hmem hroom
      · -- Doubles from the start on are whole.
        intro z hz hkind
        rw [hwidth]
        refine .inl (hkept z (hkind.elim id fun hmem => ?_))
        have := dvd_of_exact (k := 0) hmem (Nat.le_trans (by omega) hz)
        rwa [Nat.pow_zero, Nat.one_mul] at this
      · rw [hwidth]
        exact fun _ => hkept
    · exact mayMiss_between hcourse hview (.inr hwidth) hdouble
        (h.excluded (fun x hx _ => hkept x hx) (Nat.le_refl _) hy hle hstart) hlarge hsome
  · obtain ⟨hsmall, -⟩ := h.fraction hsettle hdvd hy hwhole hle hstart
    omega

/-- A search for a double. -/
theorem mayMiss_double (hwidth : i.width? = some .double)
    (h : r.Exhausted (course.limit .double) (course.settle (some .double)) i.MiddleFits)
    (hy : r.Has y) (hexact : Exact 53 y) (hle : y ≤ course.limit .double) : i.MayMiss course := by
  refine mayMiss_of_doubles hcourse hview (.inr (.inl hwidth)) (hwidth ▸ h) ?_ ?_ hy hexact
    (hwidth ▸ hle)
  · rw [hwidth]
    exact fun x _ _ => .inr rfl
  · rw [hwidth]
    intro hlong
    cases hlong

/-- A search for a number of any width. -/
theorem mayMiss_none (hwidth : i.width? = none)
    (h : r.Exhausted (course.limit .double) (course.settle none) i.MiddleFits)
    (hy : r.Has y) (hkind : Exact 53 y ∨ unitsPerOne ∣ y ∧ y ≤ course.limit .long)
    (hle : y ≤ course.limit .double) : i.MayMiss course := by
  have pos := unitsPerOne_pos
  by_cases hsome : ∃ x, r.Has x ∧ Exact 53 x ∧ x ≤ course.limit (i.width?.getD .double)
  · obtain ⟨x, hx, hmem, hroom⟩ := hsome
    refine mayMiss_of_doubles hcourse hview (.inl hwidth) (hwidth ▸ h) ?_ ?_ hx hmem hroom
    · rw [hwidth]
      intro z _ _
      by_cases hkept : unitsPerOne ∣ z ∧ z ≤ course.limit .long
      · exact .inl (if_pos hkept)
      · exact .inr (if_neg hkept)
    · rw [hwidth]
      intro hlong
      cases hlong
  · have hinexact : ∀ x, r.Has x → x ≤ course.limit .double → ¬ Exact 53 x :=
      fun x hx hroom hmem => hsome ⟨x, hx, hmem, hwidth ▸ hroom⟩
    obtain ⟨hwhole, hroom⟩ := hkind.resolve_left (hinexact y hy hle)
    by_cases hstart : unitsPerOne ∣ r.start.units
    · have hkept : ∀ x, unitsPerOne ∣ x → x ≤ course.limit .long → course.settle none x = x :=
        fun x hx hxle => if_pos ⟨hx, hxle⟩
      have hlimit := limit_le course .long
      obtain ⟨hdouble, hlarge⟩ := h.not_whole hkept hlimit hy hroom hstart hwhole
      exact mayMiss_between hcourse hview (.inl hwidth) hdouble
        (h.excluded hkept hlimit hy hroom hstart) hlarge hsome
    · -- The integer behind a start with a fraction is a double.
      obtain ⟨q, hq, -, hhigh, hfirst⟩ := Stretch.next_integer hstart
      have hbefore := hfirst y hy hwhole
      exact absurd (exact_integer (by omega)) (hinexact _ (hy.of_between hhigh hbefore) (by omega))

section Single

variable (hlow : Width.float.holds i.low = true → i.low.le (Width.float.convert i.low) = true)
  (hhigh : Width.float.holds i.high = true → (Width.float.convert i.high).le i.high = true)
include hlow hhigh

/-- Single precision does not move the start out of the interval. -/
theorem start_le_single (hroom : r.start.units ≤ course.limit .float) :
    r.start.units ≤ course.settle (some .float) r.start.units := by
  have hat := hview.start.units
  have hholds := (holds_iff hat).mpr hroom
  refine le_of_precedes hat (convert_at hat hroom) ?_
  unfold Course.Precedes
  obtain ⟨-, rfl⟩ | ⟨-, rfl⟩ := course_cases hcourse
  · exact hlow hholds
  · exact hhigh hholds

/-- Nor the stop. -/
theorem single_le_stop {stop : End} (hstop : r.stop? = some stop)
    (hroom : stop.units ≤ course.limit .float) :
    course.settle (some .float) stop.units ≤ stop.units := by
  have hat := (hview.stop stop hstop).units
  have hholds := (holds_iff hat).mpr hroom
  refine le_of_precedes (convert_at hat hroom) hat ?_
  unfold Course.Precedes
  obtain ⟨-, rfl⟩ | ⟨-, rfl⟩ := course_cases hcourse
  · exact hhigh hholds
  · exact hlow hholds

/-- A search for a single precision number, between ends that single precision does not move out of
the interval. -/
theorem mayMiss_float (hwidth : i.width? = some .float)
    (h : r.Exhausted (course.limit .float) (course.settle (some .float)) i.MiddleFits)
    (hy : r.Has y) (hsingle : Single y) (hle : y ≤ course.limit .float) : i.MayMiss course := by
  have hexcluded := h.single_excluded (fun _ => rfl) hy hsingle hle
    (start_le_single hcourse hview hlow hhigh)
  obtain ⟨hheld, hmissed⟩ := h.singles (fun _ => rfl) hy hsingle hle hexcluded
    (fun _ => single_le_stop hcourse hview hlow hhigh) (wide_limit course (.inr (.inl rfl)))
  refine .single hwidth (hview.start.included.trans hexcluded) (not_stopFits hview ?_) ?_
  · rwa [hwidth, Option.getD_some]
  · rw [far_iff hview]
    refine hmissed.imp_right fun hlone p q hp hq hpholds hqholds => ?_
    have hdistance : ∀ p : Quantity, p.width = .float → i.holds p.value = true →
        course.At p.value y := by
      intro p hp hholds
      obtain ⟨place, hplace⟩ := p.exists_point
      obtain ⟨x, hat⟩ := at_of_holds hcourse hplace hholds
      obtain ⟨hkind, hroom⟩ := kind_of_at p hat
      rw [hp] at hkind hroom
      rwa [hlone x ((hview.holds_iff hat).mp hholds) hkind hroom] at hat
    exact same_of_at (hdistance p hp hpholds) (hdistance q hq hqholds)

end Single

end Missed

/-! ## Single precision bounds -/

section Held

variable {v : Number}

theorem min_le_singlePlace (p : Int) :
    min p (singlePlace p) ≤ singlePlace (min p (singlePlace p)) := by
  rcases Int.le_total p (singlePlace p) with h | h
  · rwa [min_eq_left h]
  · rw [min_eq_right h, singlePlace_singlePlace]

theorem singlePlace_le_max (p : Int) :
    singlePlace (max p (singlePlace p)) ≤ max p (singlePlace p) := by
  rcases Int.le_total p (singlePlace p) with h | h
  · rw [max_eq_right h, singlePlace_singlePlace]
  · rwa [max_eq_left h]

/-- If there is room for an end of a single precision interval, there is for its bound. -/
theorem holds_of_end (h : Width.float.holds (v.min (held v (some .float))) = true ∨
    Width.float.holds (v.max (held v (some .float))) = true) : Width.float.holds v = true := by
  rcases held_cases v with ⟨-, hholds⟩ | ⟨heq, -⟩
  · exact hholds
  · rwa [heq, Number.min, Number.max, ite_self, or_self] at h

/-- The lower end of a single precision interval is not above what single precision makes of it. -/
theorem min_held_le (h : Width.float.holds (v.min (held v (some .float))) = true) :
    (v.min (held v (some .float))).le
      (Width.float.convert (v.min (held v (some .float)))) = true := by
  have hroom := holds_of_end (.inl h)
  obtain ⟨p, hp⟩ := exists_point_of_holds hroom
  have hmin := Number.point?_min hp (point?_held hp (some .float))
  rw [heldPlace_of_room hp hroom] at hmin
  rw [Number.le_of_points hmin (point?_convert hmin h)]
  exact decide_eq_true (min_le_singlePlace p)

/-- The upper end of a single precision interval is not below what single precision makes of it. -/
theorem le_max_held (h : Width.float.holds (v.max (held v (some .float))) = true) :
    (Width.float.convert (v.max (held v (some .float)))).le
      (v.max (held v (some .float))) = true := by
  have hroom := holds_of_end (.inr h)
  obtain ⟨p, hp⟩ := exists_point_of_holds hroom
  have hmax := Number.point?_max hp (point?_held hp (some .float))
  rw [heldPlace_of_room hp hroom] at hmax
  rw [Number.le_of_points (point?_convert hmax h) hmax]
  exact decide_eq_true (singlePlace_le_max p)

/-- The ends of the interval of a test are bounds, as they are written or as a node holds them. -/
theorem ofTest_ends (test : NumberTest) :
    ∃ low high : Number, (ofTest test).low = low.min (held low (ofTest test).width?) ∧
      (ofTest test).high = high.max (held high (ofTest test).width?) := by
  unfold ofTest
  split <;> exact ⟨_, _, rfl, rfl⟩

end Held

/-- A search that finds nothing in the interval of a test, though a number of the declared width is
inside. -/
theorem mayMiss_of_choose? {test : NumberTest} (h : (ofTest test).choose? = .ok none) {q : Quantity}
    (hkind : ∀ width, (ofTest test).width? = some width → q.width = width)
    (hholds : (ofTest test).holds q.value = true) :
    ∃ course, (ofTest test).course? = some course ∧ (ofTest test).MayMiss course := by
  obtain ⟨course, hcourse⟩ := exists_course hholds h
  obtain ⟨place, hplace⟩ := q.exists_point
  obtain ⟨r, y, hview, hat, hy⟩ := exists_stretch hcourse hplace hholds
  have hexhausted := exhausted_of_choose? hcourse hview h
  obtain ⟨hykind, hle⟩ := kind_of_at q hat
  refine ⟨course, hcourse, ?_⟩
  cases hwidth : (ofTest test).width? with
  | none =>
    rw [hwidth] at hexhausted
    refine mayMiss_none hcourse hview hwidth hexhausted hy ?_ (Nat.le_trans hle (limit_le course _))
    rcases q.value_cases with ⟨n, hn, hlong⟩ | ⟨negative, m, hm⟩
    · rw [hn] at hat
      exact .inr ⟨dvd_of_at hat, (holds_iff hat).mp hlong⟩
    · rw [hm] at hat
      exact .inl (exact_of_at hat)
  | some width =>
    rw [hwidth] at hexhausted
    rw [hkind width hwidth] at hykind hle
    cases width with
    | byte => exact mayMiss_narrow hcourse hview hwidth (.inl rfl) hexhausted hy hykind hle
    | short => exact mayMiss_narrow hcourse hview hwidth (.inr (.inl rfl)) hexhausted hy hykind hle
    | int => exact mayMiss_narrow hcourse hview hwidth (.inr (.inr rfl)) hexhausted hy hykind hle
    | long => exact mayMiss_long hcourse hview hwidth hexhausted hy hykind hle
    | double => exact mayMiss_double hcourse hview hwidth hexhausted hy hykind hle
    | float =>
      obtain ⟨low, high, hlow, hhigh⟩ := ofTest_ends test
      rw [hwidth] at hlow hhigh
      refine mayMiss_float hcourse hview ?_ ?_ hwidth hexhausted hy hykind hle
      · rw [hlow]
        exact min_held_le
      · rw [hhigh]
        exact le_max_held

end Interval

end TreePredicate
