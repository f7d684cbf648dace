import TreePredicate.Proofs.Number.Step

/-!
# What a search misses

A search goes away from zero, from the start of an interval to its stop, and all that matters is the
distances of these from zero, in units. If none of the candidates comes to lie inside, then not much
else can be inside either.

* `Stretch`, `Stretch.Has` : an interval on one side of zero, and what is inside;
* `Exhausted` : a search in which no candidate comes to lie inside;
* `Exhausted.not_whole`, `Exhausted.fraction` : what it says of integers, from a whole start and from
  one with a fraction;
* `Exhausted.doubles` : what it says of doubles, by `between` and `tie`;
* `Exhausted.singles` : what it says of single precision numbers, by `single_unique` and `single_far`.
-/

set_option autoImplicit false

namespace TreePredicate

-- Unfolded, these are powers that no step may write out.
attribute [local irreducible] unitsPerOne unitsBound leastSingle

open Rounding Double

/-! ## Stretches -/

/-- An end of an interval, as far from zero as it has units; an integer or a double. -/
structure End where
  units : Nat
  integer : Bool
  included : Bool
  whole : integer = true → unitsPerOne ∣ units
  exact : integer = false → Exact 53 units

/-- An interval on one side of zero, from the end next to zero on. -/
structure Stretch where
  start : End
  stop? : Option End

namespace Stretch

/-- What lies at a distance from zero is inside. -/
def Has (r : Stretch) (x : Nat) : Prop :=
  (r.start.units ≤ x ∧ (r.start.included = false → r.start.units < x)) ∧
    ∀ stop, r.stop? = some stop → x ≤ stop.units ∧ (stop.included = false → x < stop.units)

/-- Where a step from the start leads: it is rounded unless the start is an integer. -/
def stepped (r : Stretch) (step : Nat) : Nat :=
  if r.start.integer then r.start.units + step else doubleUnits (r.start.units + step)

theorem stepped_integer {r : Stretch} (h : r.start.integer = true) (step : Nat) :
    r.stepped step = r.start.units + step :=
  if_pos h

theorem stepped_double {r : Stretch} (h : r.start.integer = false) (step : Nat) :
    r.stepped step = doubleUnits (r.start.units + step) :=
  if_neg (Bool.eq_false_iff.mp h)

/-- Where the midpoint with an end lies. -/
def middle (r : Stretch) (stop : End) : Nat :=
  middleUnits (r.start.integer && stop.integer) r.start.units stop.units

/-- No candidate that there is room for comes to lie inside. The midpoint there is no room for if
there is no stop or the stop is far away. -/
structure Exhausted (r : Stretch) (limit : Nat) (settle : Nat → Nat) (middleFits : Prop) : Prop where
  start : r.start.included = true → r.start.units ≤ limit → ¬ r.Has (settle r.start.units)
  step : ∀ k ∈ [1, 2, 5, 10], r.stepped (k * unitsPerOne) ≤ limit →
    ¬ r.Has (settle (r.stepped (k * unitsPerOne)))
  half : r.start.integer = false → r.stepped halfUnits ≤ limit → ¬ r.Has (settle (r.stepped halfUnits))
  middle : ∀ stop, r.stop? = some stop → middleFits → ¬ r.Has (settle (r.middle stop))
  endless : r.stop? = none → ¬ middleFits
  far : ∀ stop, r.stop? = some stop → ¬ middleFits → limit ≤ 4 * (r.start.units + stop.units) + 2 ^ 54
  stop : ∀ stop, r.stop? = some stop → stop.included = true → stop.units ≤ limit →
    ¬ r.Has (settle stop.units)

/-- From the start on, integers and doubles are left alone or come to lie at the nearest double. -/
def Near (r : Stretch) (settle : Nat → Nat) : Prop :=
  ∀ x, r.start.units ≤ x → unitsPerOne ∣ x ∨ Exact 53 x → settle x = x ∨ settle x = doubleUnits x

section Has

variable {r : Stretch} {x y : Nat} {stop : End}

theorem Has.of_le (hy : r.Has y) (hstart : r.start.units ≤ x)
    (hopen : r.start.included = false → r.start.units < x) (hle : x ≤ y) : r.Has x := by
  refine ⟨⟨hstart, hopen⟩, fun stop hstop => ?_⟩
  obtain ⟨hbefore, hstrict⟩ := hy.2 stop hstop
  exact ⟨Nat.le_trans hle hbefore, fun hexcluded => Nat.lt_of_le_of_lt hle (hstrict hexcluded)⟩

/-- From a start that is included on, all is inside up to what is inside. -/
theorem Has.of_included (hy : r.Has y) (hincluded : r.start.included = true)
    (hstart : r.start.units ≤ x) (hle : x ≤ y) : r.Has x := by
  refine hy.of_le hstart (fun hexcluded => ?_) hle
  rw [hincluded] at hexcluded
  cases hexcluded

theorem Has.of_between (hy : r.Has y) (hlt : r.start.units < x) (hle : x ≤ y) : r.Has x :=
  hy.of_le hlt.le (fun _ => hlt) hle

theorem has_of_lt (hlt : r.start.units < x) (hbefore : ∀ stop, r.stop? = some stop → x < stop.units) :
    r.Has x :=
  ⟨⟨hlt.le, fun _ => hlt⟩, fun stop hstop => ⟨(hbefore stop hstop).le, fun _ => hbefore stop hstop⟩⟩

theorem has_of_lt_stop (hstop : r.stop? = some stop) (hlt : r.start.units < x)
    (hbefore : x < stop.units) : r.Has x := by
  refine has_of_lt hlt fun other hother => ?_
  rw [hstop, Option.some.injEq] at hother
  exact hother ▸ hbefore

theorem has_stop (hstop : r.stop? = some stop) (hincluded : stop.included = true)
    (hlt : r.start.units < stop.units) : r.Has stop.units := by
  refine ⟨⟨hlt.le, fun _ => hlt⟩, fun other hother => ?_⟩
  rw [hstop, Option.some.injEq] at hother
  subst hother
  refine ⟨Nat.le_refl _, fun hexcluded => ?_⟩
  rw [hincluded] at hexcluded
  cases hexcluded

theorem double_of_not_dvd (hnot : ¬ unitsPerOne ∣ r.start.units) : r.start.integer = false :=
  Bool.eq_false_iff.mpr fun hinteger => hnot (r.start.whole hinteger)

/-- The integer behind a start with a fraction is the first of all that may be inside. -/
theorem next_integer (hnot : ¬ unitsPerOne ∣ r.start.units) :
    ∃ q, q < 2 ^ 52 ∧ q * unitsPerOne < r.start.units ∧ r.start.units < (q + 1) * unitsPerOne ∧
      ∀ x, r.Has x → unitsPerOne ∣ x → (q + 1) * unitsPerOne ≤ x := by
  have hsmall := lt_of_not_dvd (r.start.exact (double_of_not_dvd hnot)) hnot
  obtain ⟨q, hlow, hhigh⟩ := exists_integer_behind r.start.units
  have hlow : q * unitsPerOne < r.start.units :=
    Nat.lt_of_le_of_ne hlow fun heq => hnot ⟨q, by rw [← heq, Nat.mul_comm]⟩
  refine ⟨q, ?_, hlow, hhigh, ?_⟩
  · exact Nat.lt_of_mul_lt_mul_right (a := unitsPerOne) (by omega)
  · rintro x hx ⟨m, rfl⟩
    have hbehind := hx.1.1
    rw [Nat.mul_comm unitsPerOne] at hbehind ⊢
    refine Nat.mul_le_mul_right _ (Nat.succ_le_of_lt ?_)
    exact Nat.lt_of_mul_lt_mul_right (a := unitsPerOne) (by omega)

end Has

namespace Exhausted

variable {r : Stretch} {limit : Nat} {settle : Nat → Nat} {middleFits : Prop} {y : Nat}
  (h : r.Exhausted limit settle middleFits)
include h

/-! ## Integers -/

section Whole

variable {bound : Nat} (hsettle : ∀ x, unitsPerOne ∣ x → x ≤ bound → settle x = x)
  (hbound : bound ≤ limit) (hy : r.Has y) (hle : y ≤ bound)
include hsettle hbound hy hle

/-- A whole start is not included. -/
theorem excluded (hwhole : unitsPerOne ∣ r.start.units) : r.start.included = false := by
  have hstart := hy.1.1
  by_contra hincluded
  rw [Bool.not_eq_false] at hincluded
  refine h.start hincluded (by omega) ?_
  rw [hsettle _ hwhole (by omega)]
  exact hy.of_included hincluded (Nat.le_refl _) hstart

/-- No integer is inside from a whole start on, unless this is a large double. -/
theorem not_whole (hwhole : unitsPerOne ∣ r.start.units) (hywhole : unitsPerOne ∣ y) :
    r.start.integer = false ∧ 2 ^ 53 * unitsPerOne ≤ r.start.units := by
  have hlt := hy.1.2 (h.excluded hsettle hbound hy hle hwhole)
  obtain ⟨n, hn⟩ := hwhole
  obtain ⟨m, rfl⟩ := hywhole
  have hnext : r.start.units + unitsPerOne ≤ unitsPerOne * m := by
    rw [hn] at hlt ⊢
    have hmul := Nat.mul_le_mul_left unitsPerOne
      (Nat.succ_le_of_lt (Nat.lt_of_mul_lt_mul_left hlt))
    rwa [Nat.mul_succ] at hmul
  by_contra hnot
  have hstepped : r.stepped (1 * unitsPerOne) = r.start.units + unitsPerOne := by
    rw [Nat.one_mul]
    cases hinteger : r.start.integer with
    | true => exact stepped_integer hinteger _
    | false =>
      have hsmall : unitsPerOne * n < unitsPerOne * 2 ^ 53 := by
        rw [← hn, Nat.mul_comm]
        exact Nat.lt_of_not_le fun hlarge => hnot ⟨hinteger, hlarge⟩
      have hn53 : n < 2 ^ 53 := Nat.lt_of_mul_lt_mul_left hsmall
      have hexact := exact_integer (m := n + 1) (by omega)
      rw [Nat.add_mul, Nat.one_mul, Nat.mul_comm, ← hn] at hexact
      rw [stepped_double hinteger]
      exact (roundsTo_doubleUnits _).eq_self hexact
  refine h.step 1 (by simp) (by omega) ?_
  have pos := unitsPerOne_pos
  rw [hstepped, hsettle _ ⟨n + 1, by rw [hn, Nat.mul_succ]⟩ (by omega)]
  exact hy.of_between (by omega) hnext

end Whole

/-- From a start with a fraction, only the limit may be inside of all integers. -/
theorem fraction (hsettle : ∀ x, settle x = x / unitsPerOne * unitsPerOne)
    (hlimit : unitsPerOne ∣ limit) (hy : r.Has y) (hywhole : unitsPerOne ∣ y) (hle : y ≤ limit)
    (hnot : ¬ unitsPerOne ∣ r.start.units) :
    limit ≤ 2 ^ 52 * unitsPerOne ∧
      (∀ x, r.Has x → unitsPerOne ∣ x → x ≤ limit → x = limit) ∧
      ∀ stop, r.stop? = some stop → stop.included = true → limit < stop.units := by
  have pos := unitsPerOne_pos
  have hdouble := double_of_not_dvd hnot
  obtain ⟨q, hq, hlow, hhigh, hfirst⟩ := next_integer hnot
  have hfound : r.Has ((q + 1) * unitsPerOne) := hy.of_between hhigh (hfirst y hy hywhole)
  obtain ⟨step, hstep, hge, hlt⟩ := step_fraction hlow hhigh hq
  have htruncated : settle (r.stepped step) = (q + 1) * unitsPerOne := by
    rw [stepped_double hdouble, hsettle, Nat.div_eq_of_lt_le hge hlt]
  have hroom : limit < doubleUnits (r.start.units + step) := by
    rw [← stepped_double hdouble]
    by_contra hroom
    rw [Nat.not_lt] at hroom
    rcases hstep with rfl | rfl
    · exact h.half hdouble hroom (htruncated ▸ hfound)
    · exact h.step 1 (by simp) hroom (htruncated ▸ hfound)
  have heq : limit = (q + 1) * unitsPerOne := by
    obtain ⟨m, rfl⟩ := hlimit
    have hm : m < q + 2 := Nat.lt_of_mul_lt_mul_right (a := unitsPerOne) (by
      rw [Nat.mul_comm m]
      omega)
    have hm' := Nat.mul_le_mul_left unitsPerOne (Nat.le_of_lt_succ hm)
    have hy' := hfirst y hy hywhole
    rw [Nat.mul_comm unitsPerOne (q + 1)] at hm'
    omega
  refine ⟨?_, fun x hx hwhole hxle => ?_, fun stop hstop hincluded => ?_⟩
  · rw [heq]
    exact Nat.mul_le_mul_right _ hq
  · have := hfirst x hx hwhole
    omega
  · by_contra hnear
    have hbefore := (hfound.2 stop hstop).1
    have hstopped : stop.units = (q + 1) * unitsPerOne := by omega
    refine h.stop stop hstop hincluded (by omega) ?_
    rw [hstopped, hsettle, Nat.mul_div_cancel _ pos]
    exact hfound

/-! ## Doubles -/

section Doubles

variable (hsettle : r.Near settle) (hlimit : 2 ^ 62 * unitsPerOne ≤ limit)

omit h in
/-- A double from the start on is left alone. -/
theorem settle_eq (hsettle : r.Near settle) {x : Nat} (hx : Exact 53 x)
    (hstart : r.start.units ≤ x) : settle x = x :=
  (hsettle x hstart (.inr hx)).elim id fun h => h.trans ((roundsTo_doubleUnits x).eq_self hx)

omit h in
/-- A step from the start is rounded or not. -/
theorem settle_stepped (hsettle : r.Near settle) {step : Nat} (hwhole : unitsPerOne ∣ step)
    (hlt : r.start.units < doubleUnits (r.start.units + step)) :
    (settle (r.stepped step) = r.start.units + step ∨
        settle (r.stepped step) = doubleUnits (r.start.units + step)) ∧
      (r.stepped step = r.start.units + step ∨
        r.stepped step = doubleUnits (r.start.units + step)) := by
  cases hinteger : r.start.integer with
  | true =>
    rw [stepped_integer hinteger]
    have hdvd := Nat.dvd_add (r.start.whole hinteger) hwhole
    exact ⟨hsettle _ (Nat.le_add_right _ _) (.inl hdvd), .inl rfl⟩
  | false =>
    rw [stepped_double hinteger]
    exact ⟨.inr (settle_eq hsettle (roundsTo_doubleUnits _).mem hlt.le), .inr rfl⟩

include hsettle hlimit

/-- A step of ten finds what lies far before the stop. -/
theorem far_start (hfar : ∀ stop, r.stop? = some stop → 2 ^ 58 * unitsPerOne < stop.units) :
    2 ^ 57 * unitsPerOne ≤ r.start.units := by
  by_contra hsmall
  rw [Nat.not_le] at hsmall
  have pos := unitsPerOne_pos
  have hlt := lt_step_ten hsmall
  have hle := step_ten_le hsmall
  obtain ⟨hsettled, hstepped⟩ := settle_stepped hsettle (Nat.dvd_mul_left unitsPerOne 10) hlt
  refine h.step 10 (by simp) (by omega) (has_of_lt (by omega) fun stop hstop => ?_)
  have := hfar stop hstop
  omega

variable (hy : r.Has y) (hexact : Exact 53 y) (hle : y ≤ limit)
include hy hexact hle

omit hlimit in
/-- A start that is rounded is rounded towards zero. -/
theorem start_rounded : doubleUnits r.start.units ≤ r.start.units := by
  by_contra hlt
  rw [Nat.not_le] at hlt
  have hstart := hy.1.1
  have pos := unitsPerOne_pos
  have hinteger : r.start.integer = true := by
    by_contra hdouble
    rw [Bool.not_eq_true] at hdouble
    rw [(roundsTo_doubleUnits _).eq_self (r.start.exact hdouble)] at hlt
    exact Nat.lt_irrefl _ hlt
  obtain ⟨n, hn⟩ := r.start.whole hinteger
  rw [hn, Nat.mul_comm] at hlt
  obtain ⟨hnext, hsame⟩ := step_one_of_lt hlt
  rw [Nat.mul_comm, ← hn] at hnext hsame
  have hbefore := (roundsTo_doubleUnits r.start.units).le Nat.one_pos hexact (by omega)
  obtain ⟨hsettled, hstepped⟩ := settle_stepped hsettle (Nat.dvd_mul_left unitsPerOne 1)
    (by rw [Nat.one_mul]; omega)
  rw [Nat.one_mul] at hsettled hstepped
  refine h.step 1 (by simp) (by rw [Nat.one_mul]; omega) (hy.of_between ?_ ?_)
  · rw [Nat.one_mul]
    omega
  · rw [Nat.one_mul]
    omega

omit hlimit in
/-- A double that is inside lies behind the start, and a start that is included is an integer. -/
theorem start_lt :
    r.start.units < y ∧ (r.start.included = true → r.start.integer = true) := by
  have hstart := hy.1.1
  have hopen : Exact 53 r.start.units → r.start.included = false := by
    intro hmem
    by_contra hincluded
    rw [Bool.not_eq_false] at hincluded
    refine h.start hincluded (by omega) ?_
    rw [settle_eq hsettle hmem (Nat.le_refl _)]
    exact hy.of_included hincluded (Nat.le_refl _) hstart
  constructor
  · by_contra hnot
    have hsame : r.start.units = y := by omega
    exact hnot (hy.1.2 (hopen (hsame ▸ hexact)))
  · intro hincluded
    by_contra hdouble
    rw [Bool.not_eq_true] at hdouble
    rw [hopen (r.start.exact hdouble)] at hincluded
    cases hincluded

/-- If a double lies between the start and the stop, and still does once they are doubles, then the
midpoint does. -/
theorem between {stop : End} (hstop : r.stop? = some stop) (hlt : y < stop.units)
    (hrounded : (r.start.integer && stop.integer) = false → y < doubleUnits stop.units) :
    2 ^ 57 * unitsPerOne ≤ r.start.units ∧ ¬ middleFits ∧
      (stop.included = true → stop.units ≤ limit → settle stop.units ≠ stop.units) := by
  obtain ⟨hbehind, -⟩ := h.start_lt hsettle hy hexact hle
  have hstart := h.start_rounded hsettle hy hexact hle
  obtain ⟨hlow, hhigh⟩ : r.start.units < r.middle stop ∧ r.middle stop < stop.units :=
    middle_between hexact hbehind hlt fun hmixed => ⟨by omega, hrounded hmixed⟩
  have hmiddle : ¬ middleFits := by
    intro hfits
    refine h.middle stop hstop hfits ?_
    have hmem : Exact 53 (r.middle stop) := exact_middle _ _ _
    rw [settle_eq hsettle hmem hlow.le]
    exact has_of_lt_stop hstop hlow hhigh
  have hfar := h.far stop hstop hmiddle
  have pos := unitsPerOne_pos
  refine ⟨?_, hmiddle, fun hincluded hroom hsame => ?_⟩
  · by_contra hsmall
    refine hsmall (h.far_start hsettle hlimit fun other hother => ?_)
    rw [hstop, Option.some.injEq] at hother
    subst hother
    omega
  · exact h.stop stop hstop hincluded hroom
      (hsame.symm ▸ has_stop hstop hincluded (by omega))

omit hlimit in
/-- A double that is inside lies before the stop. -/
theorem lt_stop {stop : End} (hstop : r.stop? = some stop) : y < stop.units := by
  obtain ⟨hbefore, hopen⟩ := hy.2 stop hstop
  refine Nat.lt_of_le_of_ne hbefore fun hsame => ?_
  subst hsame
  refine h.stop stop hstop ?_ hle ((settle_eq hsettle hexact hy.1.1).symm ▸ hy)
  by_contra hexcluded
  exact Nat.lt_irrefl _ (hopen (Bool.eq_false_iff.mpr hexcluded))

omit hlimit in
/-- A stop that is rounded to a double inside is a large integer, which is no candidate, and the
start is far from zero. -/
theorem tie {stop : End} (hstop : r.stop? = some stop)
    (hmixed : (r.start.integer && stop.integer) = false) (hrounded : y = doubleUnits stop.units) :
    2 ^ 57 * unitsPerOne ≤ r.start.units ∧ r.start.integer = false ∧ stop.integer = true ∧
      (stop.included = true → limit < stop.units) := by
  have hround := roundsTo_doubleUnits stop.units
  have hbefore := h.lt_stop hsettle hy hexact hle hstop
  obtain ⟨hbehind, -⟩ := h.start_lt hsettle hy hexact hle
  have hinexact : ¬ Exact 53 stop.units := fun hmem => by
    rw [hround.eq_self hmem] at hrounded
    omega
  have hinteger : stop.integer = true := by
    by_contra hdouble
    exact hinexact (stop.exact (Bool.eq_false_iff.mpr hdouble))
  have hdouble : r.start.integer = false := by rwa [hinteger, Bool.and_true] at hmixed
  refine ⟨?_, hdouble, hinteger, fun hincluded => ?_⟩
  · by_contra hsmall
    rw [Nat.not_le] at hsmall
    -- Integers that are rounded are so large that doubles are whole.
    have hlarge : 2 ^ 53 * unitsPerOne ≤ y := by
      obtain ⟨m, hm⟩ := stop.whole hinteger
      rw [hrounded]
      refine hround.ge Nat.one_pos (exact_integer (Nat.le_refl _)) ?_
      rw [hm, Nat.mul_comm unitsPerOne, Nat.mul_one]
      refine Nat.mul_le_mul_right _ (Nat.le_of_not_lt fun hm53 => hinexact ?_)
      rw [hm, Nat.mul_comm]
      exact exact_integer hm53.le
    obtain ⟨k, hk, hgt, hstep⟩ :=
      exists_step (r.start.exact hdouble) hsmall hexact hbehind (by omega)
    rw [← stepped_double hdouble] at hgt hstep
    have hmem : Exact 53 (r.stepped (k * unitsPerOne)) := by
      rw [stepped_double hdouble]
      exact (roundsTo_doubleUnits _).mem
    refine h.step k hk (by omega) ?_
    rw [settle_eq hsettle hmem hgt.le]
    exact hy.of_between hgt hstep
  · by_contra hroom
    rw [Nat.not_lt] at hroom
    refine h.stop stop hstop hincluded hroom ?_
    rcases hsettle stop.units (by omega) (.inl (stop.whole hinteger)) with heq | heq
    · rw [heq]
      exact has_stop hstop hincluded (by omega)
    · rw [heq, ← hrounded]
      exact hy

/-- Behind the start no double is inside, unless the start is far from zero and the midpoint is no
candidate or the stop is rounded to the only double inside. -/
theorem doubles :
    2 ^ 57 * unitsPerOne ≤ r.start.units ∧ (r.start.included = true → r.start.integer = true) ∧
      ((¬ middleFits ∧ ∀ stop, r.stop? = some stop → stop.included = true → stop.units ≤ limit →
          settle stop.units ≠ stop.units) ∨
        r.start.integer = false ∧ ∃ stop, r.stop? = some stop ∧ stop.integer = true ∧
          (stop.included = true → limit < stop.units) ∧
          ∀ x, r.Has x → Exact 53 x → x ≤ limit → x = y) := by
  have hstart := (h.start_lt hsettle hy hexact hle).2
  cases hstop : r.stop? with
  | none =>
    exact ⟨h.far_start hsettle hlimit (by simp [hstop]), hstart, .inl ⟨h.endless hstop, by simp⟩⟩
  | some stop =>
    simp only [Option.some.injEq, forall_eq', exists_eq_left']
    by_cases hties : ∀ x, r.Has x → Exact 53 x → x ≤ limit →
        (r.start.integer && stop.integer) = false ∧ x = doubleUnits stop.units
    · obtain ⟨hmixed, hrounded⟩ := hties y hy hexact hle
      obtain ⟨hfar, hdouble, hinteger, hheld⟩ :=
        h.tie hsettle hy hexact hle hstop hmixed hrounded
      exact ⟨hfar, hstart, .inr ⟨hdouble, hinteger, hheld, fun x hx hmem hroom =>
        (hties x hx hmem hroom).2.trans hrounded.symm⟩⟩
    · simp only [not_forall] at hties
      obtain ⟨x, hx, hmem, hroom, hnot⟩ := hties
      have hbefore := h.lt_stop hsettle hx hmem hroom hstop
      have hge := (roundsTo_doubleUnits stop.units).ge Nat.one_pos hmem (by omega)
      obtain ⟨hfar, hmiddle, hstopped⟩ :=
        h.between hsettle hlimit hx hmem hroom hstop hbefore fun hmixed =>
          Nat.lt_of_le_of_ne hge fun heq => hnot ⟨hmixed, heq⟩
      exact ⟨hfar, hstart, .inl ⟨hmiddle, hstopped⟩⟩

end Doubles

/-! ## Single precision numbers -/

section Singles

variable (hsettle : ∀ x, settle x = singleUnits (doubleUnits x))
include hsettle

/-- A step of ten finds what lies far before the stop. -/
theorem single_far (hlimit : 2 ^ 62 * unitsPerOne ≤ limit) (hmiddle : ¬ middleFits) :
    2 ^ 28 * unitsPerOne ≤ r.start.units := by
  by_contra hsmall
  rw [Nat.not_le] at hsmall
  have pos := unitsPerOne_pos
  have hgt := single_step_ten hsmall
  have hstep := single_step_ten_le hsmall
  have hround := roundsTo_doubleUnits (r.start.units + 10 * unitsPerOne)
  have hten := step_ten_le (by omega : r.start.units < 2 ^ 57 * unitsPerOne)
  obtain ⟨hroom, hsame⟩ : r.stepped (10 * unitsPerOne) ≤ limit ∧
      doubleUnits (r.stepped (10 * unitsPerOne)) =
        doubleUnits (r.start.units + 10 * unitsPerOne) := by
    cases hinteger : r.start.integer with
    | true =>
      rw [stepped_integer hinteger]
      exact ⟨by omega, rfl⟩
    | false =>
      rw [stepped_double hinteger]
      exact ⟨by omega, (roundsTo_doubleUnits _).eq_self hround.mem⟩
  refine h.step 10 (by simp) hroom ?_
  rw [hsettle, hsame]
  refine has_of_lt hgt fun stop heq => ?_
  have hfar := h.far stop heq hmiddle
  omega

variable (hy : r.Has y) (hsingle : Single y) (hle : y ≤ limit)
include hy hsingle hle

/-- A start that single precision does not make less is excluded. -/
theorem single_excluded
    (hstart : r.start.units ≤ limit → r.start.units ≤ settle r.start.units) :
    r.start.included = false := by
  by_contra hincluded
  rw [Bool.not_eq_false] at hincluded
  have hbehind := hy.1.1
  have hroom : r.start.units ≤ limit := by omega
  refine h.start hincluded hroom (hy.of_included hincluded (hstart hroom) ?_)
  rw [hsettle]
  exact single_le hsingle hbehind

variable (hexcluded : r.start.included = false)
  (hstop : ∀ stop, r.stop? = some stop → stop.units ≤ limit → settle stop.units ≤ stop.units)
include hexcluded hstop

omit hle in
/-- There is no room for a stop that is included and that single precision does not make more. -/
theorem single_held {stop : End} (heq : r.stop? = some stop) (hincluded : stop.included = true) :
    limit < stop.units := by
  by_contra hroom
  rw [Nat.not_lt] at hroom
  have hbehind := hy.1.2 hexcluded
  have hbefore := (hy.2 stop heq).1
  refine h.stop stop heq hincluded hroom ((has_stop heq hincluded ?_).of_between ?_ ?_)
  · omega
  · rw [hsettle]
    exact Nat.lt_of_lt_of_le hbehind (le_single hsingle hbefore)
  · exact hstop stop heq hroom

/-- What is inside lies before the stop. -/
theorem single_lt_stop {stop : End} (heq : r.stop? = some stop) : y < stop.units := by
  obtain ⟨hbefore, hopen⟩ := hy.2 stop heq
  cases hincluded : stop.included with
  | false => exact hopen hincluded
  | true =>
    have := h.single_held hsettle hy hsingle hexcluded hstop heq hincluded
    omega

/-- If there is room for the midpoint, no two numbers are inside. -/
theorem single_unique (hmiddle : middleFits) {x : Nat} (hx : r.Has x) (hxsingle : Single x) :
    ¬ x < y := by
  intro hlt
  cases heq : r.stop? with
  | none => exact h.endless heq hmiddle
  | some stop =>
    have hmem : Exact 53 (r.middle stop) := exact_middle _ _ _
    have hbehind := hx.1.2 hexcluded
    have hbefore := h.single_lt_stop hsettle hy hsingle hle hexcluded hstop heq
    obtain ⟨hlow, hhigh⟩ : r.start.units < singleUnits (r.middle stop) ∧
        singleUnits (r.middle stop) < stop.units :=
      single_middle_between hxsingle hsingle hbehind hlt hbefore
    refine h.middle stop heq hmiddle ?_
    rw [hsettle, (roundsTo_doubleUnits _).eq_self hmem]
    exact has_of_lt_stop heq hlow hhigh

/-- No single precision number is inside, unless the stop is no candidate and the start is far from
zero and the midpoint no candidate either, or there is only one. -/
theorem singles (hlimit : 2 ^ 62 * unitsPerOne ≤ limit) :
    (∀ stop, r.stop? = some stop → stop.included = true → limit < stop.units) ∧
      (2 ^ 28 * unitsPerOne ≤ r.start.units ∧ ¬ middleFits ∨
        ∀ x, r.Has x → Single x → x ≤ limit → x = y) := by
  refine ⟨fun _ heq => h.single_held hsettle hy hsingle hexcluded hstop heq, ?_⟩
  by_cases hmiddle : middleFits
  · right
    intro x hx hxsingle hxle
    refine Nat.le_antisymm (Nat.le_of_not_lt ?_) (Nat.le_of_not_lt ?_)
    · exact h.single_unique hsettle hx hxsingle hxle hexcluded hstop hmiddle hy hsingle
    · exact h.single_unique hsettle hy hsingle hle hexcluded hstop hmiddle hx hxsingle
  · exact .inl ⟨h.single_far hsettle hlimit hmiddle, hmiddle⟩

end Singles

end Exhausted

end Stretch

end TreePredicate
