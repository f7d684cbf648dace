import TreePredicate.Proofs.Generation.Mirrored
import TreePredicate.Proofs.Node.Same

/-!
# Searches on the two sides of zero

Only the limits of integral widths are not symmetric: there is room for one more integer below zero. So
a search below zero may try a candidate for which there is no room above, between the greatest integer
of a width and the next one. What this becomes is inside only if the greatest integer is, and then the
search above zero comes upon an integer before, or upon that one in the end.

* `upward`, `exists_at_of_mem_candidates` : above zero all candidates lie above zero;
* `both_candidates?` : the candidates of the two searches lie opposite, one by one;
* `Within`, `Gap`, `both_tried_or_gap` : candidates for which an integral width has room below zero
  only, and that no other ones make a difference;
* `UpToLimit.near`, `UpToLimit.far` : these make none either, whether or not there is an integer between
  the start and the limit;
* `both_choose?` : the two searches come to the same end;
* `Generation.quantity_mirrored` : and so does the generation of a number.
-/

set_option autoImplicit false

namespace TreePredicate

-- Unfolded, these are powers that no step may write out.
attribute [local irreducible] unitsPerOne unitsBound greatestInteger lastPlace integerLimit
  leastSingle Width.greatestUnits

open Rounding Double Overflow

namespace Interval

/-! ## Candidates above zero -/

/-- A search away from zero upwards. -/
def upward (i : Interval) : Course := ⟨i.low, i.high, i.lowIncluded, i.highIncluded, false⟩

section Sums

variable {course : Course} {a b sum : Number} {x y : Nat}

/-- Where the sum of two numbers lies, unless it is too large. -/
theorem add?_at (hx : course.At a x) (hy : course.At b y) (h : a.add? b = .ok sum) :
    course.At sum (x + y) ∨ course.At sum (doubleUnits (doubleUnits x + doubleUnits y)) ∨
      (∃ negative, sum = .double (.infinite negative)) ∧
        unitsBound ≤ doubleUnits (doubleUnits x + doubleUnits y) := by
  rcases Number.add?_eq_ok h with ⟨m, n, rfl, rfl, rfl⟩ | ⟨c, d, hc, hd, rfl⟩
  · left
    unfold Course.At at hx hy ⊢
    simp only [Number.point?, Option.some.injEq, Point.at.injEq] at hx hy ⊢
    rw [Int.add_mul, hx, hy, Int.natCast_add, Course.along_add]
  · right
    obtain ⟨negative, m, rfl, hcAt⟩ := toDouble?_at hx hc
    obtain ⟨negative', m', rfl, hdAt⟩ := toDouble?_at hy hd
    obtain ⟨sign, hsign, hadd⟩ := add_eq hcAt hdAt
    rw [hadd]
    rcases Nat.lt_or_ge (doubleUnits (doubleUnits x + doubleUnits y)) unitsBound with hsmall | hlarge
    · obtain ⟨sum, hsum, hat⟩ := ofUnits_at hsign hsmall
      rw [hsum]
      exact .inl hat
    · exact .inr ⟨⟨sign, congrArg Number.double (dif_neg (Nat.not_lt.mpr hlarge))⟩, hlarge⟩

end Sums

section Upward

variable {i : Interval} {a : Number}

/-- The step of one part of a whole. -/
theorem ratio_at (i : Interval) {den : Nat} (pos : 0 < den) :
    ∃ y ≤ unitsPerOne, i.upward.At (.double (ofRatio false 1 den)) y := by
  have hone : 1 < integerLimit * den := by
    have hlimit := greatestInteger_add_ten_lt
    have hle := Nat.le_mul_of_pos_right integerLimit pos
    omega
  obtain ⟨m, hm, hunits⟩ := ofUnits_finite false ((significant_ratio_lt_iff pos).mpr hone)
  have hround : RoundsTo (Exact 53) (1 * unitsPerOne) den (significant 53 (1 * unitsPerOne) den) :=
    roundsTo_significant (by decide) pos
  have hexact : Exact 53 unitsPerOne := Nat.one_mul unitsPerOne ▸ exact_integer (by decide)
  refine ⟨m.units, ?_, ?_⟩
  · rw [hunits]
    refine hround.le pos hexact ?_
    rw [Nat.one_mul]
    exact Nat.le_mul_of_pos_right _ pos
  · rw [ofRatio, hm]
    exact at_finite m

theorem exists_step_at (i : Interval) {step : Number} (hstep : step ∈ steps) :
    ∃ y, i.upward.At step y := by
  have hratio : ∀ den, 0 < den → ∃ y, i.upward.At (.double (ofRatio false 1 den)) y := by
    intro den pos
    obtain ⟨y, -, hy⟩ := ratio_at i pos
    exact ⟨y, hy⟩
  simp only [steps, List.mem_cons, List.not_mem_nil, or_false] at hstep
  rcases hstep with rfl | rfl | rfl | rfl | rfl | rfl | rfl | rfl
  · exact hratio 2 (by decide)
  · exact ⟨_, at_int 1⟩
  · exact ⟨_, at_int 2⟩
  · exact ⟨_, at_int 5⟩
  · exact ⟨_, at_int 10⟩
  · exact hratio 5 (by decide)
  · exact hratio 10 (by decide)
  · exact hratio 100 (by decide)

variable (hside : zero.le i.low = true)
include hside

theorem course?_upward : i.course? = some i.upward := if_pos hside

/-- Between ends above zero all candidates lie above zero. -/
theorem exists_at_of_mem_candidates {s e : Nat} (hlow : i.upward.At i.low s)
    (hhigh : i.upward.At i.high e) {candidates : List Number} (h : i.candidates? = .ok candidates) :
    ∀ a ∈ candidates, ∃ x, i.upward.At a x := by
  intro a ha
  obtain ⟨stepped, middle, hstepped, hmiddle, rfl⟩ := exists_candidates (course?_upward hside) h
  rcases List.mem_append.mp ha with ha | ha
  · obtain ⟨⟨-, rfl⟩ | hmem | rfl, hfinite⟩ := Course.mem_before.mp ha
    · exact ⟨s, hlow⟩
    · obtain ⟨step, hstep, hadd⟩ := (mem_iff_of_mapM hstepped a).mp hmem
      obtain ⟨y, hy⟩ := exists_step_at i hstep
      rcases add?_at hlow hy hadd with hat | hat | ⟨⟨negative, rfl⟩, -⟩
      · exact ⟨_, hat⟩
      · exact ⟨_, hat⟩
      · cases hfinite
    · rcases mean?_at hlow hhigh hmiddle with hat | ⟨⟨negative, rfl⟩, -⟩
      · exact ⟨_, hat⟩
      · cases hfinite
  · obtain ⟨-, rfl, -⟩ := Course.mem_last.mp ha
    exact ⟨e, hhigh⟩

/-- The first candidates are the start, if it is included, and the steps of one half and of one. -/
theorem exists_prefix {candidates : List Number} (h : i.candidates? = .ok candidates) :
    ∃ half one rest, i.low.add? (.double (ofRatio false 1 2)) = .ok half ∧
      i.low.add? (.int 1) = .ok one ∧
      candidates = ((if i.lowIncluded then [i.low] else []) ++ [half, one] ++ rest).filter
        Number.isFinite := by
  rw [candidates?_eq (course?_upward hside)] at h
  obtain ⟨stepped, hstepped, h⟩ := ok_of_bind h
  obtain ⟨middle, -, h⟩ := ok_of_bind h
  cases h
  unfold stepped? steps at hstepped
  rw [List.mapM_cons, List.mapM_cons] at hstepped
  obtain ⟨half, hhalf, hstepped⟩ := ok_of_bind hstepped
  obtain ⟨others, hothers, hstepped⟩ := ok_of_bind hstepped
  obtain ⟨one, hone, hothers⟩ := ok_of_bind hothers
  obtain ⟨rest, -, hothers⟩ := ok_of_bind hothers
  cases hothers
  cases hstepped
  refine ⟨half, one, rest ++ [.double middle] ++ (if i.highIncluded then [i.high] else []),
    hhalf, hone, congrArg (List.filter Number.isFinite) ?_⟩
  simp only [List.append_assoc]
  rfl

/-! ## Candidates on both sides of zero -/

variable (hhigh : i.high.le zero = false)
include hhigh

theorem course?_mirrored :
    i.mirrored.course? = some ⟨i.low.neg, i.high.neg, i.lowIncluded, i.highIncluded, true⟩ := by
  have hzero : Number.Opposite zero zero := Number.opposite_neg zero
  have hbelow : zero.le i.mirrored.low = false :=
    (Number.le_of_opposite (Number.opposite_neg i.high) hzero).trans hhigh
  have habove : i.mirrored.high.le zero = true :=
    (Number.le_of_opposite hzero (Number.opposite_neg i.low)).trans hside
  unfold course?
  rw [hbelow, habove]
  rfl

/-- The candidates of the two searches lie opposite, one by one. -/
theorem both_candidates? :
    Both (List.Forall₂ Number.Mirrors) i.candidates? i.mirrored.candidates? := by
  have hlow := Number.mirrors_neg i.low
  have hhigh' := Number.mirrors_neg i.high
  rw [candidates?_eq (course?_upward hside), candidates?_eq (course?_mirrored hside hhigh)]
  have hstepped : Both (List.Forall₂ Number.Mirrors) (stepped? i.upward)
      (stepped? ⟨i.low.neg, i.high.neg, i.lowIncluded, i.highIncluded, true⟩) :=
    both_mapM (List.forall₂_same.mpr fun step _ => hlow.add? (Number.mirrors_neg step))
  refine hstepped.bind fun stepped stepped' hsteps => (hlow.mean? hhigh').bind fun d d' hmiddle => ?_
  have hend : ∀ (included : Bool) {a b : Number}, Number.Mirrors a b →
      List.Forall₂ Number.Mirrors (if included then [a] else []) (if included then [b] else []) := by
    intro included a b hab
    cases included with
    | true => exact .cons hab .nil
    | false => exact .nil
  refine .ok (List.rel_filter (fun a b hab => ?_) (List.rel_append (List.rel_append
    (List.rel_append (hend _ hlow) hsteps) (.cons (.double hmiddle) .nil)) (hend _ hhigh')))
  show a.isFinite = true ↔ b.isFinite = true
  rw [hab.isFinite_eq]

/-- The two searches come to the same end if they do once there are candidates. -/
theorem both_choose?_of_candidates
    (hfirst : ∀ candidates others, i.candidates? = .ok candidates →
      List.Forall₂ Number.Mirrors candidates others →
      Both (Option.Rel Quantity.Opposite) (i.firstInside? candidates)
        (i.mirrored.firstInside? others)) :
    Both (Option.Rel Quantity.Opposite) i.choose? i.mirrored.choose? := by
  have hboth := both_candidates? hside hhigh
  unfold choose?
  generalize hcandidates : i.candidates? = found at hboth
  generalize i.mirrored.candidates? = found' at hboth
  cases hboth with
  | overflow cause cause' => exact .overflow cause cause'
  | ok hmirrors => exact hfirst _ _ hcandidates hmirrors

end Upward

/-! ## Integral widths -/

/-- An interval above zero, from `s` to `e` units, whose width is integral and has room for it. -/
structure Within (i : Interval) (width : Width) (s e : Nat) : Prop where
  width?_eq : i.width? = some width
  integral : width.isIntegral = true
  nonneg : zero.le i.low = true
  low : i.upward.At i.low s
  high : i.upward.At i.high e
  room : e ≤ i.upward.limit width

/-- A distance that is too far above zero, but not below, and that comes to lie inside. -/
structure Gap (i : Interval) (width : Width) (x : Nat) : Prop where
  past : i.upward.limit width < x
  room : x ≤ i.upward.reversed.limit width
  inside : ∃ v, i.upward.At v (x / unitsPerOne * unitsPerOne) ∧ i.holds v = true

section Integral

variable {i j : Interval} {course : Course} {width : Width} {s e x y : Nat} {a b v : Number}

theorem settle_integral (hintegral : width.isIntegral = true) (course : Course) (x : Nat) :
    course.settle (some width) x = x / unitsPerOne * unitsPerOne := by
  cases width with
  | float => cases hintegral
  | double => cases hintegral
  | _ => rfl

theorem limit_reversed_eq (i : Interval) (hintegral : width.isIntegral = true) :
    i.upward.reversed.limit width = i.upward.limit width + unitsPerOne := by
  obtain ⟨k, hk⟩ : ∃ k, Nat.pow 2 width.digits = k + 1 :=
    Nat.exists_eq_add_one.mpr (Nat.two_pow_pos _)
  rw [limit_integral hintegral, limit_integral hintegral, hk]
  exact Nat.succ_mul k unitsPerOne

/-- What becomes of a candidate for an integral width: its integer, if there is room and this is
inside. -/
theorem tried_cases (hwidth : j.width? = some width) (hintegral : width.isIntegral = true)
    (h : course.At a x) :
    (x ≤ course.limit width ∧ ∃ q, j.tried a = .ok (some q) ∧ j.holds q.value = true ∧
        course.At q.value (x / unitsPerOne * unitsPerOne)) ∨
      j.tried a = .ok none ∧ (x ≤ course.limit width →
        ∀ v, course.At v (x / unitsPerOne * unitsPerOne) → j.holds v = false) := by
  rcases Nat.lt_or_ge (course.limit width) x with hfar | hroom
  · refine .inr ⟨?_, fun hroom => by omega⟩
    rw [tried, hwidth, quantity?_of_limit_lt h hfar]
    rfl
  · obtain ⟨q, hq, hat⟩ := exists_settled (some width) h hroom
    rw [settle_integral hintegral] at hat
    cases hholds : j.holds q.value with
    | true =>
      refine .inl ⟨hroom, q, tried_eq_some_iff.mpr ⟨hwidth ▸ hq, hholds⟩, hholds, hat⟩
    | false =>
      refine .inr ⟨?_, fun _ v hv => ?_⟩
      · rw [tried, hwidth, hq]
        simp [bind, Except.bind, pure, Except.pure, Option.filter_some, hholds]
      · rw [holds_congr j (hv.trans hat.symm), hholds]

theorem exists_tried (hwidth : j.width? = some width) (hintegral : width.isIntegral = true)
    (h : course.At a x) : ∃ found?, j.tried a = .ok found? := by
  rcases tried_cases hwidth hintegral h with ⟨-, q, hq, -⟩ | ⟨hnone, -⟩
  · exact ⟨_, hq⟩
  · exact ⟨_, hnone⟩

/-- A candidate for which there is room is found, if its integer is inside. -/
theorem exists_inside_of_at (hwidth : j.width? = some width) (hintegral : width.isIntegral = true)
    (h : course.At a x) (hroom : x ≤ course.limit width)
    (hv : course.At v (x / unitsPerOne * unitsPerOne)) (hholds : j.holds v = true) :
    ∃ q, j.tried a = .ok (some q) := by
  rcases tried_cases hwidth hintegral h with ⟨-, q, hq, -⟩ | ⟨-, hout⟩
  · exact ⟨q, hq⟩
  · rw [hout hroom v hv] at hholds
    cases hholds

/-- No other candidates than those in the gap make a difference. -/
theorem both_tried_or_gap (hwidth : i.width? = some width) (hintegral : width.isIntegral = true)
    (hab : Number.Mirrors a b) (h : i.upward.At a x) :
    Both (Option.Rel Quantity.Opposite) (i.tried a) (i.mirrored.tried b) ∨ i.Gap width x := by
  have hlimit := limit_reversed_eq i hintegral
  rcases tried_cases hwidth hintegral h with ⟨hroom, q, hq, hholds, hat⟩ | ⟨hnone, hout⟩
  · rcases tried_cases (j := i.mirrored) hwidth hintegral (h.reversed hab.opposite) with
      ⟨-, q', hq', -, hat'⟩ | ⟨-, hout'⟩
    · left
      rw [hq, hq']
      exact .ok (.some (opposite_of_at hat hat'))
    · have hopposite := Number.opposite_neg q.value
      have hfalse := hout' (by omega) _ (hat.reversed hopposite)
      rw [holds_mirrored i hopposite, hholds] at hfalse
      cases hfalse
  · rcases tried_cases (j := i.mirrored) hwidth hintegral (h.reversed hab.opposite) with
      ⟨hroom, q', hq', hholds', hat'⟩ | ⟨hnone', -⟩
    · right
      have hopposite := Number.opposite_neg q'.value
      have hat : i.upward.At q'.value.neg (x / unitsPerOne * unitsPerOne) := hat'.reversed hopposite
      have hholds : i.holds q'.value.neg = true :=
        (holds_mirrored i hopposite.symm).symm.trans hholds'
      refine ⟨Nat.lt_of_not_le fun hnear => ?_, hroom, _, hat, hholds⟩
      rw [hout hnear _ hat] at hholds
      cases hholds
    · left
      rw [hnone, hnone']
      exact .ok .none

/-- A quantity inside lies at the integer of its candidate. -/
theorem at_of_tried (hwidth : j.width? = some width) (hintegral : width.isIntegral = true)
    (h : course.At a x) {q : Quantity} (htried : j.tried a = .ok (some q)) :
    course.At q.value (x / unitsPerOne * unitsPerOne) := by
  rcases tried_cases hwidth hintegral h with ⟨-, q', hq', -, hat⟩ | ⟨hnone, -⟩
  · rw [htried, Except.ok.injEq, Option.some.injEq] at hq'
    exact hq' ▸ hat
  · rw [htried] at hnone
    cases hnone

/-- What a search finds lies at an integer, and is inside. -/
theorem exists_found (hwidth : j.width? = some width) (hintegral : width.isIntegral = true)
    {candidates : List Number} (hat : ∀ a ∈ candidates, ∃ x, course.At a x)
    (hinside : ∃ a ∈ candidates, ∃ q, j.tried a = .ok (some q)) :
    ∃ q x, j.firstInside? candidates = .ok (some q) ∧
      course.At q.value (x / unitsPerOne * unitsPerOne) ∧ j.holds q.value = true := by
  have hok : ∀ a ∈ candidates, ∃ found?, j.tried a = .ok found? := by
    intro a ha
    obtain ⟨x, hx⟩ := hat a ha
    exact exists_tried hwidth hintegral hx
  obtain ⟨a, ha, q, hq, hfirst⟩ := exists_firstInside? hok hinside
  obtain ⟨x, hx⟩ := hat a ha
  exact ⟨q, x, hfirst, at_of_tried hwidth hintegral hx hq, (tried_eq_some_iff.mp hq).2⟩

theorem Within.holds_iff (h : i.Within width s e) (hv : i.upward.At v y) :
    i.holds v = true ↔ (s ≤ y ∧ (i.lowIncluded = false → s < y)) ∧
      y ≤ e ∧ (i.highIncluded = false → y < e) := by
  have hlow : i.low.point? = some (.at (s : Int)) := h.low
  have hhigh : i.high.point? = some (.at (e : Int)) := h.high
  have hpoint : v.point? = some (.at (y : Int)) := hv
  rw [holds, Bool.and_eq_true, ends_iff hlow hpoint, ends_iff hpoint hhigh]
  simp only [Int.ofNat_le, Int.ofNat_lt]

/-! ## The gap behind the limit -/

/-- An interval above zero up to the greatest integer of its width, which is inside. -/
structure UpToLimit (i : Interval) (width : Width) (s k : Nat) : Prop where
  within : i.Within width s (k * unitsPerOne)
  limit_eq : i.upward.limit width = k * unitsPerOne
  small : k < 2 ^ 52
  included : i.highIncluded = true
  start_le : s ≤ k * unitsPerOne
  excluded : i.lowIncluded = false → s < k * unitsPerOne

/-- A candidate in the gap is no integer, so that it is small, and if it comes to lie inside then so
does the greatest integer of the width. -/
theorem exists_upToLimit (h : i.Within width s e) (hgap : i.Gap width x) (ha : i.upward.At a x) :
    ∃ k, i.UpToLimit width s k := by
  have pos := unitsPerOne_pos
  obtain ⟨k, hk⟩ : ∃ k, i.upward.limit width = k * unitsPerOne := ⟨_, limit_integral h.integral⟩
  obtain ⟨v, hv, hholds⟩ := hgap.inside
  obtain ⟨⟨hstart, hopen⟩, hstop, hstrict⟩ := (h.holds_iff hv).mp hholds
  have hpast := hgap.past
  have hroom := h.room
  rw [hk] at hpast hroom
  have hfloor := Nat.mul_le_mul_right unitsPerOne ((Nat.le_div_iff_mul_le pos).mpr hpast.le)
  have hsame : x / unitsPerOne * unitsPerOne = k * unitsPerOne := by omega
  obtain rfl : e = k * unitsPerOne := by omega
  have hnot : ¬ unitsPerOne ∣ x := fun hdvd => by
    rw [Nat.div_mul_cancel hdvd] at hsame
    omega
  have hsmall : x < 2 ^ 52 * unitsPerOne := by
    rcases at_cases ha with ⟨m, -, rfl⟩ | ⟨negative, m, -, rfl⟩
    · exact absurd (Nat.dvd_mul_left _ _) hnot
    · exact lt_of_not_dvd m.rounded hnot
  refine ⟨k, h, hk, Nat.lt_of_mul_lt_mul_right (a := unitsPerOne) (by omega), ?_, by omega,
    fun hexcluded => ?_⟩
  · by_contra hexcluded
    have := hstrict (Bool.eq_false_iff.mpr hexcluded)
    omega
  · have := hopen hexcluded
    omega

namespace UpToLimit

variable {k : Nat} (h : i.UpToLimit width s k) {candidates others : List Number}
  (hcandidates : i.candidates? = .ok candidates)
  (hmirrors : List.Forall₂ Number.Mirrors candidates others)
include h

theorem exact_start : Exact 53 s := by
  have hsmall := h.small
  have hstart := h.start_le
  rcases at_cases h.within.low with ⟨m, -, rfl⟩ | ⟨negative, m, -, rfl⟩
  · have hle := Nat.le_of_mul_le_mul_right hstart unitsPerOne_pos
    exact exact_integer (by omega)
  · exact m.rounded

/-- A step that does not go past the limit is not rounded past it, nor below an integer. -/
theorem step_at {step sum : Number} {t : Nat} (hstep : i.upward.At step t) (ht : Exact 53 t)
    (hroom : s + t ≤ k * unitsPerOne) (hadd : i.low.add? step = .ok sum) :
    ∃ z, i.upward.At sum z ∧ z ≤ k * unitsPerOne ∧
      ∀ m ≤ k, m * unitsPerOne ≤ s + t → m * unitsPerOne ≤ z := by
  have hsmall := h.small
  have hround := roundsTo_doubleUnits (s + t)
  have hlimit : Exact 53 (k * unitsPerOne) := exact_integer (by omega)
  have hle := hround.le Nat.one_pos hlimit (by omega)
  have hsum := add?_at h.within.low hstep hadd
  rw [(roundsTo_doubleUnits s).eq_self h.exact_start, (roundsTo_doubleUnits t).eq_self ht] at hsum
  rcases hsum with hat | hat | ⟨-, hlarge⟩
  · exact ⟨_, hat, hroom, fun m _ hm => hm⟩
  · refine ⟨_, hat, hle, fun m hmk hm => ?_⟩
    exact hround.ge Nat.one_pos (exact_integer (by omega)) (by omega)
  · have hbound := limit_lt i.upward width
    rw [h.limit_eq] at hbound
    omega

theorem high_inside : i.holds i.high = true := by
  refine (h.within.holds_iff h.within.high).mpr
    ⟨⟨h.start_le, h.excluded⟩, Nat.le_refl _, fun hexcluded => ?_⟩
  rw [h.included] at hexcluded
  cases hexcluded

/-- If there is no integer between the start and the limit, the limit is the only integer inside. -/
theorem floor_eq (hfar : k * unitsPerOne < s + unitsPerOne)
    (hv : i.upward.At v (x / unitsPerOne * unitsPerOne)) (hholds : i.holds v = true) :
    x / unitsPerOne = k := by
  obtain ⟨⟨hge, -⟩, hle, -⟩ := (h.within.holds_iff hv).mp hholds
  have hmost := Nat.le_of_mul_le_mul_right hle unitsPerOne_pos
  have hleast : k < x / unitsPerOne + 1 :=
    Nat.lt_of_mul_lt_mul_right (a := unitsPerOne) (by rw [Nat.add_mul]; omega)
  omega

/-- The step of one is inside, if there is room for it. -/
theorem one_inside (hnear : s + unitsPerOne ≤ k * unitsPerOne) {one : Number}
    (hone : i.low.add? (.int 1) = .ok one) : ∃ q, i.tried one = .ok (some q) := by
  have pos := unitsPerOne_pos
  have hunit : Exact 53 (1 * unitsPerOne) := exact_integer (by decide)
  obtain ⟨z, hz, hle, hge⟩ := h.step_at (at_int 1) hunit (by omega) hone
  obtain ⟨m, hlowest, hnext⟩ := exists_integer_behind s
  have hm : m + 1 ≤ k := Nat.lt_of_mul_lt_mul_right (a := unitsPerOne) (by omega)
  have hbehind := hge (m + 1) hm (by rw [Nat.add_mul]; omega)
  have hfloor := Nat.mul_le_mul_right unitsPerOne ((Nat.le_div_iff_mul_le pos).mpr hbehind)
  have hmost := Nat.div_mul_le_self z unitsPerOne
  have hat : i.upward.At (.int (z / unitsPerOne : Nat)) (z / unitsPerOne * unitsPerOne) := at_int _
  refine exists_inside_of_at h.within.width?_eq h.within.integral hz (h.limit_eq ▸ hle) hat
    ((h.within.holds_iff hat).mpr ⟨⟨by omega, fun _ => by omega⟩, by omega, fun hexcluded => ?_⟩)
  rw [h.included] at hexcluded
  cases hexcluded

/-- The first candidates do not go past the limit then. -/
theorem first_at (hnear : s + unitsPerOne ≤ k * unitsPerOne) {half one : Number}
    (hhalf : i.low.add? (.double (ofRatio false 1 2)) = .ok half)
    (hone : i.low.add? (.int 1) = .ok one) :
    ∀ a ∈ (if i.lowIncluded then [i.low] else []) ++ [half, one],
      ∃ x ≤ k * unitsPerOne, i.upward.At a x := by
  obtain ⟨t, ht, hhalfAt⟩ := ratio_at i Nat.two_pos
  obtain ⟨y, hy, hyle, -⟩ := h.step_at hhalfAt (exact_of_at hhalfAt) (by omega) hhalf
  have hunit : Exact 53 (1 * unitsPerOne) := exact_integer (by decide)
  obtain ⟨z, hz, hzle, -⟩ := h.step_at (at_int 1) hunit (by omega) hone
  intro a ha
  simp only [List.mem_append, List.mem_cons, List.not_mem_nil, or_false] at ha
  rcases ha with ha | rfl | rfl
  · split at ha
    · rw [List.mem_singleton.mp ha]
      exact ⟨s, h.start_le, h.within.low⟩
    · cases ha
  · exact ⟨y, hyle, hy⟩
  · exact ⟨z, hzle, hz⟩

include hcandidates hmirrors

/-- If there is an integer between the start and the limit, then both searches end with one of the
first candidates. -/
theorem near (hnear : s + unitsPerOne ≤ k * unitsPerOne) :
    Both (Option.Rel Quantity.Opposite) (i.firstInside? candidates)
      (i.mirrored.firstInside? others) := by
  obtain ⟨half, one, rest, hhalf, hone, rfl⟩ := exists_prefix h.within.nonneg hcandidates
  have hfirst := h.first_at hnear hhalf hone
  have hfilter := List.filter_eq_self (p := Number.isFinite).mpr fun a ha =>
    let ⟨_, _, hx⟩ := hfirst a ha
    isFinite_of_at hx
  rw [List.filter_append, hfilter] at hmirrors ⊢
  generalize hfound : (if i.lowIncluded then [i.low] else []) ++ [half, one] = found
    at hfirst hmirrors ⊢
  have htake := List.forall₂_take found.length hmirrors
  rw [List.take_left] at htake
  refine both_firstInside?_append (both_firstInside? (forall₂_imp_mem ?_ htake))
    (fun a ha => ?_) ⟨one, by simp [← hfound], h.one_inside hnear hone⟩ _
  · intro a ha b _ hab
    obtain ⟨x, hle, hx⟩ := hfirst a ha
    refine (both_tried_or_gap h.within.width?_eq h.within.integral hab hx).resolve_right ?_
    intro hgap
    have hpast := hgap.past
    have hlimit := h.limit_eq
    omega
  · obtain ⟨x, -, hx⟩ := hfirst a ha
    exact exists_tried h.within.width?_eq h.within.integral hx

/-- Otherwise there is one integer only that may be inside, and both searches come to it in the
end. -/
theorem far (hfar : k * unitsPerOne < s + unitsPerOne) :
    Both (Option.Rel Quantity.Opposite) (i.firstInside? candidates)
      (i.mirrored.firstInside? others) := by
  obtain ⟨hwidth, hintegral, hside, hlow, hhigh, hroom⟩ := h.within
  have hlimit := limit_reversed_eq i hintegral
  have hfloor : k * unitsPerOne / unitsPerOne * unitsPerOne = k * unitsPerOne := by
    rw [Nat.mul_div_cancel _ unitsPerOne_pos]
  -- The stop is the last candidate, and inside.
  have hstop : i.high ∈ candidates := by
    obtain ⟨stepped, middle, -, -, rfl⟩ := exists_candidates (course?_upward hside) hcandidates
    exact List.mem_append_right _ (Course.mem_last.mpr ⟨h.included, rfl, isFinite_of_at hhigh⟩)
  obtain ⟨c, hc, hmirror⟩ := exists_mem_right hmirrors hstop
  have hopposite := hmirror.opposite
  have hat := exists_at_of_mem_candidates hside hlow hhigh hcandidates
  have hat' : ∀ b ∈ others, ∃ x, i.upward.reversed.At b x := by
    refine forall_mem_right hmirrors fun a ha b hab => ?_
    obtain ⟨x, hx⟩ := hat a ha
    exact ⟨x, hx.reversed hab.opposite⟩
  obtain ⟨q, x, hfirst, hq, hholds⟩ := exists_found hwidth hintegral hat
    ⟨i.high, hstop, exists_inside_of_at hwidth hintegral hhigh hroom (hfloor.symm ▸ hhigh)
      h.high_inside⟩
  obtain ⟨q', y, hfirst', hq', hholds'⟩ := exists_found (j := i.mirrored) hwidth hintegral hat'
    ⟨c, hc, exists_inside_of_at hwidth hintegral (hhigh.reversed hopposite) (by omega)
      (hfloor.symm ▸ hhigh.reversed hopposite) ((holds_mirrored i hopposite).trans h.high_inside)⟩
  have hneg := Number.opposite_neg q'.value
  rw [holds_mirrored i hneg.symm] at hholds'
  rw [h.floor_eq hfar hq hholds] at hq
  rw [h.floor_eq hfar (hq'.reversed hneg) hholds'] at hq'
  rw [hfirst, hfirst']
  exact .ok (.some (opposite_of_at hq hq'))

end UpToLimit

/-! ## The two searches -/

/-- For an integral width the two searches come to the same end. -/
theorem Within.both_choose? (h : i.Within width s e) (hhigh : i.high.le zero = false) :
    Both (Option.Rel Quantity.Opposite) i.choose? i.mirrored.choose? := by
  refine both_choose?_of_candidates h.nonneg hhigh fun candidates others hcandidates hmirrors => ?_
  have hat := exists_at_of_mem_candidates h.nonneg h.low h.high hcandidates
  by_cases hgap : ∃ a ∈ candidates, ∃ x, i.upward.At a x ∧ i.Gap width x
  · obtain ⟨a, -, x, hx, hgap⟩ := hgap
    obtain ⟨k, hup⟩ := exists_upToLimit h hgap hx
    rcases Nat.lt_or_ge (k * unitsPerOne) (s + unitsPerOne) with hfar | hnear
    · exact hup.far hcandidates hmirrors hfar
    · exact hup.near hcandidates hmirrors hnear
  · refine both_firstInside? (forall₂_imp_mem (fun a ha b _ hab => ?_) hmirrors)
    obtain ⟨x, hx⟩ := hat a ha
    refine (both_tried_or_gap h.width?_eq h.integral hab hx).resolve_right fun hx' => ?_
    exact hgap ⟨a, ha, x, hx, hx'⟩

end Integral

section Choice

variable {i : Interval}

/-- And so they do where none is declared or its limits are symmetric. -/
theorem both_choose?_of_symmetric (hside : zero.le i.low = true) (hhigh : i.high.le zero = false)
    (hwidth : ∀ width, i.width? = some width → width.isIntegral = false) :
    Both (Option.Rel Quantity.Opposite) i.choose? i.mirrored.choose? := by
  refine both_choose?_of_candidates hside hhigh fun candidates others hcandidates hmirrors => ?_
  refine both_firstInside? (forall₂_imp_mem (fun a ha b _ hab => ?_) hmirrors)
  obtain ⟨stepped, middle, -, -, rfl⟩ := exists_candidates (course?_upward hside) hcandidates
  have hfinite : a.isFinite = true := by
    rcases List.mem_append.mp ha with ha | ha
    · exact (Course.mem_before.mp ha).2
    · exact (Course.mem_last.mp ha).2.2
  exact both_tried (both_quantity? hwidth hab hfinite)

/-- Where zero is the only number inside, it is chosen. -/
theorem choose?_of_zero (hlow : i.low.point? = some (.at 0)) (hhigh : i.high.point? = some (.at 0))
    (hempty : i.isEmpty = false) :
    ∃ q, i.choose? = .ok (some q) ∧ q.value.point? = some (.at 0) := by
  have hzero : zero.point? = some (.at 0) := at_zero i.upward
  have hincluded : i.lowIncluded = true ∧ i.highIncluded = true := by
    unfold isEmpty at hempty
    rw [Number.same_of_points hlow hhigh] at hempty
    simpa using (Bool.or_eq_false_iff.mp hempty).2
  have hholds : ∀ {v : Number} {place : Int}, v.point? = some (.at place) →
      (i.holds v = true ↔ place = 0) := by
    intro v place hv
    rw [holds, Bool.and_eq_true, ends_iff hlow hv, ends_iff hv hhigh, hincluded.1, hincluded.2]
    simp only [Bool.true_eq_false, false_imp_iff, and_true]
    omega
  have hsmall : ∀ {a : Number}, a.point? = some (.at 0) → ∀ n, a = .int n →
      n.natAbs < greatestInteger := by
    rintro a ha n rfl
    have hplace : n * unitsPerOne = 0 := Point.at.inj (Option.some.inj ha)
    have pos := unitsPerOne_pos
    have hlarge := two_pow_63_lt_greatestInteger
    rcases Int.mul_eq_zero.mp hplace with rfl | hzero
    · show 0 < greatestInteger
      omega
    · omega
  obtain ⟨found?, hfound⟩ := eq_ok_of_not_overflows
    (mt (overflows_choose?_iff hempty).mp (not_tooLarge (hsmall hlow) (hsmall hhigh)))
  have hcourse := course?_upward (i := i) (by rw [Number.le_of_points hzero hlow]; rfl)
  rw [hfound]
  unfold choose? at hfound
  obtain ⟨candidates, hcandidates, hfirst⟩ := ok_of_bind hfound
  obtain ⟨stepped, middle, -, -, rfl⟩ := exists_candidates hcourse hcandidates
  cases found? with
  | some q =>
    obtain ⟨place, hplace⟩ := q.exists_point
    have hinside := (hholds hplace).mp (Generation.firstInside?_holds hfirst)
    exact ⟨q, rfl, hinside ▸ hplace⟩
  | none =>
    have hat : i.upward.At i.low 0 := hlow
    obtain ⟨q, hq, hqat⟩ := exists_settled i.width? hat (Nat.zero_le _)
    rw [settle_zero] at hqat
    have hmem : i.low ∈ i.upward.before stepped middle ++ i.upward.last :=
      List.mem_append_left _ (Course.mem_before.mpr ⟨.inl ⟨hincluded.1, rfl⟩, isFinite_of_at hat⟩)
    have hout := outside_of_firstInside? hfirst i.low hmem q hq
    rw [(hholds hqat).mpr rfl] at hout
    cases hout

/-- An interval that lies neither below zero nor above it, and is not empty. -/
theorem points_of_zero (hside : zero.le i.low = true) (hhigh : i.high.le zero = true)
    (hempty : i.isEmpty = false) :
    i.low.point? = some (.at 0) ∧ i.high.point? = some (.at 0) := by
  have hzero : zero.point? = some (.at 0) := at_zero i.upward
  unfold isEmpty at hempty
  have hbehind := (Bool.or_eq_false_iff.mp hempty).1
  unfold Number.le at hside hhigh
  unfold Number.lt at hbehind
  rw [hzero] at hside hhigh
  cases hx : i.low.point? with
  | none =>
    rw [hx] at hside
    cases hside
  | some x =>
    cases hz : i.high.point? with
    | none =>
      rw [hz] at hhigh
      cases hhigh
    | some z =>
      rw [hx] at hside hbehind
      rw [hz] at hhigh hbehind
      have hle : x.le z = true := by
        dsimp only at hbehind
        rw [Point.le, hbehind]
        rfl
      have hlow := Point.le_antisymm (Point.le_trans hle hhigh) hside
      have hhigh := Point.le_antisymm hhigh (Point.le_trans hside hle)
      exact ⟨congrArg some hlow, congrArg some hhigh⟩

/-- An interval above zero whose width is integral and has room for it. -/
theorem exists_within {width : Width} (hwidth : i.width? = some width)
    (hintegral : width.isIntegral = true) (hside : zero.le i.low = true)
    (hhigh : i.high.le zero = false) (hempty : i.isEmpty = false)
    (hroom : i.high.le width.limits.2 = true) : ∃ s e, i.Within width s e := by
  have hzero : zero.point? = some (.at 0) := at_zero i.upward
  obtain ⟨-, hlimit⟩ := limits_point width
  obtain ⟨z, hz⟩ : ∃ z : Int, i.high.point? = some (.at z) := by
    unfold Number.le at hroom hhigh
    rw [hlimit] at hroom
    rw [hzero] at hhigh
    cases hpoint : i.high.point? with
    | none =>
      rw [hpoint] at hroom
      cases hroom
    | some place =>
      rw [hpoint] at hroom hhigh
      cases place with
      | «at» z => exact ⟨z, rfl⟩
      | minusInfinity => cases hhigh
      | plusInfinity => cases hroom
  rw [Number.le_of_points hz hzero, decide_eq_false_iff_not] at hhigh
  rw [Number.le_of_points hz hlimit, decide_eq_true_eq] at hroom
  have hbehind : i.upward.Precedes true zero i.low := hside
  obtain ⟨s, hs⟩ := (at_or_infinite (at_zero i.upward) hbehind).resolve_right fun hinfinite => by
    unfold isEmpty Number.lt at hempty
    rw [hz, show i.low = .double (.infinite false) from hinfinite] at hempty
    cases hempty
  refine ⟨s, z.natAbs, hwidth, hintegral, hside, hs, ?_, ?_⟩
  · show i.high.point? = some (.at (z.natAbs : Int))
    rw [hz, Int.natAbs_of_nonneg (by omega)]
  · show z.natAbs ≤ width.limitUnits false
    omega

/-- The two searches come to the same end. -/
theorem both_choose? (hside : zero.le i.low = true) (hempty : i.isEmpty = false)
    (hroom : ∀ width, i.width? = some width → width.isIntegral = true →
      i.high.le width.limits.2 = true) :
    Both (Option.Rel Quantity.Opposite) i.choose? i.mirrored.choose? := by
  cases hhigh : i.high.le zero with
  | true =>
    obtain ⟨hlow0, hhigh0⟩ := points_of_zero hside hhigh hempty
    obtain ⟨q, hq, hat⟩ := choose?_of_zero hlow0 hhigh0 hempty
    obtain ⟨q', hq', hat'⟩ := choose?_of_zero (i := i.mirrored)
      ((Number.opposite_neg i.high).trans (by rw [hhigh0]; rfl))
      ((Number.opposite_neg i.low).trans (by rw [hlow0]; rfl)) ((isEmpty_mirrored i).trans hempty)
    rw [hq, hq']
    refine .ok (.some ?_)
    show q'.value.point? = q.value.point?.map Point.opposite
    rw [hat, hat']
    rfl
  | false =>
    by_cases hwidth : ∀ width, i.width? = some width → width.isIntegral = false
    · exact both_choose?_of_symmetric hside hhigh hwidth
    · push Not at hwidth
      obtain ⟨width, hwidth, hintegral⟩ := hwidth
      rw [ne_eq, Bool.not_eq_false] at hintegral
      obtain ⟨s, e, hwithin⟩ :=
        exists_within hwidth hintegral hside hhigh hempty (hroom width hwidth hintegral)
      exact hwithin.both_choose? hhigh

end Choice

end Interval

/-! ## Generated numbers -/

theorem Number.isWritten_neg (value : Number) : value.neg.isWritten = value.isWritten := by
  cases value with
  | int n =>
    have hneg : Notation.isWritten (-n) = Notation.isWritten n := by
      rw [Notation.isWritten, Int.natAbs_neg]
      rfl
    rw [Number.neg, isWritten, isWritten, Notation.printNumber, Notation.printNumber, hneg]
    cases Notation.isWritten n <;> rfl
  | double d => rfl

theorem Interval.isWritten_mirrored (i : Interval) : i.mirrored.isWritten = i.isWritten := by
  show (i.high.neg.isWritten && i.low.neg.isWritten) = _
  rw [Number.isWritten_neg, Number.isWritten_neg, Bool.and_comm]
  rfl

namespace Generation

variable {σ : Type} {i : Interval}

/-- Two attempts to make a number that both break off, both end in vain, or make opposite numbers. -/
inductive Agree : Except GenerationFault Quantity → Except GenerationFault Quantity → Prop
  | broken (cause cause' : Breakdown) :
    Agree (.error (.broken cause)) (.error (.broken cause'))
  | vain (cause cause' : Unsatisfiable) :
    Agree (.error (.unsatisfiable cause)) (.error (.unsatisfiable cause'))
  | made {q q' : Quantity} (h : q.Opposite q') : Agree (.ok q) (.ok q')

/-- To give up an interval and to give up its mirror image come to the same end. -/
theorem agree_giveUp (i : Interval) (cause cause' : Unsatisfiable) (s : σ) :
    Agree ((giveUp i cause).run s).1 ((giveUp i.mirrored cause').run s).1 := by
  rw [run_giveUp, run_giveUp, Interval.isWritten_mirrored]
  cases i.isWritten with
  | true => exact .vain cause cause'
  | false => exact .broken _ _

/-- To make a number above zero and to make one for the mirror image come to the same end. -/
theorem agree_quantity (hside : Interval.zero.le i.low = true)
    (hroom : ∀ width, i.width? = some width → width.isIntegral = true →
      i.high.le width.limits.2 = true) (s : σ) :
    Agree ((quantity i).run s).1 ((quantity i.mirrored).run s).1 := by
  unfold quantity
  rw [Interval.isEmpty_mirrored]
  cases hempty : i.isEmpty with
  | true => exact agree_giveUp i _ _ s
  | false =>
    simp only [Bool.false_eq_true, if_false]
    have hboth := Interval.both_choose? hside hempty hroom
    generalize i.choose? = found at hboth
    generalize i.mirrored.choose? = found' at hboth
    cases hboth with
    | overflow cause cause' => exact .broken _ _
    | ok hrel =>
      cases hrel with
      | none => exact agree_giveUp i _ _ s
      | some hq => exact .made hq

/-- A number is made for an interval above zero exactly if its negative is made for the mirror image,
and one of them ends in vain exactly if the other does. -/
theorem quantity_mirrored (hside : Interval.zero.le i.low = true)
    (hroom : ∀ width, i.width? = some width → width.isIntegral = true →
      i.high.le width.limits.2 = true) (s : σ) :
    (∀ v, (∃ q, ((quantity i).run s).1 = .ok q ∧ q.value.same v = true) ↔
      ∃ q, ((quantity i.mirrored).run s).1 = .ok q ∧ q.value.same v.neg = true) ∧
    ((∃ cause, ((quantity i).run s).1 = .error (.unsatisfiable cause)) ↔
      ∃ cause, ((quantity i.mirrored).run s).1 = .error (.unsatisfiable cause)) := by
  have hagree := agree_quantity hside hroom s
  generalize ((quantity i).run s).1 = result at hagree
  generalize ((quantity i.mirrored).run s).1 = result' at hagree
  cases hagree with
  | broken cause cause' => simp
  | vain cause cause' => simp
  | @made q q' hopposite =>
    have hsame : ∀ v : Number, q'.value.same v.neg = q.value.same v := fun v =>
      Number.same_of_opposite hopposite (Number.opposite_neg v)
    simp [hsame]

/-- An interval in which the candidates of a search below zero come into the gap behind the limit. -/
def underByteLimit : Interval :=
  { low := .double (.ofRatio false 1266 10), high := .int 127, width? := some .byte }

theorem quantity_mirrored_underByteLimit :
    Interval.zero.le underByteLimit.low = true ∧
    (∀ width, underByteLimit.width? = some width → width.isIntegral = true →
      underByteLimit.high.le width.limits.2 = true) ∧
    (∀ v, (∃ q, ((quantity underByteLimit).run ()).1 = .ok q ∧ q.value.same v = true) ↔
      ∃ q, ((quantity underByteLimit.mirrored).run ()).1 = .ok q ∧ q.value.same v.neg = true) ∧
    ((∃ cause, ((quantity underByteLimit).run ()).1 = .error (.unsatisfiable cause)) ↔
      ∃ cause, ((quantity underByteLimit.mirrored).run ()).1 = .error (.unsatisfiable cause)) := by
  have hside : Interval.zero.le underByteLimit.low = true := by decide +kernel
  have hroom : ∀ width, underByteLimit.width? = some width → width.isIntegral = true →
      underByteLimit.high.le width.limits.2 = true := by
    intro width hwidth _
    cases hwidth
    decide +kernel
  exact ⟨hside, hroom, quantity_mirrored hside hroom ()⟩

end Generation

end TreePredicate
