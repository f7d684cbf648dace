import TreePredicate.Proofs.Number.Nearest

/-!
# Steps and midpoints in double precision

A search for a number between two others tries their midpoint and some steps away from one of them,
all of them rounded. Here is what the roundings leave of that, for places at distances `s ≤ e` from
zero, in units.

* `middleUnits` : the midpoint, as it is worked out; `middle_between` : it lies strictly between if a
  double does, and `middle_error` is how far it is off;
* `lt_step_ten`, `exists_step` : below `2 ^ 57` a step of ten leaves the start, and from `2 ^ 52` on
  one of the steps goes to the next double;
* `step_fraction` : a step from a number with a fraction comes to the next integer and less than one
  farther;
* `single_step_ten`, `single_middle_between` : the same after a rounding to single precision.
-/

set_option autoImplicit false

namespace TreePredicate

-- Unfolded, these are powers that no step may write out.
attribute [local irreducible] unitsPerOne unitsBound leastSingle

open Rounding Double

section Nearest

variable {kind : Nat → Prop} {s s' e e' y m : Nat}

/-- What lies behind the rounding of a number lies behind the number. -/
theorem lt_of_rounded_lt (h : RoundsTo kind s 1 s') (hm : kind m) (hlt : s' < m) : s < m := by
  by_contra hle
  have := h.ge Nat.one_pos hm (by omega)
  omega

theorem lt_of_lt_rounded (h : RoundsTo kind e 1 e') (hm : kind m) (hlt : m < e') : m < e := by
  by_contra hle
  have := h.le Nat.one_pos hm (by omega)
  omega

/-- The rounded midpoint lies strictly between two numbers if another of the kind does. -/
theorem between_of_roundsTo (h : RoundsTo kind (s + e) 2 m) (hy : kind y) (hs : s < y) (he : y < e) :
    s < m ∧ m < e :=
  ⟨h.lt_of_middle_lt hy hs (by omega), h.lt_of_lt_middle hy he (by omega)⟩

end Nearest

/-! ## Midpoints -/

/-- Half of an even number of units is exact. -/
theorem significant_half {t : Nat} (h : Exact 53 (2 * t)) : significant 53 (2 * t) 2 = t := by
  have hround : RoundsTo (Exact 53) (2 * t) 2 _ :=
    roundsTo_significant (by decide) Nat.two_pos
  have ht := h.of_two_mul (by decide)
  exact Nat.le_antisymm (hround.le Nat.two_pos ht (by omega)) (hround.ge Nat.two_pos ht (by omega))

/-- An odd number of units has not been rounded. -/
theorem doubleUnits_of_odd {x : Nat} (h : doubleUnits x % 2 = 1) : doubleUnits x = x := by
  have hplaces : excess 53 x 1 = 0 := by
    by_contra hpos
    obtain ⟨k, hk⟩ : ∃ k, excess 53 x 1 = k + 1 := ⟨excess 53 x 1 - 1, by omega⟩
    unfold doubleUnits at h
    rw [significant_eq, hk, Nat.pow_succ, ← Nat.mul_assoc, Nat.mul_mod_left] at h
    omega
  unfold doubleUnits
  rw [significant_eq, hplaces, Nat.pow_zero, Nat.mul_one, Nat.mul_one,
    nearest_of_dvd Nat.one_pos (Nat.one_dvd x), Nat.div_one]

/-- The units of the midpoint: half of the exact sum of integers, and half of the rounded sum of
doubles, each of the three rounded. -/
def middleUnits (integers : Bool) (s e : Nat) : Nat :=
  if integers then significant 53 (s + e) 2
  else significant 53 (doubleUnits (doubleUnits s + doubleUnits e)) 2

section Middle

variable {integers : Bool} {s e y : Nat}

theorem middleUnits_integers (s e : Nat) : middleUnits true s e = significant 53 (s + e) 2 :=
  if_pos rfl

theorem middleUnits_doubles (s e : Nat) : middleUnits false s e =
    significant 53 (doubleUnits (doubleUnits s + doubleUnits e)) 2 :=
  if_neg Bool.false_ne_true

theorem middleUnits_comm (integers : Bool) (s e : Nat) :
    middleUnits integers s e = middleUnits integers e s := by
  unfold middleUnits
  rw [Nat.add_comm s, Nat.add_comm (doubleUnits s)]

theorem exact_middle (integers : Bool) (s e : Nat) : Exact 53 (middleUnits integers s e) := by
  unfold middleUnits
  split
  · exact exact_significant (by decide) _ _
  · exact exact_significant (by decide) _ _

/-- The midpoint of two doubles lies strictly between them if another double does. -/
theorem between_doubles (hy : Exact 53 y) (hs : s < y) (he : y < e) :
    s < significant 53 (doubleUnits (s + e)) 2 ∧ significant 53 (doubleUnits (s + e)) 2 < e := by
  rcases Nat.mod_two_eq_zero_or_one (doubleUnits (s + e)) with heven | hodd
  · -- Then half of the sum is exact, and twice a double is a double.
    obtain ⟨t, ht⟩ : ∃ t, doubleUnits (s + e) = 2 * t := ⟨doubleUnits (s + e) / 2, by omega⟩
    have hsum := roundsTo_doubleUnits (s + e)
    rw [ht] at hsum ⊢
    rw [significant_half hsum.mem]
    have htwice : Exact 53 (y * 2 ^ 1) := hy.mul_two_pow (by decide) 1
    have hlow : 2 * s < 2 * t := hsum.lt_of_middle_lt htwice (by omega) (by omega)
    have hhigh : 2 * t < 2 * e := hsum.lt_of_lt_middle htwice (by omega) (by omega)
    omega
  · -- Then the sum itself is exact.
    rw [doubleUnits_of_odd hodd]
    exact between_of_roundsTo (roundsTo_significant (by decide) Nat.two_pos) hy hs he

/-- A midpoint lies strictly between two numbers if a double does, and if it still does once they are
doubles themselves. -/
theorem middle_between (hy : Exact 53 y) (hs : s < y) (he : y < e)
    (hrounded : integers = false → doubleUnits s < y ∧ y < doubleUnits e) :
    s < middleUnits integers s e ∧ middleUnits integers s e < e := by
  cases integers with
  | true => exact between_of_roundsTo (roundsTo_significant (by decide) Nat.two_pos) hy hs he
  | false =>
    obtain ⟨hs', he'⟩ := hrounded rfl
    obtain ⟨hlow, hhigh⟩ := between_doubles hy hs' he'
    have hmem := exact_middle false s e
    exact ⟨lt_of_rounded_lt (roundsTo_doubleUnits s) hmem hlow,
      lt_of_lt_rounded (roundsTo_doubleUnits e) hmem hhigh⟩

theorem half_error (x : Nat) :
    2 ^ 53 * (significant 53 x 2 * 2) ≤ (2 ^ 53 + 1) * x + 2 ^ 52 * 2 ∧
      2 ^ 53 * x ≤ 2 ^ 53 * (significant 53 x 2 * 2) + x + 2 ^ 52 * 2 :=
  significant_error Nat.two_pos

theorem doubleUnits_error (x : Nat) :
    2 ^ 53 * (doubleUnits x * 1) ≤ (2 ^ 53 + 1) * x + 2 ^ 52 * 1 ∧
      2 ^ 53 * x ≤ 2 ^ 53 * (doubleUnits x * 1) + x + 2 ^ 52 * 1 :=
  significant_error Nat.one_pos

/-- How far a midpoint is off. -/
theorem middle_error (integers : Bool) (s e : Nat) :
    2 ^ 50 * (2 * middleUnits integers s e) ≤ (2 ^ 50 + 1) * (s + e) + 2 ^ 54 ∧
      2 ^ 50 * (s + e) ≤ 2 ^ 50 * (2 * middleUnits integers s e) + (s + e) + 2 ^ 54 := by
  unfold middleUnits
  split
  · have h := half_error (s + e)
    omega
  · have hs := doubleUnits_error s
    have he := doubleUnits_error e
    have hsum := doubleUnits_error (doubleUnits s + doubleUnits e)
    have hhalf := half_error (doubleUnits (doubleUnits s + doubleUnits e))
    constructor <;> linarith

end Middle

/-! ## Whole numbers -/

theorem unitsPerOne_eq_single : unitsPerOne = leastSingle * 2 ^ 149 := by decide +kernel

theorem unitsPerOne_eq_two_pow : ∃ k, unitsPerOne = Nat.pow 2 (k + 1) :=
  ⟨1073, by decide +kernel⟩

/-- Integers of at most 53 digits are doubles. -/
theorem exact_ones {m : Nat} (h : m ≤ 2 ^ 53) (k : Nat) : Exact 53 (m * 2 ^ k * unitsPerOne) := by
  obtain ⟨j, hj⟩ := unitsPerOne_eq_two_pow
  rw [hj, Nat.pow_eq]
  exact (exact_mul (by decide) h k).mul_two_pow (by decide) (j + 1)

theorem exact_integer {m : Nat} (h : m ≤ 2 ^ 53) : Exact 53 (m * unitsPerOne) := by
  have := exact_ones h 0
  rwa [Nat.pow_zero, Nat.mul_one] at this

/-- Integers of at most 24 digits are single precision numbers. -/
theorem single_ones {m : Nat} (h : m ≤ 2 ^ 24) (k : Nat) : Single (m * 2 ^ k * unitsPerOne) := by
  have hone : Single (m * 2 ^ k * leastSingle) := ⟨_, exact_mul (by decide) h k, rfl⟩
  rw [unitsPerOne_eq_single, ← Nat.mul_assoc]
  exact hone.mul_two_pow 149

/-- Large doubles are multiples of large powers of two. -/
theorem dvd_of_exact {x k : Nat} (h : Exact 53 x) (hle : 2 ^ (52 + k) * unitsPerOne ≤ x) :
    2 ^ k * unitsPerOne ∣ x := by
  obtain ⟨j, hj⟩ := unitsPerOne_eq_two_pow
  rw [hj, Nat.pow_eq, ← Nat.pow_add] at hle ⊢
  exact Exact.dvd h (by rwa [← Nat.add_assoc])

/-- The integer behind a number. -/
theorem exists_integer_behind (s : Nat) :
    ∃ q, q * unitsPerOne ≤ s ∧ s < (q + 1) * unitsPerOne := by
  refine ⟨s / unitsPerOne, Nat.div_mul_le_self s unitsPerOne, ?_⟩
  rw [Nat.mul_comm]
  exact Nat.lt_mul_div_succ s unitsPerOne_pos

/-! ## Steps -/

section Step

variable {s e y : Nat}

/-- A multiple of sixteen lies not far behind. -/
theorem exists_multiple_behind (bits : Nat) (hs : s < 2 ^ (bits + 4) * unitsPerOne) :
    ∃ m, m ≤ 2 ^ bits ∧ s < m * 2 ^ 4 * unitsPerOne ∧
      m * 2 ^ 4 * unitsPerOne ≤ s + 16 * unitsPerOne := by
  have pos : 0 < 2 ^ 4 * unitsPerOne := Nat.mul_pos (by decide) unitsPerOne_pos
  have hlow := Nat.div_mul_le_self s (2 ^ 4 * unitsPerOne)
  have hhigh := Nat.lt_mul_div_succ s pos
  have hquotient : s / (2 ^ 4 * unitsPerOne) < 2 ^ bits := by
    rw [Nat.div_lt_iff_lt_mul pos, ← Nat.mul_assoc, ← Nat.pow_add]
    exact hs
  refine ⟨s / (2 ^ 4 * unitsPerOne) + 1, hquotient, ?_, ?_⟩
  · rw [Nat.mul_assoc, Nat.mul_comm]
    exact hhigh
  · rw [Nat.mul_assoc, Nat.add_mul]
    omega

/-- A step of ten leaves a start that is not too large. -/
theorem lt_step_ten (hs : s < 2 ^ 57 * unitsPerOne) :
    s < doubleUnits (s + 10 * unitsPerOne) := by
  obtain ⟨m, hm, hlt, hle⟩ := exists_multiple_behind 53 hs
  have pos := unitsPerOne_pos
  exact (roundsTo_doubleUnits _).lt_of_middle_lt (exact_ones hm 4) hlt (by omega)

/-- A step of ten does not go far. -/
theorem step_ten_le (hs : s < 2 ^ 57 * unitsPerOne) :
    doubleUnits (s + 10 * unitsPerOne) ≤ 2 ^ 58 * unitsPerOne := by
  refine (roundsTo_doubleUnits _).le Nat.one_pos (exact_ones (m := 1) (by decide) 58) ?_
  omega

/-- A step of at least half the distance to the next double and less than one and a half goes
there. -/
theorem step_next {k step : Nat} (hs : Exact 53 s) (hlow : 2 ^ (52 + k) * unitsPerOne ≤ s)
    (hhigh : s < 2 ^ (53 + k) * unitsPerOne) (hmore : 2 ^ k * unitsPerOne < 2 * step)
    (hless : 2 * step < 3 * (2 ^ k * unitsPerOne)) :
    doubleUnits (s + step) = s + 2 ^ k * unitsPerOne := by
  have hround := roundsTo_doubleUnits (s + step)
  obtain ⟨m, hm⟩ := dvd_of_exact hs hlow
  have hnext : Exact 53 (s + 2 ^ k * unitsPerOne) := by
    have hcount : m < 2 ^ 53 := by
      refine Nat.lt_of_mul_lt_mul_left (a := 2 ^ k * unitsPerOne) ?_
      rw [← hm, Nat.mul_comm, ← Nat.mul_assoc, ← Nat.pow_add]
      exact hhigh
    have hsum := exact_ones (Nat.succ_le_of_lt hcount) k
    rwa [Nat.succ_eq_add_one, Nat.add_mul, Nat.one_mul, Nat.add_mul, Nat.mul_assoc,
      Nat.mul_comm m, ← hm] at hsum
  have pos : 0 < 2 ^ k * unitsPerOne := Nat.mul_pos (Nat.two_pow_pos k) unitsPerOne_pos
  have hbehind := hround.lt_of_middle_lt hnext (by omega : s < s + 2 ^ k * unitsPerOne) (by omega)
  have hbefore := hround.lt_of_lt_middle hnext
    (by omega : s + 2 ^ k * unitsPerOne < s + 2 * (2 ^ k * unitsPerOne)) (by omega)
  obtain ⟨n, hn⟩ := dvd_of_exact hround.mem (Nat.le_trans hlow hbehind.le)
  -- Between these two bounds there is one multiple of the place.
  rw [hn, hm] at hbehind hbefore
  rw [hn, hm]
  generalize 2 ^ k * unitsPerOne = place at *
  have hmn : m < n := Nat.lt_of_mul_lt_mul_left hbehind
  have hnm : n < m + 2 := Nat.lt_of_mul_lt_mul_left (a := place) (by linarith)
  rw [show n = m + 1 by omega, Nat.mul_add, Nat.mul_one]

/-- Below `2 ^ 57` one of the steps goes no farther than the next double, provided that this is not
less than one away. -/
theorem exists_step (hs : Exact 53 s) (hsmall : s < 2 ^ 57 * unitsPerOne) (hy : Exact 53 y)
    (hlt : s < y) (hfar : 2 ^ 52 * unitsPerOne ≤ s ∨ s + unitsPerOne ≤ y) :
    ∃ k ∈ [1, 2, 5, 10], s < doubleUnits (s + k * unitsPerOne) ∧
      doubleUnits (s + k * unitsPerOne) ≤ y := by
  have pos := unitsPerOne_pos
  by_cases hlarge : 2 ^ 52 * unitsPerOne ≤ s
  · -- One step for each of the five distances between doubles.
    have hnext : ∀ j k, 2 ^ (52 + j) * unitsPerOne ≤ s → s < 2 ^ (53 + j) * unitsPerOne →
        2 ^ j < 2 * k → 2 * k < 3 * 2 ^ j → s < doubleUnits (s + k * unitsPerOne) ∧
          doubleUnits (s + k * unitsPerOne) ≤ y := by
      intro j k hlow hhigh hmore hless
      have hplace : 0 < 2 ^ j * unitsPerOne := Nat.mul_pos (Nat.two_pow_pos j) pos
      have hmore' := Nat.mul_lt_mul_of_pos_right hmore pos
      have hless' := Nat.mul_lt_mul_of_pos_right hless pos
      rw [Nat.mul_assoc] at hmore' hless'
      rw [Nat.mul_assoc] at hless'
      rw [step_next hs hlow hhigh hmore' hless']
      obtain ⟨m, rfl⟩ := dvd_of_exact hs hlow
      obtain ⟨n, rfl⟩ := dvd_of_exact hy (Nat.le_trans hlow hlt.le)
      have hmn := Nat.mul_le_mul_left (2 ^ j * unitsPerOne)
        (Nat.succ_le_of_lt (Nat.lt_of_mul_lt_mul_left hlt))
      rw [Nat.mul_succ] at hmn
      omega
    by_cases h53 : s < 2 ^ 53 * unitsPerOne
    · exact ⟨1, by simp, hnext 0 1 hlarge h53 (by decide) (by decide)⟩
    by_cases h54 : s < 2 ^ 54 * unitsPerOne
    · exact ⟨2, by simp, hnext 1 2 (Nat.le_of_not_lt h53) h54 (by decide) (by decide)⟩
    by_cases h55 : s < 2 ^ 55 * unitsPerOne
    · exact ⟨5, by simp, hnext 2 5 (Nat.le_of_not_lt h54) h55 (by decide) (by decide)⟩
    by_cases h56 : s < 2 ^ 56 * unitsPerOne
    · exact ⟨5, by simp, hnext 3 5 (Nat.le_of_not_lt h55) h56 (by decide) (by decide)⟩
    · exact ⟨10, by simp, hnext 4 10 (Nat.le_of_not_lt h56) hsmall (by decide) (by decide)⟩
  · have hround := roundsTo_doubleUnits (s + 1 * unitsPerOne)
    obtain ⟨q, hlow, hhigh⟩ := exists_integer_behind s
    have hq : q < 2 ^ 52 := Nat.lt_of_mul_lt_mul_right (a := unitsPerOne) (by omega)
    have hinteger := exact_integer (m := q + 1) (by omega)
    rw [Nat.add_mul] at hhigh hinteger
    exact ⟨1, by simp, hround.lt_of_middle_lt hinteger hhigh (by omega),
      hround.le Nat.one_pos hy (by omega)⟩

/-- A rounded integer that has moved lies at least one behind, and so does the next one. -/
theorem step_one_of_lt {n : Nat} (h : n * unitsPerOne < doubleUnits (n * unitsPerOne)) :
    n * unitsPerOne + unitsPerOne ≤ doubleUnits (n * unitsPerOne) ∧
      doubleUnits (n * unitsPerOne + unitsPerOne) = doubleUnits (n * unitsPerOne) := by
  have hround := roundsTo_doubleUnits (n * unitsPerOne)
  have hround' := roundsTo_doubleUnits (n * unitsPerOne + unitsPerOne)
  have hlarge : 2 ^ 53 < n := by
    by_contra hsmall
    have := hround.eq_self (exact_integer (Nat.le_of_not_lt hsmall))
    omega
  have hbound := Nat.mul_le_mul_right unitsPerOne hlarge.le
  have hpower : Exact 53 (2 ^ 53 * unitsPerOne) := exact_integer (Nat.le_refl _)
  have hge := hround.ge Nat.one_pos hpower (by omega)
  have hwhole : unitsPerOne ∣ doubleUnits (n * unitsPerOne) := by
    have := dvd_of_exact (k := 0) hround.mem (by omega)
    rwa [Nat.pow_zero, Nat.one_mul] at this
  obtain ⟨m, hm⟩ := hwhole
  rw [hm, Nat.mul_comm unitsPerOne] at h
  have hmn := Nat.mul_le_mul_right unitsPerOne
    (Nat.succ_le_of_lt (Nat.lt_of_mul_lt_mul_right h))
  rw [Nat.succ_mul] at hmn
  rw [Nat.mul_comm unitsPerOne] at hm
  have pos := unitsPerOne_pos
  refine ⟨by omega, Nat.le_antisymm (hround'.le Nat.one_pos hround.mem (by omega)) ?_⟩
  exact hround.mono hround' (by omega)

/-! ## Numbers with a fraction -/

/-- A double with a fraction is less than `2 ^ 52`. -/
theorem lt_of_not_dvd (hs : Exact 53 s) (hnot : ¬ unitsPerOne ∣ s) : s < 2 ^ 52 * unitsPerOne := by
  by_contra hlarge
  have := dvd_of_exact (k := 0) hs (Nat.le_of_not_lt hlarge)
  rw [Nat.pow_zero, Nat.one_mul] at this
  exact hnot this

/-- The units of one half. -/
def halfUnits : Nat := significant 53 unitsPerOne 2

theorem two_mul_halfUnits : 2 * halfUnits = unitsPerOne := by
  obtain ⟨k, hk⟩ := unitsPerOne_eq_two_pow
  have htwice : unitsPerOne = 2 * 2 ^ k := by
    rw [hk, Nat.pow_eq, Nat.pow_succ, Nat.mul_comm]
  have hexact : Exact 53 (2 * 2 ^ k) := exact_mul (by decide) (by decide) k
  unfold halfUnits
  rw [htwice, significant_half hexact]

/-- A step of one half or of one comes from a number with a fraction to the next integer and less
than one farther. -/
theorem step_fraction {q : Nat} (hlow : q * unitsPerOne < s) (hhigh : s < (q + 1) * unitsPerOne)
    (hq : q < 2 ^ 52) :
    ∃ step, (step = halfUnits ∨ step = 1 * unitsPerOne) ∧
      (q + 1) * unitsPerOne ≤ doubleUnits (s + step) ∧
        doubleUnits (s + step) < (q + 2) * unitsPerOne := by
  have hinteger := exact_integer (m := q + 1) (by omega)
  have hhalf := two_mul_halfUnits
  have pos := unitsPerOne_pos
  rw [Nat.add_mul] at hhigh
  have hbounds : ∀ step, (q + 1) * unitsPerOne ≤ s + step →
      2 * (s + step) < (2 * q + 3) * unitsPerOne →
      (q + 1) * unitsPerOne ≤ doubleUnits (s + step) ∧
        doubleUnits (s + step) < (q + 2) * unitsPerOne := by
    intro step hle hlt
    have hround := roundsTo_doubleUnits (s + step)
    exact ⟨hround.ge Nat.one_pos hinteger (by omega), hround.lt_of_lt_middle hinteger
      (Nat.mul_lt_mul_of_pos_right (by omega) pos) (by linarith)⟩
  rcases Nat.lt_or_ge (2 * s) ((2 * q + 1) * unitsPerOne) with hless | hmore
  · refine ⟨1 * unitsPerOne, .inr rfl, hbounds _ ?_ ?_⟩ <;> linarith
  · refine ⟨halfUnits, .inl rfl, hbounds _ ?_ ?_⟩ <;> linarith

end Step

/-! ## Single precision -/

section Single

variable {integers : Bool} {s e y z : Nat}

theorem single_le (hz : Single z) (h : y ≤ z) : singleUnits (doubleUnits y) ≤ z := by
  have hdouble := (roundsTo_doubleUnits y).le Nat.one_pos hz.exact (by omega)
  exact (roundsTo_singleUnits _).le Nat.one_pos hz (by omega)

theorem le_single (hz : Single z) (h : z ≤ y) : z ≤ singleUnits (doubleUnits y) := by
  have hdouble := (roundsTo_doubleUnits y).ge Nat.one_pos hz.exact (by omega)
  exact (roundsTo_singleUnits _).ge Nat.one_pos hz (by omega)

/-- A step of ten leaves a start that is not too large, also in single precision. -/
theorem single_step_ten (hs : s < 2 ^ 28 * unitsPerOne) :
    s < singleUnits (doubleUnits (s + 10 * unitsPerOne)) := by
  obtain ⟨m, hm, hlt, hle⟩ := exists_multiple_behind 24 hs
  obtain ⟨q, hlow, hhigh⟩ := exists_integer_behind (s + 10 * unitsPerOne)
  have pos := unitsPerOne_pos
  have hq : q ≤ 2 ^ 53 := by
    refine Nat.le_of_lt (Nat.lt_of_mul_lt_mul_right (a := unitsPerOne) ?_)
    omega
  have hge := (roundsTo_doubleUnits (s + 10 * unitsPerOne)).ge Nat.one_pos (exact_integer hq)
    (by omega)
  rw [Nat.add_mul] at hhigh
  exact (roundsTo_singleUnits _).lt_of_middle_lt (single_ones hm 4) hlt (by omega)

theorem single_step_ten_le (hs : s < 2 ^ 28 * unitsPerOne) :
    singleUnits (doubleUnits (s + 10 * unitsPerOne)) ≤ 2 ^ 29 * unitsPerOne := by
  have hbound : Single (1 * 2 ^ 29 * unitsPerOne) := single_ones (by decide) 29
  rw [Nat.one_mul] at hbound
  exact single_le hbound (by omega)

/-- A number before another one, doubled as often as possible. -/
theorem exists_doubled (hy : 0 < y) (h : y < e) :
    ∃ k, y * 2 ^ k < e ∧ e ≤ 2 * (y * 2 ^ k) := by
  have hquotient : (e - 1) / y ≠ 0 := by
    have := Nat.div_pos (by omega : y ≤ e - 1) hy
    omega
  refine ⟨((e - 1) / y).log2, ?_, ?_⟩
  · have := (Nat.le_div_iff_mul_le hy).mp (Nat.log2_self_le hquotient)
    rw [Nat.mul_comm]
    omega
  · have := (Nat.div_lt_iff_lt_mul hy).mp (Nat.lt_log2_self (n := (e - 1) / y))
    rw [Nat.pow_succ, Nat.mul_comm _ 2, Nat.mul_assoc, Nat.mul_comm _ y] at this
    omega

/-- The midpoint lies strictly between two numbers also in single precision, if two single precision
numbers do. -/
theorem single_middle_between (hy : Single y) (hz : Single z) (hs : s < y) (hyz : y < z)
    (he : z < e) :
    s < singleUnits (middleUnits integers s e) ∧ singleUnits (middleUnits integers s e) < e := by
  obtain ⟨herror, herror'⟩ := middle_error integers s e
  have hround := roundsTo_singleUnits (middleUnits integers s e)
  have hplace : 2 ^ 60 ≤ leastSingle := by decide +kernel
  -- The number before the end is doubled until the end is at most twice as far from zero.
  obtain ⟨k, hbefore, htwice⟩ := exists_doubled (by omega : 0 < z) he
  have hlast := hz.mul_two_pow k
  have hle : z ≤ z * 2 ^ k := Nat.le_mul_of_pos_right z (Nat.two_pow_pos k)
  generalize z * 2 ^ k = last at *
  obtain ⟨hgap, hspacing⟩ := hy.lt_spacing hlast (by omega)
  constructor
  · refine hround.lt_of_middle_lt hy hs ?_
    omega
  · refine hround.lt_of_lt_middle hlast hbefore ?_
    omega

end Single

end TreePredicate
