import TreePredicate.Proofs.Number.Range

/-!
# Rounding to the nearest number of a kind

A rounding is to the nearest if it never passes the middle between two numbers of its kind. All else
that is used of it follows from that: it crosses no number of the kind, leaves such a number alone
and keeps the order.

* `Exact bits` : the numbers of at most so many significant binary digits; `Exact.dvd` : large ones
  are multiples of large powers of two, so that they lie far apart (`Exact.lt_spacing`);
* `RoundsTo` : rounding to the nearest; `RoundsTo.le`, `RoundsTo.ge`, `RoundsTo.mono`;
* `roundsTo_significant` : rounding to so many digits is to the nearest; `significant_error` : and it
  changes a number little;
* `Double.doubleUnits`, `Single` : the nearest double, and single precision numbers, in units.
-/

set_option autoImplicit false

namespace TreePredicate

-- Unfolded, these are powers that no step may write out.
attribute [local irreducible] unitsPerOne unitsBound greatestInteger lastPlace integerLimit

namespace Rounding

/-! ## Numbers of few digits -/

/-- A number of at most `bits` significant binary digits. -/
def Exact (bits x : Nat) : Prop := significant bits x 1 = x

section Exact

variable {bits x y k : Nat}

theorem exact_significant (hbits : 0 < bits) (num den : Nat) :
    Exact bits (significant bits num den) :=
  significant_significant hbits num den

theorem exact_mul (hbits : 0 < bits) (h : x ≤ 2 ^ bits) (k : Nat) : Exact bits (x * 2 ^ k) :=
  significant_of_factor hbits h

theorem exact_iff (hbits : 0 < bits) : Exact bits x ↔ ∃ m k, m ≤ 2 ^ bits ∧ x = m * 2 ^ k := by
  constructor
  · intro h
    exact ⟨_, _, nearest_excess_le bits x 1, h.symm⟩
  · rintro ⟨m, k, hm, rfl⟩
    exact exact_mul hbits hm k

theorem exact_of_le (hbits : 0 < bits) (h : x ≤ 2 ^ bits) : Exact bits x := by
  have := exact_mul hbits h 0
  rwa [Nat.pow_zero, Nat.mul_one] at this

theorem Exact.mul_two_pow (hbits : 0 < bits) (h : Exact bits x) (k : Nat) :
    Exact bits (x * 2 ^ k) := by
  obtain ⟨m, j, hm, rfl⟩ := (exact_iff hbits).mp h
  rw [Nat.mul_assoc, ← Nat.pow_add]
  exact exact_mul hbits hm (j + k)

theorem Exact.mono {more : Nat} (hbits : 0 < bits) (hle : bits ≤ more) (h : Exact bits x) :
    Exact more x := by
  obtain ⟨m, j, hm, rfl⟩ := (exact_iff hbits).mp h
  exact exact_mul (by omega) (Nat.le_trans hm (Nat.pow_le_pow_right (by decide) hle)) j

/-- Half of an even number of few digits has no more digits. -/
theorem Exact.of_two_mul (hbits : 0 < bits) (h : Exact bits (2 * x)) : Exact bits x := by
  obtain ⟨m, j, hm, hx⟩ := (exact_iff hbits).mp h
  cases j with
  | zero => exact exact_of_le hbits (by omega)
  | succ j =>
    have hhalf : x = m * 2 ^ j := by
      rw [Nat.pow_succ] at hx
      have hmul : m * (2 ^ j * 2) = 2 * (m * 2 ^ j) := by ring
      omega
    exact hhalf ▸ exact_mul hbits hm j

/-- A large number of few digits is a multiple of a large power of two. -/
theorem Exact.dvd (h : Exact (bits + 1) x) (hlarge : 2 ^ (bits + k) ≤ x) : 2 ^ k ∣ x := by
  obtain ⟨m, j, hm, rfl⟩ := (exact_iff (Nat.succ_pos bits)).mp h
  rcases Nat.lt_or_ge j k with hjk | hkj
  · -- Only the power of two itself has one place less.
    have hlow : 2 ^ (bits + 1) * 2 ^ (k - 1) ≤ m * 2 ^ j := by
      rw [← Nat.pow_add, show bits + 1 + (k - 1) = bits + k by omega]
      exact hlarge
    have hj : 2 ^ j ≤ 2 ^ (k - 1) := Nat.pow_le_pow_right (by decide) (by omega)
    have hhigh : m * 2 ^ j ≤ 2 ^ (bits + 1) * 2 ^ (k - 1) := Nat.mul_le_mul hm hj
    rw [Nat.le_antisymm hhigh hlow, ← Nat.pow_add]
    exact Nat.pow_dvd_pow 2 (by omega)
  · exact Nat.dvd_trans (Nat.pow_dvd_pow 2 hkj) (Nat.dvd_mul_left _ _)

/-- Numbers of few digits are never close to each other. -/
theorem Exact.lt_spacing {d : Nat} (hx : Exact (bits + 1) x) (hy : Exact (bits + 1) (x + d))
    (hd : 0 < d) : x < 2 ^ (bits + 1) * d := by
  rcases Nat.lt_or_ge x (2 ^ (bits + 1)) with hsmall | hlarge
  · exact Nat.lt_of_lt_of_le hsmall (Nat.le_mul_of_pos_right _ hd)
  · have hpos : x ≠ 0 := by
      have := Nat.two_pow_pos (bits + 1)
      omega
    have hlog : bits + 1 ≤ x.log2 := (Nat.le_log2 hpos).mpr hlarge
    obtain ⟨k, hk⟩ : ∃ k, x.log2 = bits + k := ⟨x.log2 - bits, by omega⟩
    have hlow : 2 ^ (bits + k) ≤ x := hk ▸ Nat.log2_self_le hpos
    have hplace : 2 ^ k ∣ d := (Nat.dvd_add_right (hx.dvd hlow)).mp (hy.dvd (by omega))
    calc x < 2 ^ (x.log2 + 1) := Nat.lt_log2_self
      _ = 2 ^ (bits + 1) * 2 ^ k := by rw [hk, ← Nat.pow_add, Nat.add_right_comm]
      _ ≤ 2 ^ (bits + 1) * d := Nat.mul_le_mul_left _ (Nat.le_of_dvd hd hplace)

end Exact

/-! ## Rounding to the nearest -/

/-- The quotient `num / den` is rounded to the nearest number of a kind: to one that does not lie
behind the middle between the quotient's side and any other. -/
structure RoundsTo (kind : Nat → Prop) (num den rounded : Nat) : Prop where
  mem : kind rounded
  lt_of_lt_middle : ∀ {z b}, kind z → z < b → 2 * num < (z + b) * den → rounded < b
  lt_of_middle_lt : ∀ {a z}, kind z → a < z → (a + z) * den < 2 * num → a < rounded

namespace RoundsTo

variable {kind : Nat → Prop} {num num' den r r' z : Nat}

/-- Rounding does not pass a number of the kind. -/
theorem le (h : RoundsTo kind num den r) (pos : 0 < den) (hz : kind z) (hle : num ≤ z * den) :
    r ≤ z := by
  refine Nat.le_of_lt_succ (h.lt_of_lt_middle hz (Nat.lt_succ_self z) ?_)
  have hsum : (z + z.succ) * den = 2 * (z * den) + den := by
    rw [Nat.succ_eq_add_one]
    ring
  omega

/-- Rounding does not pass a number of the kind. -/
theorem ge (h : RoundsTo kind num den r) (pos : 0 < den) (hz : kind z) (hle : z * den ≤ num) :
    z ≤ r := by
  cases z with
  | zero => exact Nat.zero_le r
  | succ a =>
    refine h.lt_of_middle_lt hz (Nat.lt_succ_self a) ?_
    have hsum : (a + (a + 1)) * den + den = 2 * ((a + 1) * den) := by ring
    omega

/-- A number of the kind is left alone. -/
theorem eq_self (h : RoundsTo kind num 1 r) (hnum : kind num) : r = num :=
  Nat.le_antisymm (h.le Nat.one_pos hnum (Nat.mul_one num).ge)
    (h.ge Nat.one_pos hnum (Nat.mul_one num).le)

/-- Rounding keeps the order. -/
theorem mono (h : RoundsTo kind num den r) (h' : RoundsTo kind num' den r') (hlt : num < num') :
    r ≤ r' := by
  by_contra hnot
  rw [Nat.not_le] at hnot
  -- Both quotients would lie at the middle between the two numbers.
  have hfar : (r' + r) * den ≤ 2 * num := by
    by_contra hnear
    have := h.lt_of_lt_middle h'.mem hnot (by omega)
    omega
  have hnear : 2 * num' ≤ (r' + r) * den := by
    by_contra hpast
    have := h'.lt_of_middle_lt h.mem hnot (by omega)
    omega
  omega

end RoundsTo

/-! ## Rounding to so many digits -/

section Significant

variable {bits num den z a b : Nat}

/-- What lies before the middle between a multiple of the last place and another number is not
rounded to that number. -/
theorem significant_lt_of_dvd (pos : 0 < den) (hz : 2 ^ excess bits num den ∣ z) (hlt : z < b)
    (hmiddle : 2 * num < (z + b) * den) : significant bits num den < b := by
  obtain ⟨w, rfl⟩ := hz
  have herror := nearest_mul_le (Nat.mul_pos pos (Nat.two_pow_pos (excess bits num den))) num
  rw [significant_eq]
  generalize nearest num (den * 2 ^ excess bits num den) = n at herror ⊢
  generalize 2 ^ excess bits num den = place at *
  by_contra hge
  rw [Nat.not_lt] at hge
  have hw : w + 1 ≤ n := Nat.lt_of_mul_lt_mul_left (a := place) (by linarith)
  have hplace := Nat.mul_le_mul_right (place * den) hw
  have hb := Nat.mul_le_mul_right den hge
  linarith

theorem lt_significant_of_dvd (pos : 0 < den) (hz : 2 ^ excess bits num den ∣ z) (hlt : a < z)
    (hmiddle : (a + z) * den < 2 * num) : a < significant bits num den := by
  obtain ⟨w, rfl⟩ := hz
  have herror := two_mul_le_nearest (Nat.mul_pos pos (Nat.two_pow_pos (excess bits num den))) num
  rw [significant_eq]
  generalize nearest num (den * 2 ^ excess bits num den) = n at herror ⊢
  generalize 2 ^ excess bits num den = place at *
  by_contra hge
  rw [Nat.not_lt] at hge
  have hw : n + 1 ≤ w := Nat.lt_of_mul_lt_mul_left (a := place) (by linarith)
  have hplace := Nat.mul_le_mul_right (place * den) hw
  have ha := Nat.mul_le_mul_right den hge
  linarith

/-- What is rounded at all reaches the leading place. -/
theorem leading_le (pos : 0 < den) (hplaces : excess (bits + 1) num den ≠ 0) :
    2 ^ (bits + excess (bits + 1) num den) * den ≤ num := by
  have hlog : (num / den).log2 = bits + excess (bits + 1) num den := by
    unfold excess at hplaces ⊢
    omega
  have hquotient : num / den ≠ 0 := by
    intro hzero
    rw [hzero, Nat.log2_zero] at hlog
    omega
  rw [← hlog]
  exact (Nat.le_div_iff_mul_le pos).mp (Nat.log2_self_le hquotient)

/-- A number of so many digits that is no multiple of the last place lies before the leading one. -/
theorem exists_leading (pos : 0 < den) (hnot : ¬ 2 ^ excess (bits + 1) num den ∣ z)
    (hz : Exact (bits + 1) z) :
    ∃ leading, 2 ^ excess (bits + 1) num den ∣ leading ∧ z < leading ∧ leading * den ≤ num := by
  refine ⟨2 ^ (bits + excess (bits + 1) num den), Nat.pow_dvd_pow 2 (by omega),
    Nat.lt_of_not_le fun hle => hnot (hz.dvd hle), leading_le pos fun hzero => hnot ?_⟩
  rw [hzero, Nat.pow_zero]
  exact Nat.one_dvd z

/-- Rounding to so many digits is to the nearest number of so many digits. -/
theorem roundsTo_significant (hbits : 0 < bits) (pos : 0 < den) :
    RoundsTo (Exact bits) num den (significant bits num den) := by
  obtain ⟨bits, rfl⟩ : ∃ b, bits = b + 1 := Nat.exists_eq_add_one.mpr hbits
  refine ⟨exact_significant hbits num den, fun {z b} hz hlt hmiddle => ?_,
    fun {a z} hz hlt hmiddle => ?_⟩
  · by_cases hdvd : 2 ^ excess (bits + 1) num den ∣ z
    · exact significant_lt_of_dvd pos hdvd hlt hmiddle
    · obtain ⟨leading, hleading, hless, hle⟩ := exists_leading pos hdvd hz
      have hsum := Nat.mul_le_mul_right den (by omega : z + b ≤ leading + b)
      refine significant_lt_of_dvd pos hleading ?_ (by omega)
      refine Nat.lt_of_mul_lt_mul_right (a := den) ?_
      linarith
  · by_cases hdvd : 2 ^ excess (bits + 1) num den ∣ z
    · exact lt_significant_of_dvd pos hdvd hlt hmiddle
    · obtain ⟨leading, hleading, hless, hle⟩ := exists_leading pos hdvd hz
      have hsum := Nat.mul_lt_mul_of_pos_right (by omega : a + leading < 2 * leading) pos
      exact lt_significant_of_dvd pos hleading (by omega) (by linarith)

/-- The last place that is kept is small beside the quotient, or it is that of the ones. -/
theorem last_place_le (pos : 0 < den) :
    2 ^ bits * (2 ^ excess (bits + 1) num den * den) ≤ num + 2 ^ bits * den := by
  by_cases hplaces : excess (bits + 1) num den = 0
  · rw [hplaces, Nat.pow_zero, Nat.one_mul]
    omega
  · have hle := leading_le pos hplaces
    rw [Nat.pow_add, Nat.mul_assoc] at hle
    omega

/-- Rounding changes a number by little more than its last digit. -/
theorem significant_error (pos : 0 < den) :
    2 ^ (bits + 1) * (significant (bits + 1) num den * den) ≤
        (2 ^ (bits + 1) + 1) * num + 2 ^ bits * den ∧
      2 ^ (bits + 1) * num ≤
        2 ^ (bits + 1) * (significant (bits + 1) num den * den) + num + 2 ^ bits * den := by
  have hplace : 2 ^ bits * (2 ^ excess (bits + 1) num den * den) ≤ _ := last_place_le pos
  have hlow := nearest_mul_le (Nat.mul_pos pos (Nat.two_pow_pos (excess (bits + 1) num den))) num
  have hhigh := two_mul_le_nearest
    (Nat.mul_pos pos (Nat.two_pow_pos (excess (bits + 1) num den))) num
  rw [significant_eq, Nat.pow_succ]
  generalize nearest num (den * 2 ^ excess (bits + 1) num den) = n at *
  generalize 2 ^ excess (bits + 1) num den = place at *
  have hlow' := Nat.mul_le_mul_left (2 ^ bits) hlow
  have hhigh' := Nat.mul_le_mul_left (2 ^ bits) hhigh
  constructor <;> linarith

end Significant

end Rounding

/-! ## Doubles and single precision numbers -/

open Rounding

/-- The least positive single precision number, in units. -/
def leastSingle : Nat := Nat.pow 2 925

-- Unfolded, this is a power that no step may write out.
attribute [local irreducible] leastSingle

/-- So many units are those of a single precision number, however large. -/
def Single (units : Nat) : Prop := ∃ m, Exact 24 m ∧ units = m * leastSingle

theorem leastSingle_pos : 0 < leastSingle := by decide +kernel

theorem exists_two_pow : ∃ k, leastSingle = Nat.pow 2 k := ⟨925, by unfold leastSingle; rfl⟩

/-- The units of the nearest double to so many units. -/
def Double.doubleUnits (units : Nat) : Nat := significant 53 units 1

open Double

section Single

variable {x y d : Nat}

theorem roundsTo_doubleUnits (x : Nat) : RoundsTo (Exact 53) x 1 (doubleUnits x) :=
  roundsTo_significant (by decide) Nat.one_pos

theorem singleUnits_eq (x : Nat) :
    singleUnits x = significant 24 x leastSingle * leastSingle := by
  unfold singleUnits leastSingle
  rfl

theorem roundsTo_singleUnits (x : Nat) : RoundsTo Single x 1 (singleUnits x) := by
  have pos := leastSingle_pos
  have hround : RoundsTo (Exact 24) x leastSingle _ := roundsTo_significant (by decide) pos
  rw [singleUnits_eq]
  refine ⟨⟨_, hround.mem, rfl⟩, ?_, ?_⟩
  · rintro z b ⟨m, hm, rfl⟩ hlt hmiddle
    by_contra hge
    have hless : m < significant 24 x leastSingle :=
      Nat.lt_of_mul_lt_mul_right (a := leastSingle) (by omega)
    refine Nat.lt_irrefl _ (hround.lt_of_lt_middle hm hless ?_)
    linarith
  · rintro a z ⟨m, hm, rfl⟩ hlt hmiddle
    by_contra hge
    have hless : significant 24 x leastSingle < m :=
      Nat.lt_of_mul_lt_mul_right (a := leastSingle) (by omega)
    refine Nat.lt_irrefl _ (hround.lt_of_middle_lt hm hless ?_)
    linarith

theorem Single.exact (h : Single x) : Exact 53 x := by
  obtain ⟨m, hm, rfl⟩ := h
  obtain ⟨k, hk⟩ := exists_two_pow
  rw [hk, Nat.pow_eq]
  exact (hm.mono (by decide) (by decide)).mul_two_pow (by decide) k

theorem Single.mul_two_pow (h : Single x) (k : Nat) : Single (x * 2 ^ k) := by
  obtain ⟨m, hm, rfl⟩ := h
  exact ⟨m * 2 ^ k, hm.mul_two_pow (by decide) k, Nat.mul_right_comm _ _ _⟩

/-- Single precision numbers are never close to each other. -/
theorem Single.lt_spacing (hx : Single x) (hy : Single y) (h : x < y) :
    x + leastSingle ≤ y ∧ x < 2 ^ 24 * (y - x) := by
  obtain ⟨m, hm, rfl⟩ := hx
  obtain ⟨n, hn, rfl⟩ := hy
  have hless : m < n := Nat.lt_of_mul_lt_mul_right h
  obtain ⟨d, rfl⟩ : ∃ d, n = m + d := ⟨n - m, by omega⟩
  have hd : 0 < d := by omega
  have hspacing := Nat.mul_lt_mul_of_pos_right (hm.lt_spacing hn hd) leastSingle_pos
  have hplace : 1 * leastSingle ≤ d * leastSingle := Nat.mul_le_mul_right _ hd
  rw [Nat.mul_assoc] at hspacing
  rw [Nat.add_mul]
  omega

end Single

end TreePredicate
