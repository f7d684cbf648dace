import TreePredicate.Proofs.Number.Order

/-!
# Decimal numbers are read back

* `significant_mul_right` : rounding sees a quotient, not how it is written;
* `toDouble_shift` : neither does reading a decimal number see how many zeros its digits end in;
* `toDouble_negative` : the sign of a decimal number is the sign of its double;
* `toDouble_shortest` : the shortest digits of a magnitude read back as it. They were tested, except
  for the full expansion at the end of the search, which is exact.
-/

set_option autoImplicit false

namespace TreePredicate

-- Unfolded, these two are powers that no step may write out.
attribute [local irreducible] unitsPerOne unitsBound

/-! ## Rounding of quotients -/

namespace Rounding

theorem nearest_mul_right (num den : Nat) {c : Nat} (hc : 0 < c) :
    nearest (num * c) (den * c) = nearest num den := by
  unfold nearest
  dsimp only
  rw [Nat.mul_div_mul_right num den hc, Nat.mul_mod_mul_right, ← Nat.mul_assoc]
  have hlt : ∀ a b : Nat, a * c < b * c ↔ a < b := fun a b => Nat.mul_lt_mul_right hc
  simp only [hlt]

/-- Rounding depends on a quotient only. -/
theorem significant_mul_right (bits num den : Nat) {c : Nat} (hc : 0 < c) :
    significant bits (num * c) (den * c) = significant bits num den := by
  have hexcess : excess bits (num * c) (den * c) = excess bits num den := by
    unfold excess
    rw [Nat.mul_div_mul_right num den hc]
  unfold significant
  dsimp only
  rw [hexcess, Nat.mul_right_comm den c, nearest_mul_right _ _ hc]

theorem nearest_eq (num den : Nat) :
    nearest num den = num / den ∨ nearest num den = num / den + 1 := by
  unfold nearest
  dsimp only
  split
  · exact .inl rfl
  · split
    · exact .inr rfl
    · omega

end Rounding

theorem ofUnits_mul_right (negative : Bool) (num den : Nat) {c : Nat} (hc : 0 < c) :
    Double.ofUnits negative (num * c) (den * c) = Double.ofUnits negative num den := by
  unfold Double.ofUnits
  simp only [Rounding.significant_mul_right 53 num den hc]

theorem ofRatio_mul_right (negative : Bool) {num den num' den' c : Nat} (hc : 0 < c)
    (hnum : num' = num * c) (hden : den' = den * c) :
    Double.ofRatio negative num' den' = Double.ofRatio negative num den := by
  unfold Double.ofRatio
  rw [hnum, hden, Nat.mul_right_comm, ofUnits_mul_right negative _ den hc]

theorem ofUnits_units (negative : Bool) (m : Magnitude) :
    Double.ofUnits negative m.units 1 = .finite negative m := by
  obtain ⟨units, rounded, small⟩ := m
  unfold Double.ofUnits
  simp only [rounded, small, dif_pos]

namespace Decimal

/-! ## Digits -/

theorem length_mul_ten {n : Nat} (h : 0 < n) : length (10 * n) = length n + 1 := by
  have happend := Nat.toDigits_append_toDigits (by decide : 1 < 10) h (by decide : 0 < 10)
  unfold length
  rw [← Nat.add_zero (10 * n), ← happend, List.length_append, Nat.toDigits_zero, List.length_singleton]

theorem length_mul_pow {n : Nat} (h : 0 < n) (k : Nat) : length (n * 10 ^ k) = length n + k := by
  induction k with
  | zero => rw [Nat.pow_zero, Nat.mul_one, Nat.add_zero]
  | succ k ih =>
    have hpos : 0 < n * 10 ^ k := Nat.mul_pos h (Nat.pow_pos (by decide))
    rw [Nat.pow_succ, ← Nat.mul_assoc, Nat.mul_comm _ 10, length_mul_ten hpos, ih, Nat.add_assoc]

theorem length_le_iff {n k : Nat} (h : 0 < k) : length n ≤ k ↔ n < 10 ^ k :=
  Nat.length_toDigits_le_iff (by decide) h

/-! ## Reading -/

/-- Zeros at the end of the digits count as much as in the exponent. -/
theorem toDouble_shift (negative : Bool) (digits k : Nat) (exponent : Int) :
    (Decimal.mk negative (digits * 10 ^ k) exponent).toDouble =
      (Decimal.mk negative digits (exponent + k)).toDouble := by
  have hpow : ∀ n, 0 < 10 ^ n := fun n => Nat.pow_pos (by decide)
  unfold toDouble
  dsimp only
  rcases Nat.eq_zero_or_pos digits with rfl | hdigits
  · rw [if_pos (Nat.zero_mul _), if_pos rfl]
  · have hne := Nat.pos_iff_ne_zero.mp hdigits
    have hne' := Nat.pos_iff_ne_zero.mp (Nat.mul_pos hdigits (hpow k))
    have hsize : (length digits : Int) + (exponent + k) = length digits + k + exponent := by omega
    rw [if_neg hne, if_neg hne', length_mul_pow hdigits, Int.natCast_add, hsize]
    congr 2
    simp only [Nat.pow_eq]
    rcases Int.le_total 0 exponent with hpos | hneg
    · have hto : (exponent + k).toNat = k + exponent.toNat := by omega
      have hzero : (-exponent).toNat = 0 := by omega
      have hzero' : (-(exponent + k)).toNat = 0 := by omega
      rw [hto, hzero, hzero', Nat.mul_assoc, Nat.pow_add]
    · rcases Int.le_total 0 (exponent + k) with hsum | hsum
      · have hto : exponent.toNat = 0 := by omega
        have hzero : (-(exponent + k)).toNat = 0 := by omega
        have hk : k = (exponent + k).toNat + (-exponent).toNat := by omega
        have hsplit := Nat.pow_add 10 (exponent + k).toNat (-exponent).toNat
        rw [← hk] at hsplit
        refine ofRatio_mul_right negative (hpow (-exponent).toNat) ?_ ?_
        · rw [hto, Nat.pow_zero, Nat.mul_one, hsplit, Nat.mul_assoc]
        · rw [hzero, Nat.pow_zero, Nat.one_mul]
      · have hto : exponent.toNat = 0 := by omega
        have hto' : (exponent + k).toNat = 0 := by omega
        have hk : (-exponent).toNat = (-(exponent + k)).toNat + k := by omega
        refine ofRatio_mul_right negative (hpow k) ?_ ?_
        · rw [hto, hto', Nat.pow_zero, Nat.mul_one, Nat.mul_one]
        · rw [hk, Nat.pow_add]

theorem ofUnits_negative {num den : Nat} {m : Magnitude}
    (h : Double.ofUnits false num den = .finite false m) (negative : Bool) :
    Double.ofUnits negative num den = .finite negative m := by
  unfold Double.ofUnits at h ⊢
  dsimp only at h ⊢
  split at h
  · next hsmall =>
    rw [dif_pos hsmall]
    cases h
    rfl
  · cases h

/-- The sign of a decimal number is the sign of its double. -/
theorem toDouble_negative {digits : Nat} {exponent : Int} {m : Magnitude}
    (h : (Decimal.mk false digits exponent).toDouble = .finite false m) (negative : Bool) :
    (Decimal.mk negative digits exponent).toDouble = .finite negative m := by
  unfold toDouble at h ⊢
  dsimp only at h ⊢
  split at h
  · next hzero =>
    rw [if_pos hzero]
    exact ofUnits_negative h negative
  · next hzero =>
    rw [if_neg hzero]
    split at h
    · cases h
    · next hlarge =>
      rw [if_neg hlarge]
      split at h
      · next hsmall =>
        rw [if_pos hsmall]
        exact ofUnits_negative h negative
      · next hsmall =>
        rw [if_neg hsmall]
        exact ofUnits_negative h negative

end Decimal

/-! ## Shortest digits -/

namespace Magnitude

/-- The full expansion of a magnitude, for as many decimal places as a unit has. -/
theorem toDouble_expansion (m : Magnitude) (h : m.units ≠ 0) {places : Nat} (hplaces : 331 < places)
    (hten : Nat.pow 5 places * unitsPerOne = 10 ^ places)
    (hhigh : unitsBound * Nat.pow 5 places < 10 ^ (places + 310))
    (hlow : 10 ^ (places - 331) ≤ Nat.pow 5 places) :
    (Decimal.mk false (m.units * Nat.pow 5 places) (-places)).toDouble = .finite false m := by
  have hfive : 0 < Nat.pow 5 places := Nat.pow_pos (by decide)
  have hten' : 0 < 10 ^ places := Nat.pow_pos (by decide)
  have hle : Decimal.length (m.units * Nat.pow 5 places) ≤ places + 310 := by
    rw [Decimal.length_le_iff (by omega)]
    exact Nat.lt_trans (Nat.mul_lt_mul_of_pos_right m.small hfive) hhigh
  have hlt : ¬ Decimal.length (m.units * Nat.pow 5 places) ≤ places - 331 := by
    rw [Decimal.length_le_iff (by omega)]
    have := Nat.le_mul_of_pos_left (Nat.pow 5 places) (Nat.pos_of_ne_zero h)
    omega
  have hnone : (-(places : Int)).toNat = 0 := by omega
  have hall : (- -(places : Int)).toNat = places := by omega
  unfold Decimal.toDouble
  dsimp only
  rw [if_neg (Nat.mul_ne_zero h (Nat.pos_iff_ne_zero.mp hfive)), if_neg (by omega),
    if_neg (by omega), hnone, hall]
  unfold Double.ofRatio
  have hnum : m.units * Nat.pow 5 places * Nat.pow 10 0 * unitsPerOne = m.units * 10 ^ places := by
    have hone : Nat.pow 10 0 = 1 := rfl
    rw [hone, Nat.mul_one, ← hten, Nat.mul_assoc]
  have hden : Nat.pow 10 places = 1 * 10 ^ places := (Nat.one_mul _).symm
  rw [hnum, hden, ofUnits_mul_right false _ 1 hten', ofUnits_units]

/-- A multiple that is chosen on a grid reads back. -/
theorem isWritten_of_onGrid? {m : Magnitude} {exponent : Int} {digits : Nat}
    (h : m.onGrid? exponent = some digits) : m.isWritten digits exponent = true := by
  unfold onGrid? at h
  dsimp only at h
  split at h
  · next hbelow habove =>
    cases h
    rcases Rounding.nearest_eq (m.units * Nat.pow 10 (-exponent).toNat)
      (unitsPerOne * Nat.pow 10 exponent.toNat) with hnearest | hnearest
    · rw [hnearest, hbelow]
    · rw [hnearest, habove]
  · next hbelow _ =>
    cases h
    exact hbelow
  · next _ habove =>
    cases h
    exact habove
  · cases h

/-- The shortest digits of a magnitude read back as it. -/
theorem toDouble_shortest (m : Magnitude) (h : m.units ≠ 0) :
    (Decimal.mk false m.shortest.1 m.shortest.2).toDouble = .finite false m := by
  cases hfound : (List.range 17).findSome? fun (n : Nat) =>
      (m.onGrid? (m.decimalPlace - (n + 1))).map fun digits =>
        (digits, m.decimalPlace - ((n : Int) + 1)) with
  | none =>
    -- The number of places has a name here, so that no step writes its powers out.
    obtain ⟨places, hplaces⟩ : ∃ places : Nat, places = 1074 := ⟨_, rfl⟩
    have hshortest : m.shortest = (m.units * Nat.pow 5 places, -(places : Int)) := by
      unfold shortest
      dsimp only
      have hexponent : (-1074 : Int) = -(places : Int) := by omega
      rw [hfound, Option.getD_none, ← hplaces, hexponent]
    have hten : Nat.pow 5 places * unitsPerOne = 10 ^ places := by
      rw [hplaces]
      decide +kernel
    have hhigh : unitsBound * Nat.pow 5 places < 10 ^ (places + 310) := by
      rw [hplaces]
      decide +kernel
    have hlow : 10 ^ (places - 331) ≤ Nat.pow 5 places := by
      rw [hplaces]
      decide +kernel
    rw [hshortest]
    exact toDouble_expansion m h (by omega) hten hhigh hlow
  | some found =>
    have hshortest : m.shortest = found := by
      unfold shortest
      dsimp only
      rw [hfound, Option.getD_some]
    rw [hshortest]
    obtain ⟨n, -, hn⟩ := List.exists_of_findSome?_eq_some hfound
    obtain ⟨digits, hdigits, rfl⟩ := Option.map_eq_some_iff.mp hn
    exact eq_of_beq (isWritten_of_onGrid? hdigits)

end Magnitude

end TreePredicate
