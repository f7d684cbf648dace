import TreePredicate.Interval.Candidate
import TreePredicate.Proofs.Number.Range

/-!
# Candidates that overflow

* `overflows_quantity?_iff` : a candidate overflows exactly if it is too large for a double and no
  width is declared;
* `exists_quantity`, `exists_place` : what any other candidate becomes, and that this is not past
  the greatest double;
* `large_of_overflows`, `overflows_of_large`, `not_overflows_append` : a search of candidates
  overflows only at one that is too large, it does if none is inside, and it does not if one is
  inside before.
-/

set_option autoImplicit false

namespace TreePredicate

-- Unfolded, these are powers that no step may write out.
attribute [local irreducible] unitsPerOne unitsBound greatestInteger lastPlace integerLimit

/-! ## Quantities -/

/-- A width makes a quantity of each number that it has room for. -/
theorem Quantity.exists_make {width : Width} {given : Number} (h : width.holds given = true) :
    ∃ q, Quantity.make width given = .ok q ∧ q.value = width.convert given := by
  have hmade := Width.coerce_eq_ok.mpr ⟨h, rfl⟩
  unfold Quantity.make
  split
  · next value hvalue =>
    rw [hmade] at hvalue
    cases hvalue
    exact ⟨_, rfl, rfl⟩
  · next e he =>
    rw [hmade] at he
    cases he

/-- A long holds no integer of more than `2 ^ 63`. -/
theorem Width.natAbs_le_of_long {n : Int} (h : Width.long.holds (.int n) = true) :
    n.natAbs ≤ 2 ^ 63 := by
  obtain ⟨m, hm, hle⟩ := Width.natAbs_convert_le rfl h
  cases hm
  exact hle

theorem Width.infer_holds {n : Int} (h : Width.long.holds (.int n) = true) :
    (Width.infer (.int n)).holds (.int n) = true := by
  unfold infer
  dsimp only
  split
  · assumption
  · exact h

/-- The width that is inferred for a number leaves it as it is. -/
theorem Width.convert_infer (given : Number) : (Width.infer given).convert given = given := by
  cases given with
  | int n =>
    unfold Width.infer
    dsimp only
    split <;> rfl
  | double d => rfl

namespace Interval

/-! ## What a candidate becomes -/

theorem overflows_quantity?_iff {width? : Option Width} {a : Number} :
    Overflows (quantity? width? a) ↔ width? = none ∧ a.Large := by
  cases width? with
  | some width => exact iff_of_false (not_overflows_ok _) (by simp)
  | none =>
    unfold quantity?
    dsimp only
    split
    · next n hwhole =>
      refine iff_of_false (not_overflows_ok _) ?_
      rintro ⟨-, m, rfl, hm⟩
      have hlong := Width.natAbs_le_of_long (Option.filter_eq_some_iff.mp hwhole).2
      have hbound := two_pow_63_lt_greatestInteger
      have hlimit := greatestInteger_add_ten_lt
      cases (Option.filter_eq_some_iff.mp hwhole).1
      omega
    · rw [overflows_bind, Number.overflows_toDouble?]
      simp only [true_and]
      refine or_iff_left ?_
      rintro ⟨d, -, h⟩
      exact not_overflows_ok _ h

theorem point?_of_whole {a : Number} {n : Int} (h : whole? a = some n) :
    (Number.int n).point? = a.point? := by
  cases a with
  | int m =>
    cases h
    rfl
  | double d =>
    cases d with
    | nan => cases h
    | infinite negative => cases h
    | finite negative m =>
      rw [whole?] at h
      split at h
      · next hwhole =>
        cases h
        have hmul : m.units / unitsPerOne * unitsPerOne = m.units :=
          Nat.div_mul_cancel (Nat.dvd_of_mod_eq_zero (by simpa [Double.isWhole] using hwhole))
        have hsigned : signed negative (m.units / unitsPerOne) * unitsPerOne =
            signed negative m.units := by
          rw [signed_mul, hmul]
        simp only [Number.point?, Double.point?, Double.truncate, hsigned]
      · cases h

/-- What a candidate becomes where no width is declared. -/
theorem exists_quantity {a : Number} (hfinite : a.isFinite = true) (hsmall : ¬ a.Large) :
    ∃ q, quantity? none a = .ok (some q) ∧
      ((∃ k, q.value = .int k ∧ k.natAbs ≤ 2 ^ 63 ∧ (Number.int k).point? = a.point?) ∨
        ∃ negative m, q.value = .double (.finite negative m) ∧
          a.toDouble? = .ok (.finite negative m)) := by
  unfold quantity?
  dsimp only
  split
  · next n hwhole =>
    obtain ⟨hwhole, hlong⟩ := Option.filter_eq_some_iff.mp hwhole
    obtain ⟨q, hq, hvalue⟩ := Quantity.exists_make (Width.infer_holds hlong)
    refine ⟨q, ?_, .inl ⟨n, ?_, Width.natAbs_le_of_long hlong, point?_of_whole hwhole⟩⟩
    · rw [Quantity.ofNumber, Option.getD_none, hq]
      rfl
    · rw [hvalue, Width.convert_infer]
  · obtain ⟨negative, m, hm⟩ : ∃ negative m, a.toDouble? = .ok (.finite negative m) := by
      cases a with
      | int n =>
        rw [Number.large_int, Nat.not_le] at hsmall
        obtain ⟨m, hm, -⟩ := Number.toDouble?_int_eq hsmall
        exact ⟨_, m, hm⟩
      | double d =>
        cases d with
        | finite negative m => exact ⟨negative, m, rfl⟩
        | _ => cases hfinite
    obtain ⟨q, hq, hvalue⟩ := Quantity.exists_make (Width.double_holds negative m)
    refine ⟨q, ?_, .inr ⟨negative, m, hvalue, hm⟩⟩
    rw [hm]
    show Except.ok (Quantity.make .double (.double (.finite negative m))).toOption = _
    rw [hq]
    rfl

/-- What a candidate becomes is a finite number, not past the greatest double. -/
theorem exists_place {a : Number} {q : Quantity} (hfinite : a.isFinite = true)
    (hq : quantity? none a = .ok (some q)) :
    ∃ x, q.value.point? = some (.at x) ∧ x.natAbs ≤ greatestInteger * unitsPerOne := by
  have hsmall : ¬ a.Large := fun hlarge => by
    have hover := overflows_quantity?_iff.mpr ⟨rfl, hlarge⟩
    rw [hq] at hover
    exact not_overflows_ok _ hover
  obtain ⟨p, hp, hvalue⟩ := exists_quantity hfinite hsmall
  rw [hq, Except.ok.injEq, Option.some.injEq] at hp
  subst hp
  rcases hvalue with ⟨k, hk, hle, -⟩ | ⟨negative, m, hm, -⟩
  · refine ⟨k * unitsPerOne, by rw [hk]; rfl, ?_⟩
    rw [Int.natAbs_mul, Int.natAbs_natCast]
    exact Nat.mul_le_mul_right _ (Nat.le_trans hle two_pow_63_lt_greatestInteger.le)
  · refine ⟨signed negative m.units, by rw [hm]; rfl, ?_⟩
    rw [signed_natAbs]
    exact m.units_le

/-! ## Searching candidates -/

section Candidates

variable {i : Interval} {candidates found rest : List Number}

/-- A search goes on behind a candidate that is not inside. -/
theorem overflows_firstInside?_cons {a : Number} :
    Overflows (i.firstInside? (a :: rest)) ↔
      Overflows (quantity? i.width? a) ∨ (∃ found?, quantity? i.width? a = .ok found? ∧
        (∀ q, found? = some q → i.holds q.value = false) ∧ Overflows (i.firstInside? rest)) := by
  rw [firstInside?, overflows_bind]
  refine or_congr Iff.rfl (exists_congr fun found? => and_congr Iff.rfl ?_)
  cases found? with
  | none => simp
  | some q =>
    cases hq : i.holds q.value with
    | false => simp [hq]
    | true =>
      simp only [hq, if_true, Option.some.injEq, forall_eq', Bool.true_eq_false, false_and,
        iff_false]
      exact not_overflows_ok _

/-- Only a candidate that is too large makes a search overflow, and only if no width is declared. -/
theorem large_of_overflows (h : Overflows (i.firstInside? candidates)) :
    i.width? = none ∧ ∃ a ∈ candidates, a.Large := by
  induction candidates with
  | nil => exact absurd h (not_overflows_ok _)
  | cons a rest ih =>
    rw [overflows_firstInside?_cons, overflows_quantity?_iff] at h
    rcases h with ⟨hwidth, hlarge⟩ | ⟨-, -, -, h⟩
    · exact ⟨hwidth, a, List.mem_cons_self, hlarge⟩
    · obtain ⟨hwidth, b, hb, hlarge⟩ := ih h
      exact ⟨hwidth, b, List.mem_cons_of_mem a hb, hlarge⟩

/-- A search in which nothing is inside comes to every candidate. -/
theorem overflows_of_large (hwidth : i.width? = none)
    (houtside : ∀ a ∈ candidates, ∀ q, quantity? i.width? a = .ok (some q) →
      i.holds q.value = false)
    (hlarge : ∃ a ∈ candidates, a.Large) : Overflows (i.firstInside? candidates) := by
  induction candidates with
  | nil => simp at hlarge
  | cons a rest ih =>
    rw [List.forall_mem_cons] at houtside
    rw [overflows_firstInside?_cons]
    by_cases ha : Overflows (quantity? i.width? a)
    · exact .inl ha
    · obtain ⟨found?, hfound⟩ := eq_ok_of_not_overflows ha
      refine .inr ⟨found?, hfound, fun q hq => houtside.1 q (hq ▸ hfound), ih houtside.2 ?_⟩
      obtain ⟨b, hb, hlarge⟩ := hlarge
      rcases List.mem_cons.mp hb with rfl | hb
      · exact absurd (overflows_quantity?_iff.mpr ⟨hwidth, hlarge⟩) ha
      · exact ⟨b, hb, hlarge⟩

/-- A search that finds a candidate inside does not come to those behind it. -/
theorem not_overflows_append (hsmall : ∀ a ∈ found, ¬ a.Large)
    (hinside : ∃ a ∈ found, ∃ q, quantity? i.width? a = .ok (some q) ∧ i.holds q.value = true) :
    ¬ Overflows (i.firstInside? (found ++ rest)) := by
  induction found with
  | nil => simp at hinside
  | cons a others ih =>
    rw [List.forall_mem_cons] at hsmall
    rw [List.cons_append, overflows_firstInside?_cons, overflows_quantity?_iff]
    rintro (⟨-, hlarge⟩ | ⟨found?, hfound, houtside, h⟩)
    · exact hsmall.1 hlarge
    · refine ih hsmall.2 ?_ h
      obtain ⟨b, hb, q, hq, hinside⟩ := hinside
      rcases List.mem_cons.mp hb with rfl | hb
      · rw [hfound, Except.ok.injEq] at hq
        rw [houtside q hq] at hinside
        cases hinside
      · exact ⟨b, hb, q, hq, hinside⟩

end Candidates

end Interval

end TreePredicate
