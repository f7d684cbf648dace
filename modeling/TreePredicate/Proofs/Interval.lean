import TreePredicate.Interval

/-!
# Inside an interval

* `Point.lt_iff`, `Point.le_trans`, `Point.le_antisymm` : places are in order;
* `Interval.end_iff` : what it takes to be on the right side of an end;
* `Interval.holds_eq_false_of_isEmpty` : nothing is inside an interval that is empty.
-/

set_option autoImplicit false

namespace TreePredicate

/-! ## Places in order -/

theorem Point.lt_iff (x y : Point) : x.lt y = true ↔ x.le y = true ∧ x ≠ y := by
  cases x <;> cases y <;> simp [Point.lt, Point.le]
  omega

theorem Point.le_trans {x y z : Point} (hxy : x.le y = true) (hyz : y.le z = true) :
    x.le z = true := by
  cases x <;> cases y <;> cases z <;> simp [Point.lt, Point.le] at *
  omega

theorem Point.le_antisymm {x y : Point} (hxy : x.le y = true) (hyx : y.le x = true) : x = y := by
  cases x <;> cases y <;> simp [Point.lt, Point.le] at *
  omega

namespace Interval

/-! ## Ends -/

/-- An end of an interval as a condition on places. -/
theorem end_iff {included : Bool} {a b : Number} :
    (if included then a.le b else a.lt b) = true ↔ ∃ x y, a.point? = some x ∧ b.point? = some y ∧
      x.le y = true ∧ (included = false → x ≠ y) := by
  unfold Number.le Number.lt
  cases a.point? with
  | none => simp
  | some x =>
    cases b.point? with
    | none => simp
    | some y => cases included <;> simp [Point.lt_iff]

/-- Nothing is inside an interval that is empty. -/
theorem holds_eq_false_of_isEmpty {i : Interval} (h : i.isEmpty = true) (value : Number) :
    i.holds value = false := by
  refine Bool.eq_false_iff.mpr fun hholds => ?_
  obtain ⟨hlow, hhigh⟩ := (Bool.and_eq_true _ _).mp hholds
  obtain ⟨x, y, hx, hy, hxy, hlowOpen⟩ := end_iff.mp hlow
  obtain ⟨y', z, hy', hz, hyz, hhighOpen⟩ := end_iff.mp hhigh
  rw [hy, Option.some.injEq] at hy'
  subst hy'
  unfold isEmpty Number.lt Number.same at h
  simp only [hx, hz, Bool.or_eq_true, Bool.and_eq_true, beq_iff_eq, Bool.not_eq_true',
    Bool.and_eq_false_iff, Point.lt_iff] at h
  rcases h with ⟨hzx, hne⟩ | ⟨rfl, hopen⟩
  · exact hne (Point.le_antisymm hzx (Point.le_trans hxy hyz))
  · have heq := Point.le_antisymm hxy hyz
    exact hopen.elim (fun hopen => hlowOpen hopen heq) fun hopen => hhighOpen hopen heq.symm

end Interval

end TreePredicate
