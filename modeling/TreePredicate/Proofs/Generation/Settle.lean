import TreePredicate.Proofs.Generation.Distance

/-!
# What candidates become

A candidate is made a quantity of the declared width, which may move it: towards zero in an integral
width, to the nearest number in a fractional one.

* `Course.settle`, `exists_settled` : where the quantity lies that a candidate becomes, if the width
  has room for the candidate;
* `Width.Kind`, `settle_kind`, `kind_of_at` : the numbers of a width, and that those in trees are of
  the kind of their width.
-/

set_option autoImplicit false

namespace TreePredicate

-- Unfolded, these are powers that no step may write out.
attribute [local irreducible] unitsPerOne unitsBound greatestInteger lastPlace integerLimit
  leastSingle Width.greatestUnits

open Rounding Double

/-- The distances from zero at which a width has numbers. -/
def Width.Kind (width : Width) (x : Nat) : Prop :=
  match width with
  | .float => Single x
  | .double => Exact 53 x
  | _ => unitsPerOne ∣ x

namespace Interval

/-- The distance at which the quantity lies that a candidate becomes. -/
def Course.settle (course : Course) (width? : Option Width) (x : Nat) : Nat :=
  match width? with
  | some .float => singleUnits (doubleUnits x)
  | some .double => doubleUnits x
  | some _ => x / unitsPerOne * unitsPerOne
  | none => if unitsPerOne ∣ x ∧ x ≤ course.limit .long then x else doubleUnits x

section Settle

variable {course : Course} {a : Number} {x : Nat} {width : Width}

/-- What a width makes of a number that it has room for is of its kind and within its limits. -/
theorem settle_kind (hroom : x ≤ course.limit width) :
    width.Kind (course.settle (some width) x) ∧
      course.settle (some width) x ≤ course.limit width := by
  have hintegral : unitsPerOne ∣ x / unitsPerOne * unitsPerOne ∧
      x / unitsPerOne * unitsPerOne ≤ course.limit width :=
    ⟨Nat.dvd_mul_left _ _, Nat.le_trans (Nat.div_mul_le_self x unitsPerOne) hroom⟩
  cases width with
  | float => exact ⟨(roundsTo_singleUnits _).mem, single_le (single_limit course) hroom⟩
  | double =>
    have hround := roundsTo_doubleUnits x
    exact ⟨hround.mem, hround.le Nat.one_pos (exact_limit course) (by omega)⟩
  | _ => exact hintegral

theorem truncate_at {negative : Bool} {m : Magnitude}
    (h : course.At (.double (.finite negative m)) x) :
    course.At (.int (Double.finite negative m).truncate) (x / unitsPerOne * unitsPerOne) := by
  have hunits := units_of_at h
  have hsigned : signed negative (x / unitsPerOne) = course.along (x / unitsPerOne : Nat) := by
    rcases sign_of_at h with rfl | rfl
    · rw [Nat.zero_div]
      unfold signed Course.along
      cases negative <;> cases course.descending <;> rfl
    · rfl
  rw [Double.truncate, hunits, hsigned]
  exact at_int _

theorem toSingle_at {negative : Bool} {m : Magnitude}
    (h : course.At (.double (.finite negative m)) x) (hroom : x ≤ course.limit .float) :
    course.At (.double (Double.finite negative m).toSingle) (singleUnits x) := by
  have hround := roundsTo_singleUnits x
  have hexact : significant 53 (singleUnits x) 1 = singleUnits x := hround.mem.exact
  have hle := hround.le Nat.one_pos (single_limit course) (by omega)
  have hsmall : significant 53 (singleUnits x) 1 < unitsBound := by
    rw [hexact]
    exact Nat.lt_of_le_of_lt hle (limit_lt course .float)
  have hzero : singleUnits 0 = 0 := by decide +kernel
  have hsign : singleUnits x = 0 ∨ _ := (sign_of_at h).imp_left fun h => by rw [h, hzero]
  obtain ⟨single, hsingle, hat⟩ := ofUnits_at hsign hsmall
  rw [Double.toSingle, units_of_at h, hsingle]
  rwa [hexact] at hat

theorem convert_integral_at (hintegral : width.isIntegral = true) (h : course.At a x) :
    course.At (width.convert a) (x / unitsPerOne * unitsPerOne) := by
  rcases at_cases h with ⟨k, rfl, rfl⟩ | ⟨negative, m, rfl, -⟩
  · have hconvert : width.convert (.int (course.along k)) = .int (course.along k) := by
      cases width <;> first | rfl | cases hintegral
    rw [hconvert, Nat.mul_div_cancel _ unitsPerOne_pos]
    exact h
  · have hconvert : width.convert (.double (.finite negative m)) =
        .int (Double.finite negative m).truncate := by
      cases width <;> first | rfl | cases hintegral
    rw [hconvert]
    exact truncate_at h

/-- Where the number lies that a width makes of another. -/
theorem convert_at (h : course.At a x) (hroom : x ≤ course.limit width) :
    course.At (width.convert a) (course.settle (some width) x) := by
  cases width with
  | float =>
    have hdouble := doubleUnits_lt (Nat.le_trans hroom (limit_le course .float))
    obtain ⟨negative, m, hm, hat⟩ := at_asDouble h hdouble
    have hround := (roundsTo_doubleUnits x).le Nat.one_pos (single_limit course).exact (by omega)
    show course.At (.double (Width.asDouble a).toSingle) (singleUnits (doubleUnits x))
    rw [hm]
    exact toSingle_at hat hround
  | double =>
    obtain ⟨negative, m, hm, hat⟩ := at_asDouble h (doubleUnits_lt hroom)
    show course.At (.double (Width.asDouble a)) (doubleUnits x)
    rw [hm]
    exact hat
  | _ => exact convert_integral_at rfl h

theorem at_of_whole {n : Int} (h : course.At a x) (hwhole : whole? a = some n) :
    course.At (.int n) x :=
  (point?_of_whole hwhole).trans h

/-- A number at a whole distance is whole. -/
theorem exists_whole (h : course.At a x) (hwhole : unitsPerOne ∣ x) : ∃ n, whole? a = some n := by
  rcases at_cases h with ⟨k, rfl, rfl⟩ | ⟨negative, m, rfl, rfl⟩
  · exact ⟨_, rfl⟩
  · refine ⟨(Double.finite negative m).truncate, if_pos ?_⟩
    rw [isWhole, beq_iff_eq]
    exact Nat.mod_eq_zero_of_dvd hwhole

theorem dvd_of_at {n : Int} (h : course.At (.int n) x) : unitsPerOne ∣ x := by
  rcases at_cases h with ⟨k, -, rfl⟩ | ⟨negative, m, hm, -⟩
  · exact Nat.dvd_mul_left _ _
  · cases hm

theorem toDouble?_eq_asDouble {negative : Bool} {m : Magnitude}
    (h : Width.asDouble a = .finite negative m) : a.toDouble? = .ok (.finite negative m) := by
  cases a with
  | int n =>
    rw [Width.asDouble] at h
    rw [Number.toDouble?, h]
    rfl
  | double d => exact congrArg Except.ok h

/-- Where the quantity lies that a candidate becomes if no width is declared. -/
theorem exists_settled_none (h : course.At a x) (hsmall : doubleUnits x < unitsBound) :
    ∃ q, quantity? none a = .ok (some q) ∧ course.At q.value (course.settle none x) := by
  unfold quantity? Course.settle
  dsimp only
  by_cases hwhole : unitsPerOne ∣ x ∧ x ≤ course.limit .long
  · obtain ⟨n, hn⟩ := exists_whole h hwhole.1
    have hat := at_of_whole h hn
    have hlong := (holds_iff hat).mpr hwhole.2
    obtain ⟨q, hq, hvalue⟩ := Quantity.exists_make (Width.infer_holds hlong)
    rw [Option.filter_eq_some_iff.mpr ⟨hn, hlong⟩, if_pos hwhole]
    refine ⟨q, ?_, ?_⟩
    · show Except.ok (Quantity.make (Width.infer (.int n)) (.int n)).toOption = _
      rw [hq]
      rfl
    · rw [hvalue, Width.convert_infer]
      exact hat
  · have hfilter : (whole? a).filter (fun n => Width.long.holds (.int n)) = none := by
      rw [Option.filter_eq_none_iff]
      intro n hn hlong
      have hat := at_of_whole h hn
      exact hwhole ⟨dvd_of_at hat, (holds_iff hat).mp hlong⟩
    obtain ⟨negative, m, hm, hat⟩ := at_asDouble h hsmall
    obtain ⟨q, hq, hvalue⟩ := Quantity.exists_make (Width.double_holds negative m)
    rw [hfilter, if_neg hwhole]
    refine ⟨q, ?_, ?_⟩
    · dsimp only
      rw [toDouble?_eq_asDouble hm]
      show Except.ok (Quantity.make .double (.double (.finite negative m))).toOption = _
      rw [hq]
      rfl
    · rw [hvalue]
      exact hat

/-- Where the quantity lies that a candidate becomes. -/
theorem exists_settled (width? : Option Width) (h : course.At a x)
    (hroom : x ≤ course.limit (width?.getD .double)) :
    ∃ q, quantity? width? a = .ok (some q) ∧ course.At q.value (course.settle width? x) := by
  cases width? with
  | some width =>
    have hholds : width.holds a = true := (holds_iff h).mpr hroom
    obtain ⟨q, hq, hvalue⟩ := Quantity.exists_make hholds
    refine ⟨q, ?_, hvalue ▸ convert_at h hroom⟩
    rw [quantity?, hq]
    rfl
  | none => exact exists_settled_none h (doubleUnits_lt hroom)

end Settle

/-! ## Numbers in trees -/

/-- A number in a tree is of the kind of its width and within the limits. -/
theorem kind_of_at (q : Quantity) {course : Course} {x : Nat} (h : course.At q.value x) :
    q.width.Kind x ∧ x ≤ course.limit q.width := by
  obtain ⟨given, hmade⟩ := q.made
  obtain ⟨hholds, hvalue⟩ := Width.coerce_eq_ok.mp hmade
  obtain ⟨place, hplace⟩ := exists_point_of_holds hholds
  obtain ⟨course', x', hcourse'⟩ := exists_at place
  have hgiven := (hcourse' given).mp hplace
  have hroom := (holds_iff hgiven).mp hholds
  obtain ⟨hkind, hle⟩ := settle_kind hroom
  have hat := convert_at hgiven hroom
  rw [hvalue] at hat
  have hsame : x = course'.settle (some q.width) x' := by
    unfold Course.At at h hat
    rw [hat, Option.some.injEq, Point.at.injEq] at h
    have := congrArg Int.natAbs h
    rw [Course.along_natAbs, Course.along_natAbs] at this
    omega
  exact ⟨hsame ▸ hkind, (holds_iff h).mp ((holds_iff hat).mpr hle)⟩

end Interval

end TreePredicate
