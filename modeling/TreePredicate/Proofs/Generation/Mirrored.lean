import TreePredicate.Proofs.Generation.Exhausted
import TreePredicate.Proofs.Generation.Sound
import TreePredicate.Proofs.Interval.Held
import TreePredicate.Proofs.Number.Mirror

/-!
# Mirror images

An interval on one side of zero has a mirror image on the other side. What is inside the one lies
opposite of what is inside the other, and so does what a candidate becomes, unless the declared width is
integral: these have room for one more integer below zero.

* `mirrored`, `holds_mirrored`, `isEmpty_mirrored` : the mirror image of an interval;
* `Course.reversed` : the same search in the other direction;
* `both_quantity?` : candidates on opposite sides of zero become opposite quantities, unless the
  declared width is integral;
* `tried`, `both_firstInside?` : a search tries its candidates in turn;
* `exists_firstInside?`, `both_firstInside?_append` : those behind the first one that is inside do not
  matter.
-/

set_option autoImplicit false

namespace TreePredicate

-- Unfolded, these are powers that no step may write out.
attribute [local irreducible] unitsPerOne unitsBound greatestInteger lastPlace integerLimit
  leastSingle Width.greatestUnits

open Rounding Double Overflow

/-- Quantities on opposite sides of zero, as far from it. -/
def Quantity.Opposite (q q' : Quantity) : Prop := Number.Opposite q.value q'.value

namespace Interval

/-! ## Mirror images -/

/-- The interval on the other side of zero. -/
def mirrored (i : Interval) : Interval :=
  ⟨i.high.neg, i.low.neg, i.highIncluded, i.lowIncluded, i.width?⟩

theorem isEmpty_mirrored (i : Interval) : i.mirrored.isEmpty = i.isEmpty := by
  have hlow := Number.opposite_neg i.low
  have hhigh := Number.opposite_neg i.high
  show (i.low.neg.lt i.high.neg ||
    (i.high.neg.same i.low.neg && !(i.highIncluded && i.lowIncluded))) = _
  rw [Number.lt_of_opposite hhigh hlow, Number.same_of_opposite hhigh hlow, Number.same_comm,
    Bool.and_comm i.highIncluded]
  rfl

theorem holds_mirrored (i : Interval) {v w : Number} (h : Number.Opposite v w) :
    i.mirrored.holds w = i.holds v := by
  have hlow := Number.opposite_neg i.low
  have hhigh := Number.opposite_neg i.high
  show ((if i.highIncluded then i.high.neg.le w else i.high.neg.lt w) &&
    if i.lowIncluded then w.le i.low.neg else w.lt i.low.neg) = _
  rw [Number.le_of_opposite h hhigh, Number.lt_of_opposite h hhigh, Number.le_of_opposite hlow h,
    Number.lt_of_opposite hlow h, Bool.and_comm]
  rfl

/-- The course with the other direction. -/
def Course.reversed (course : Course) : Course := { course with descending := !course.descending }

section At

variable {course : Course} {a b : Number} {x : Nat}

theorem along_reversed (course : Course) (x : Int) :
    course.reversed.along x = -course.along x := by
  unfold Course.along Course.reversed
  cases course.descending <;> simp

theorem Course.At.reversed (h : course.At a x) (hab : Number.Opposite a b) : course.reversed.At b x := by
  unfold Course.At at h ⊢
  rw [hab, h, along_reversed]
  rfl

theorem opposite_of_at (h : course.At a x) (h' : course.reversed.At b x) :
    Number.Opposite a b := by
  unfold Course.At at h h'
  unfold Number.Opposite
  rw [h, h', along_reversed]
  rfl

theorem limit_reversed {width : Width} (hintegral : width.isIntegral = false) :
    course.reversed.limit width = course.limit width := by
  cases width <;> first | rw [limit_float, limit_float] | rw [limit_double, limit_double] | cases hintegral

/-- Where no width is declared, the integer for which a long has room below zero only is a double as
well. -/
theorem settle_none (course : Course) (x : Nat) :
    course.settle none x =
      if unitsPerOne ∣ x ∧ x ≤ 2 ^ 63 * unitsPerOne then x else doubleUnits x := by
  have hlimit : (2 ^ 63 - 1) * unitsPerOne ≤ course.limit .long ∧
      course.limit .long ≤ 2 ^ 63 * unitsPerOne := by
    rw [limit_integral rfl]
    cases course.descending with
    | true => exact ⟨Nat.mul_le_mul_right _ (by decide), Nat.le_refl _⟩
    | false => exact ⟨Nat.le_refl _, Nat.mul_le_mul_right _ (by decide)⟩
  unfold Course.settle
  dsimp only
  by_cases hroom : unitsPerOne ∣ x ∧ x ≤ course.limit .long
  · rw [if_pos hroom, if_pos ⟨hroom.1, Nat.le_trans hroom.2 hlimit.2⟩]
  · rw [if_neg hroom]
    split
    · next hnear =>
      obtain ⟨⟨k, rfl⟩, hle⟩ := hnear
      rw [Nat.mul_comm unitsPerOne] at hle hroom ⊢
      have hmost := Nat.le_of_mul_le_mul_right hle unitsPerOne_pos
      have hleast : 2 ^ 63 - 1 < k := by
        by_contra hsmall
        exact hroom ⟨Nat.dvd_mul_left _ _,
          Nat.le_trans (Nat.mul_le_mul_right _ (Nat.not_lt.mp hsmall)) hlimit.1⟩
      obtain rfl : k = 1 * 2 ^ 63 := by omega
      exact (roundsTo_doubleUnits _).eq_self (exact_ones (by decide) 63)
    · rfl

theorem settle_reversed (course : Course) (width? : Option Width) (x : Nat) :
    course.reversed.settle width? x = course.settle width? x := by
  cases width? with
  | some width => cases width <;> rfl
  | none => rw [settle_none, settle_none]

end At

/-! ## What candidates on opposite sides of zero become -/

section Candidates

variable {course : Course} {a b : Number} {x : Nat} {width : Width} {width? : Option Width}

/-- A width for which a candidate is too far away makes no quantity of it. -/
theorem quantity?_of_limit_lt (h : course.At a x) (hfar : course.limit width < x) :
    quantity? (some width) a = .ok none := by
  have hholds : width.holds a = false := by
    refine Bool.eq_false_iff.mpr fun hholds => ?_
    have := (holds_iff h).mp hholds
    omega
  show Except.ok (Quantity.make width a).toOption = _
  unfold Quantity.make
  split
  · next value hvalue =>
    rw [(Width.coerce_eq_ok.mp hvalue).1] at hholds
    cases hholds
  · rfl

theorem doubleUnits_lt_of_not_large (h : course.At a x) (hsmall : ¬ a.Large) :
    doubleUnits x < unitsBound := by
  rcases at_cases h with ⟨k, rfl, rfl⟩ | ⟨negative, m, rfl, rfl⟩
  · rw [Number.large_int, Course.along_natAbs] at hsmall
    exact (significant_ratio_lt_iff Nat.one_pos).mpr (by omega)
  · rw [doubleUnits_units]
    exact m.small

/-- Candidates on opposite sides of zero become opposite quantities, or none does. -/
theorem both_quantity? (hwidth : ∀ width, width? = some width → width.isIntegral = false)
    (hab : Number.Mirrors a b) (hfinite : a.isFinite = true) :
    Both (Option.Rel Quantity.Opposite) (quantity? width? a) (quantity? width? b) := by
  obtain ⟨place, hplace⟩ := Number.exists_point_of_isFinite hfinite
  obtain ⟨course, x, hcourse⟩ := exists_at place
  have ha := (hcourse a).mp hplace
  have hb := ha.reversed hab.opposite
  have hsettled : (∃ q, quantity? width? a = .ok (some q) ∧
        course.At q.value (course.settle width? x)) →
      (∃ q, quantity? width? b = .ok (some q) ∧
        course.reversed.At q.value (course.reversed.settle width? x)) →
      Both (Option.Rel Quantity.Opposite) (quantity? width? a) (quantity? width? b) := by
    rintro ⟨q, hq, hat⟩ ⟨q', hq', hat'⟩
    rw [settle_reversed] at hat'
    rw [hq, hq']
    exact .ok (.some (opposite_of_at hat hat'))
  cases width? with
  | none =>
    by_cases hlarge : a.Large
    · obtain ⟨cause, hcause⟩ := overflows_quantity?_iff.mpr ⟨rfl, hlarge⟩
      obtain ⟨cause', hcause'⟩ := overflows_quantity?_iff.mpr ⟨rfl, hab.large_iff.mpr hlarge⟩
      rw [hcause, hcause']
      exact .overflow cause cause'
    · have hsmall := doubleUnits_lt_of_not_large ha hlarge
      exact hsettled (exists_settled_none ha hsmall) (exists_settled_none hb hsmall)
  | some width =>
    have hlimit : course.reversed.limit width = course.limit width :=
      limit_reversed (hwidth width rfl)
    rcases Nat.lt_or_ge (course.limit width) x with hfar | hroom
    · rw [quantity?_of_limit_lt ha hfar, quantity?_of_limit_lt hb (by omega)]
      exact .ok .none
    · exact hsettled (exists_settled _ ha hroom) (exists_settled _ hb (hlimit.symm ▸ hroom))

end Candidates

/-! ## Trying candidates in turn -/

/-- The quantity that a candidate becomes, if it is inside. -/
def tried (i : Interval) (candidate : Number) : Except Overflow (Option Quantity) := do
  let found? ← quantity? i.width? candidate
  return found?.filter fun q => i.holds q.value

section Search

variable {i j : Interval} {a b : Number} {candidates others found rest : List Number} {q : Quantity}

theorem firstInside?_cons (i : Interval) (a : Number) (rest : List Number) :
    i.firstInside? (a :: rest) =
      i.tried a >>= fun found? => found?.elim (i.firstInside? rest) fun q => .ok (some q) := by
  rw [firstInside?, tried]
  cases quantity? i.width? a with
  | error cause => rfl
  | ok found? =>
    cases found? with
    | none => rfl
    | some q =>
      show (if i.holds q.value = true then Except.ok (some q) else i.firstInside? rest) =
        ((some q).filter fun q => i.holds q.value).elim (i.firstInside? rest) fun q => .ok (some q)
      cases hholds : i.holds q.value <;> simp [Option.filter_some, hholds]

theorem tried_eq_some_iff :
    i.tried a = .ok (some q) ↔ quantity? i.width? a = .ok (some q) ∧ i.holds q.value = true := by
  unfold tried
  cases quantity? i.width? a with
  | error cause => exact iff_of_false (by rintro ⟨⟩) (by rintro ⟨⟨⟩, -⟩)
  | ok found? =>
    show Except.ok (found?.filter fun q => i.holds q.value) = _ ↔ _
    rw [Except.ok.injEq, Option.filter_eq_some_iff, Except.ok.injEq]

/-- Searches over candidates that become opposite quantities or none find opposite quantities or
none. -/
theorem both_firstInside? (h : List.Forall₂ (fun a b =>
      Both (Option.Rel Quantity.Opposite) (i.tried a) (j.tried b)) candidates others) :
    Both (Option.Rel Quantity.Opposite) (i.firstInside? candidates) (j.firstInside? others) := by
  induction h with
  | nil => exact .ok .none
  | cons hab _ ih =>
    rw [firstInside?_cons, firstInside?_cons]
    refine hab.bind fun found? found'? hfound => ?_
    cases hfound with
    | none => exact ih
    | some hq => exact .ok (.some hq)

/-- What is behind the first candidate inside does not matter. -/
theorem firstInside?_append (h : i.firstInside? found = .ok (some q)) (rest : List Number) :
    i.firstInside? (found ++ rest) = .ok (some q) := by
  induction found with
  | nil => cases h
  | cons a others ih =>
    rw [firstInside?_cons] at h
    rw [List.cons_append, firstInside?_cons]
    cases htried : i.tried a with
    | error cause =>
      rw [htried] at h
      cases h
    | ok found? =>
      rw [htried] at h
      cases found? with
      | none => exact ih h
      | some found => exact h

/-- A candidate inside is found, unless the search overflows, or another one is found before. -/
theorem exists_firstInside? (hok : ∀ a ∈ candidates, ∃ found?, i.tried a = .ok found?)
    (hinside : ∃ a ∈ candidates, ∃ q, i.tried a = .ok (some q)) :
    ∃ a ∈ candidates, ∃ q, i.tried a = .ok (some q) ∧ i.firstInside? candidates = .ok (some q) := by
  induction candidates with
  | nil => simp at hinside
  | cons a others ih =>
    rw [List.forall_mem_cons] at hok
    obtain ⟨⟨found?, hfound⟩, hok⟩ := hok
    rw [firstInside?_cons, hfound]
    cases found? with
    | some q => exact ⟨a, List.mem_cons_self, q, hfound, rfl⟩
    | none =>
      obtain ⟨b, hb, q, hq⟩ := hinside
      rcases List.mem_cons.mp hb with rfl | hb
      · rw [hfound] at hq
        cases hq
      · obtain ⟨c, hc, found, htried, hfirst⟩ := ih hok ⟨b, hb, q, hq⟩
        exact ⟨c, List.mem_cons_of_mem _ hc, found, htried, hfirst⟩

/-- Searches that find opposite quantities among their first candidates do not come to the others. -/
theorem both_firstInside?_append (h : Both (Option.Rel Quantity.Opposite) (i.firstInside? found)
      (j.firstInside? (others.take found.length)))
    (hok : ∀ a ∈ found, ∃ found?, i.tried a = .ok found?)
    (hinside : ∃ a ∈ found, ∃ q, i.tried a = .ok (some q)) (rest : List Number) :
    Both (Option.Rel Quantity.Opposite) (i.firstInside? (found ++ rest)) (j.firstInside? others) := by
  obtain ⟨-, -, q, -, hfirst⟩ := exists_firstInside? hok hinside
  rw [firstInside?_append hfirst]
  rw [hfirst] at h
  generalize hothers : j.firstInside? (others.take found.length) = found' at h
  cases h with
  | ok hrel =>
    cases hrel with
    | some hq =>
      have hall := firstInside?_append hothers (others.drop found.length)
      rw [List.take_append_drop] at hall
      rw [hall]
      exact .ok (.some hq)

theorem both_tried (hq : Both (Option.Rel Quantity.Opposite) (quantity? i.width? a)
    (quantity? i.width? b)) :
    Both (Option.Rel Quantity.Opposite) (i.tried a) (i.mirrored.tried b) := by
  refine hq.bind fun found? found'? hfound => .ok ?_
  cases hfound with
  | none => exact .none
  | @some q q' hopposite =>
    have hholds : i.mirrored.holds q'.value = i.holds q.value := holds_mirrored i hopposite
    cases h : i.holds q.value with
    | true =>
      simp only [Option.filter_some, hholds, h, if_true]
      exact .some hopposite
    | false =>
      simp only [Option.filter_some, hholds, h, Bool.false_eq_true, if_false]
      exact .none

end Search

end Interval

end TreePredicate
