import Mathlib.Data.List.Forall2
import TreePredicate.Proofs.Number.Range
import TreePredicate.Proofs.Number.Same

/-!
# Arithmetic on both sides of zero

Rounding looks at distances from zero only, so what is worked out on one side of zero is worked out on
the other side as well. The two zeros are at one place, and which of them comes out does not matter.

* `Point.opposite`, `Double.Opposite`, `Number.Opposite` : places and numbers on opposite sides of
  zero, as far from it; `Number.Mirrors` : such integers or such doubles;
* `Number.le_of_opposite`, `Number.lt_of_opposite` : opposite numbers are in the reverse order;
* `Double.opposite_add`, `Double.opposite_half` : sums and halves are opposite;
* `Overflow.Both` : computations that both overflow or have related results;
* `Number.Mirrors.add?`, `Number.Mirrors.mean?` : the mixed arithmetic, which refuses a number exactly
  if it refuses the opposite one.
-/

set_option autoImplicit false

namespace TreePredicate

-- Unfolded, these are powers that no step may write out.
attribute [local irreducible] unitsPerOne unitsBound greatestInteger lastPlace integerLimit

/-! ## Places -/

/-- The place on the other side of zero, as far from it. -/
def Point.opposite : Point → Point
  | .minusInfinity => .plusInfinity
  | .at x => .at (-x)
  | .plusInfinity => .minusInfinity

namespace Point

theorem opposite_opposite (x : Point) : x.opposite.opposite = x := by
  cases x <;> simp [opposite]

theorem opposite_lt_opposite (x y : Point) : x.opposite.lt y.opposite = y.lt x := by
  cases x <;> cases y <;> simp [opposite, lt]

theorem opposite_le_opposite (x y : Point) : x.opposite.le y.opposite = y.le x := by
  rw [le, le, opposite_lt_opposite]

theorem opposite_eq_iff {x y : Point} : x.opposite = y.opposite ↔ x = y := by
  constructor
  · intro h
    rw [← opposite_opposite x, h, opposite_opposite]
  · rintro rfl
    rfl

end Point

theorem signed_not (negative : Bool) (m : Nat) : signed (!negative) m = -signed negative m := by
  cases negative <;> simp [signed]

/-! ## Doubles -/

namespace Double

/-- Two doubles on opposite sides of zero, as far from it, or both not-a-number. -/
def Opposite (d e : Double) : Prop := e.point? = d.point?.map Point.opposite

variable {d d' e e' : Double}

theorem opposite_neg (d : Double) : Opposite d d.neg := by
  cases d with
  | nan => rfl
  | infinite negative => cases negative <;> rfl
  | finite negative m =>
    show some (Point.at _) = some (Point.at _)
    rw [signed_not]

/-- What lies opposite of what. -/
theorem Opposite.cases (h : Opposite d e) :
    (d = .nan ∧ e = .nan) ∨
      (∃ negative, d = .infinite negative ∧ e = .infinite !negative) ∨
      ∃ negative m negative' m', d = .finite negative m ∧ e = .finite negative' m' ∧
        signed negative' m'.units = -signed negative m.units := by
  unfold Opposite at h
  cases d with
  | nan =>
    cases e with
    | nan => exact .inl ⟨rfl, rfl⟩
    | infinite negative => cases negative <;> cases h
    | finite negative m => cases h
  | infinite negative =>
    right
    left
    cases e with
    | nan => cases negative <;> cases h
    | infinite negative' => cases negative <;> cases negative' <;> first | exact ⟨_, rfl, rfl⟩ | cases h
    | finite negative' m => cases negative <;> cases h
  | finite negative m =>
    right
    right
    cases e with
    | nan => cases h
    | infinite negative' => cases negative' <;> cases h
    | finite negative' m' => exact ⟨_, _, _, _, rfl, rfl, Point.at.inj (Option.some.inj h)⟩

theorem opposite_ofUnits (negative : Bool) (num den : Nat) :
    Opposite (ofUnits negative num den) (ofUnits (!negative) num den) := by
  unfold ofUnits
  dsimp only
  split
  · exact opposite_neg _
  · exact opposite_neg (.infinite negative)

theorem opposite_ofUnits_zero (negative negative' : Bool) :
    Opposite (ofUnits negative 0 1) (ofUnits negative' 0 1) := by
  unfold Opposite
  rw [point?_ofUnits_zero, point?_ofUnits_zero]
  rfl

theorem decide_neg_lt {n : Int} (h : n ≠ 0) : decide (-n < 0) = !decide (n < 0) := by
  rw [← decide_not]
  exact decide_eq_decide.mpr (by omega)

theorem opposite_ofSignedUnits (n : Int) : Opposite (ofSignedUnits n) (ofSignedUnits (-n)) := by
  unfold ofSignedUnits
  rcases Decidable.em (n = 0) with rfl | hne
  · exact opposite_ofUnits_zero _ _
  · rw [decide_neg_lt hne, Int.natAbs_neg]
    exact opposite_ofUnits _ _ _

theorem opposite_ofRatio (n : Int) {den : Nat} (pos : 0 < den) :
    Opposite (ofRatio (n < 0) n.natAbs den) (ofRatio (-n < 0) (-n).natAbs den) := by
  unfold ofRatio
  rcases Decidable.em (n = 0) with rfl | hne
  · have hzero : ∀ negative, ofUnits negative ((0 : Int).natAbs * unitsPerOne) den =
        ofUnits negative 0 1 := by
      intro negative
      have hsame : Rounding.significant 53 0 den = Rounding.significant 53 0 1 := by
        simp [Rounding.significant, Rounding.nearest, pos]
      unfold ofUnits
      simp only [Int.natAbs_zero, Nat.zero_mul, hsame]
    rw [Int.neg_zero, hzero]
    exact opposite_ofUnits_zero _ _
  · rw [decide_neg_lt hne, Int.natAbs_neg]
    exact opposite_ofUnits _ _ _

/-- The place of a sum does not depend on which zero comes out. -/
theorem point?_add_finite (negative negative' : Bool) (m m' : Magnitude) :
    ((finite negative m).add (finite negative' m')).point? =
      (ofSignedUnits (signed negative m.units + signed negative' m'.units)).point? := by
  rw [add]
  split
  · next hzero =>
    simp only [Bool.and_eq_true, beq_iff_eq] at hzero
    obtain ⟨⟨⟨rfl, rfl⟩, hm⟩, hm'⟩ := hzero
    have hnone : signed true m.units + signed true m'.units = 0 := by
      rw [hm, hm']
      rfl
    rw [hnone, zero, point?_ofUnits_zero, ofSignedUnits, Int.natAbs_zero, point?_ofUnits_zero]
  · rfl

theorem add_comm (d e : Double) : d.add e = e.add d := by
  cases d <;> cases e <;> try rfl
  · next a b => cases a <;> cases b <;> rfl
  · next a m b m' =>
    rw [add, add, Int.add_comm, Bool.and_comm a b, Bool.and_right_comm]

theorem opposite_add (h : Opposite d d') (h' : Opposite e e') :
    Opposite (d.add e) (d'.add e') := by
  rcases h.cases with ⟨rfl, rfl⟩ | ⟨negative, rfl, rfl⟩ | ⟨a, m, a', m', rfl, rfl, hm⟩
  · exact opposite_neg .nan
  · rcases h'.cases with ⟨rfl, rfl⟩ | ⟨other, rfl, rfl⟩ | ⟨b, k, b', k', rfl, rfl, -⟩
    · exact opposite_neg .nan
    · cases negative <;> cases other <;> rfl
    · exact opposite_neg (.infinite negative)
  · rcases h'.cases with ⟨rfl, rfl⟩ | ⟨other, rfl, rfl⟩ | ⟨b, k, b', k', rfl, rfl, hk⟩
    · exact opposite_neg .nan
    · exact opposite_neg (.infinite other)
    · have hsum := opposite_ofSignedUnits (signed a m.units + signed b k.units)
      unfold Opposite at hsum ⊢
      rw [point?_add_finite, point?_add_finite, hm, hk, ← Int.neg_add, hsum]

theorem opposite_half (h : Opposite d e) : Opposite d.half e.half := by
  rcases h.cases with ⟨rfl, rfl⟩ | ⟨negative, rfl, rfl⟩ | ⟨a, m, a', m', rfl, rfl, hm⟩
  · exact h
  · exact h
  · rw [← signed_not] at hm
    obtain ⟨hunits, hzero | rfl⟩ := signed_inj hm
    · have hhalf : ∀ negative, ofUnits negative 0 2 = ofUnits negative 0 1 := fun _ => by rfl
      rw [half, half, ← hunits, hzero, hhalf, hhalf]
      exact opposite_ofUnits_zero _ _
    · rw [half, half, hunits]
      exact opposite_ofUnits _ _ _

end Double

/-! ## Numbers -/

namespace Number

/-- Two numbers on opposite sides of zero, as far from it, or both not-a-number. -/
def Opposite (a b : Number) : Prop := b.point? = a.point?.map Point.opposite

/-- Two opposite integers or two opposite doubles. -/
inductive Mirrors : Number → Number → Prop
  | int (n : Int) : Mirrors (.int n) (.int (-n))
  | double {d e : Double} (h : Double.Opposite d e) : Mirrors (.double d) (.double e)

variable {a a' b b' : Number}

theorem mirrors_neg (a : Number) : Mirrors a a.neg := by
  cases a with
  | int n => exact .int n
  | double d => exact .double (Double.opposite_neg d)

theorem Mirrors.opposite (h : Mirrors a b) : Opposite a b := by
  cases h with
  | int n =>
    show some (Point.at _) = some (Point.at _)
    rw [Int.neg_mul]
  | double h => exact h

theorem opposite_neg (a : Number) : Opposite a a.neg := (mirrors_neg a).opposite

theorem Opposite.symm (h : Opposite a b) : Opposite b a := by
  unfold Opposite at h ⊢
  rw [h, Option.map_map]
  cases a.point? with
  | none => rfl
  | some x => exact congrArg some (Point.opposite_opposite x).symm

theorem le_of_opposite (ha : Opposite a a') (hb : Opposite b b') : b'.le a' = a.le b := by
  unfold le
  rw [ha, hb]
  cases a.point? <;> cases b.point? <;> simp [Point.opposite_le_opposite]

theorem lt_of_opposite (ha : Opposite a a') (hb : Opposite b b') : b'.lt a' = a.lt b := by
  unfold lt
  rw [ha, hb]
  cases a.point? <;> cases b.point? <;> simp [Point.opposite_lt_opposite]

theorem same_of_opposite (ha : Opposite a a') (hb : Opposite b b') : a'.same b' = a.same b := by
  unfold same
  rw [ha, hb]
  cases a.point? <;> cases b.point? <;> simp [Point.opposite_eq_iff]

theorem same_comm (a b : Number) : a.same b = b.same a := by
  unfold same
  cases a.point? <;> cases b.point? <;> simp [eq_comm]

theorem Mirrors.isFinite_eq (h : Mirrors a b) : b.isFinite = a.isFinite := by
  cases h with
  | int n => rfl
  | double h =>
    rcases h.cases with ⟨rfl, rfl⟩ | ⟨negative, rfl, rfl⟩ | ⟨a, m, a', m', rfl, rfl, hm⟩ <;> rfl

theorem Mirrors.large_iff (h : Mirrors a b) : b.Large ↔ a.Large := by
  cases h with
  | int n => rw [large_int, large_int, Int.natAbs_neg]
  | double h => exact iff_of_false (not_large_double _) (not_large_double _)

end Number

/-! ## Computations that may overflow -/

namespace Overflow

variable {α β γ δ : Type} {R : α → β → Prop} {S : γ → δ → Prop} {x : Except Overflow α}
  {y : Except Overflow β}

/-- Two computations that both overflow, or have related results. -/
inductive Both (R : α → β → Prop) : Except Overflow α → Except Overflow β → Prop
  | overflow (cause cause' : Overflow) : Both R (.error cause) (.error cause')
  | ok {a : α} {b : β} (h : R a b) : Both R (.ok a) (.ok b)

theorem Both.bind {f : α → Except Overflow γ} {g : β → Except Overflow δ} (h : Both R x y)
    (hfg : ∀ a b, R a b → Both S (f a) (g b)) : Both S (x >>= f) (y >>= g) := by
  cases h with
  | overflow cause cause' => exact .overflow cause cause'
  | ok hab => exact hfg _ _ hab

theorem both_mapM {f : γ → Except Overflow α} {g : δ → Except Overflow β} {xs : List γ}
    {ys : List δ} (h : List.Forall₂ (fun x y => Both R (f x) (g y)) xs ys) :
    Both (List.Forall₂ R) (xs.mapM f) (ys.mapM g) := by
  induction h with
  | nil => exact .ok .nil
  | cons hxy _ ih =>
    rw [List.mapM_cons, List.mapM_cons]
    refine hxy.bind fun a b hab => ih.bind fun as bs hrest => ?_
    exact .ok (.cons hab hrest)

end Overflow

open Overflow

namespace Number

/-- A double that comes of integers is refused on both sides of zero or on none. -/
theorem both_bounded? {d e : Double} (cause : Overflow) (h : Double.Opposite d e) :
    Both Double.Opposite (bounded? cause d) (bounded? cause e) := by
  rcases h.cases with ⟨rfl, rfl⟩ | ⟨negative, rfl, rfl⟩ | ⟨a, m, a', m', rfl, rfl, hm⟩
  · exact .ok h
  · exact .overflow cause cause
  · exact .ok h

namespace Mirrors

variable {a a' b b' : Number}

theorem toDouble? (h : Mirrors a b) : Both Double.Opposite a.toDouble? b.toDouble? := by
  cases h with
  | int n => exact both_bounded? _ (Double.opposite_ofRatio n Nat.one_pos)
  | double h => exact .ok h

theorem add? (ha : Mirrors a a') (hb : Mirrors b b') :
    Both Mirrors (a.add? b) (a'.add? b') := by
  have hmixed : Both Mirrors
      (do
        let x ← a.toDouble?
        let y ← b.toDouble?
        return .double (x.add y))
      (do
        let x ← a'.toDouble?
        let y ← b'.toDouble?
        return .double (x.add y)) := by
    refine ha.toDouble?.bind fun d d' hd => hb.toDouble?.bind fun e e' he => ?_
    exact .ok (.double (Double.opposite_add hd he))
  cases ha with
  | int m =>
    cases hb with
    | int n =>
      show Both Mirrors (.ok (.int (m + n))) (.ok (.int (-m + -n)))
      rw [← Int.neg_add]
      exact .ok (.int (m + n))
    | double h => exact hmixed
  | double h => exact hmixed

theorem half? (h : Mirrors a b) : Both Double.Opposite a.half? b.half? := by
  cases h with
  | int n => exact both_bounded? _ (Double.opposite_ofRatio n Nat.two_pos)
  | double h => exact .ok (Double.opposite_half h)

end Mirrors

theorem add?_comm_both (a b : Number) : Both Eq (a.add? b) (b.add? a) := by
  have hmixed : ∀ x? y? : Except Overflow Double, Both Eq
      (do
        let x ← x?
        let y ← y?
        return Number.double (x.add y))
      (do
        let y ← y?
        let x ← x?
        return Number.double (y.add x)) := by
    intro x? y?
    cases x? with
    | error cause =>
      cases y? with
      | error cause' => exact .overflow cause cause'
      | ok y => exact .overflow cause cause
    | ok x =>
      cases y? with
      | error cause' => exact .overflow cause' cause'
      | ok y => exact .ok (congrArg Number.double (Double.add_comm x y))
  cases a with
  | int m =>
    cases b with
    | int n => exact .ok (congrArg Number.int (Int.add_comm m n))
    | double e => exact hmixed _ _
  | double d => cases b <;> exact hmixed _ _

/-- Opposite ends have opposite midpoints, in either order. -/
theorem Mirrors.mean? {a a' b b' : Number} (ha : Mirrors a a') (hb : Mirrors b b') :
    Both Double.Opposite (a.mean? b) (b'.mean? a') := by
  have hsum : Both Mirrors (a.add? b) (b'.add? a') := by
    have hopposite := ha.add? hb
    have hcomm := add?_comm_both a' b'
    generalize a.add? b = sum at hopposite ⊢
    generalize a'.add? b' = sum' at hopposite hcomm
    generalize b'.add? a' = sum'' at hcomm ⊢
    cases hcomm with
    | overflow cause cause' =>
      cases hopposite
      exact .overflow _ _
    | ok heq =>
      subst heq
      exact hopposite
  exact hsum.bind fun s s' hs => hs.half?

end Number

end TreePredicate
