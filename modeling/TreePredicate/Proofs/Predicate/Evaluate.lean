import TreePredicate.Predicate.Evaluate
import TreePredicate.Proofs.Assignment.Matching
import TreePredicate.Proofs.Number.Order
import TreePredicate.Proofs.Predicate.Induction

/-!
# Evaluating comes to a decision

`Predicate.evaluate_eq` : no step of an evaluation fails, and the decision is that of
`Predicate.holds`. Each step is safe for a reason of its own:

* `Interval.held?_eq` : a bound is coerced only if its width has room for it;
* `evaluateNumber_eq` : the numbers of a tree become doubles;
* `evaluateRun_eq` : a run stays within the items, by the tests of sizes before it;
* `evaluateMatching_eq` : a largest matching is always found.
-/

set_option autoImplicit false

namespace TreePredicate

/-! ## Intervals -/

namespace Interval

theorem float_holds_of_abs_le {value : Number} (h : value.abs.le Width.float.limits.2 = true) :
    Width.float.holds value = true := by
  obtain ⟨hlow, hhigh⟩ := Width.float_limits_point
  unfold Number.le at h
  rw [hhigh] at h
  unfold Width.holds Number.le
  rw [hlow, hhigh]
  generalize (Width.float.greatestUnits : Int) = bound at h
  cases value with
  | int n =>
    simp only [Number.abs, Number.point?, Point.at_le_at, decide_eq_true_eq, Bool.and_eq_true] at *
    have hcast : ((n.natAbs : Int) * unitsPerOne).natAbs = (n * unitsPerOne).natAbs := by
      rw [Int.natAbs_mul, Int.natAbs_mul, Int.natAbs_natCast]
    have hpos := Int.mul_nonneg (Int.natCast_nonneg n.natAbs) (Int.natCast_nonneg unitsPerOne)
    omega
  | double d =>
    cases d with
    | nan => cases h
    | infinite negative => cases h
    | finite negative m =>
      simp only [Number.abs, Number.point?, Double.point?, Point.at_le_at, decide_eq_true_eq,
        Bool.and_eq_true] at *
      rw [show signed false m.units = m.units from rfl] at h
      rcases signed_eq negative m.units with e | e <;> rw [e] <;> omega

/-- A bound is coerced only if its width has room for it. -/
theorem held?_eq (value : Number) (width? : Option Width) :
    held? value width? = .ok (held value width?) := by
  unfold held? held
  split
  · next h =>
    unfold isSingle at h
    rw [Bool.and_eq_true] at h
    rw [Width.coerce, if_pos (float_holds_of_abs_le h.2)]
  · rfl

theorem ofTest?_eq (test : NumberTest) : ofTest? test = .ok (ofTest test) := by
  unfold ofTest? ofTest
  split <;> simp only [held?_eq] <;> rfl

end Interval

theorem Predicate.evaluateNumber_eq (test : NumberTest) (quantity : Quantity) :
    evaluateNumber test quantity.value =
      .ok ((Interval.ofTest test).holds quantity.value) := by
  obtain ⟨d, hd⟩ := quantity.toDouble?_eq
  unfold evaluateNumber Interval.contains?
  rw [Interval.ofTest?_eq, hd]
  rfl

/-! ## Quantifiers -/

theorem Evaluation.andThen_ok (a b : Bool) :
    andThen (.ok a) (fun _ => .ok b) = .ok (a && b) := by
  cases a <;> rfl

theorem Evaluation.anyOf_map {α β : Type} (test : β → Evaluation) (f : α → β) (xs : List α) :
    anyOf test (xs.map f) = anyOf (fun x => test (f x)) xs := by
  induction xs with
  | nil => rfl
  | cons x rest ih => rw [List.map_cons, anyOf, anyOf, ih]

theorem Evaluation.anyOf_ok {α : Type} (test : α → Bool) {evaluate : α → Evaluation}
    (xs : List α) (h : ∀ x ∈ xs, evaluate x = .ok (test x)) :
    anyOf evaluate xs = .ok (xs.any test) := by
  induction xs with
  | nil => rfl
  | cons x rest ih =>
    rw [anyOf, h x List.mem_cons_self, List.any_cons]
    cases test x with
    | true => rfl
    | false => exact ih fun y hy => h y (List.mem_cons_of_mem x hy)

namespace Quantifier

variable {α : Type}

/-- A test as an evaluation that never fails. -/
def decided (test : α → Bool) : α → Evaluation := fun x => .ok (test x)

/-- A run that stays within the items comes to a decision. -/
theorem evaluateRun_eq (tests : List (α → Bool)) (items : List α) (start : Nat)
    (h : start + tests.length ≤ items.length) :
    evaluateRun items (tests.map decided) start = .ok (run tests (items.drop start)) := by
  induction tests generalizing start with
  | nil => rfl
  | cons test rest ih =>
    rw [List.length_cons] at h
    have hlt : start < items.length := by omega
    rw [List.map_cons, evaluateRun, List.getElem?_eq_getElem hlt, List.drop_eq_getElem_cons hlt, run]
    dsimp only [decided]
    cases test items[start] with
    | true => exact ih (start + 1) (by omega)
    | false => rfl

theorem mapM_ok {ε β γ : Type} (f : β → γ) (xs : List β) :
    xs.mapM (fun x => (.ok (f x) : Except ε γ)) = .ok (xs.map f) := by
  induction xs with
  | nil => rfl
  | cons x rest ih =>
    rw [List.mapM_cons, ih]
    rfl

theorem evaluateCells_eq (tests : List (α → Bool)) (items : List α) :
    evaluateCells (tests.map decided) items =
      .ok (items.map fun item => tests.map fun test => test item) := by
  unfold evaluateCells
  rw [← mapM_ok]
  congr 1
  funext item
  rw [List.mapM_map]
  exact mapM_ok (fun test => test item) tests

theorem gridOf_eq (tests : List (α → Bool)) (items : List α) :
    gridOf items.length tests.length (items.map fun item => tests.map fun test => test item) =
      allowed tests items := by
  funext i j
  unfold gridOf allowed
  simp

theorem evaluateMatching_eq (tests : List (α → Bool)) (items : List α) :
    evaluateMatching (tests.map decided) items = .ok (Matching.size (allowed tests items)) := by
  unfold evaluateMatching
  rw [evaluateCells_eq]
  show (Matching.size? (gridOf _ (tests.map decided).length _)).mapError _ = _
  rw [List.length_map, gridOf_eq, Matching.size?_eq]
  rfl

theorem evaluate_eq (quantifier : Quantifier) (tests : List (α → Bool)) (items : List α) :
    quantifier.evaluate (tests.map decided) items = .ok (quantifier.holds tests items) := by
  have hif : ∀ (c : Prop) [Decidable c] (b : Bool),
      (if c then (.ok b : Evaluation) else .ok false) = .ok (decide c && b) := by
    intro c _ b
    by_cases hc : c <;> simp [hc]
  unfold evaluate holds
  simp only [List.length_map]
  cases quantifier with
  | exact =>
    dsimp only
    by_cases h : items.length = tests.length
    · rw [if_pos h, evaluateRun_eq tests items 0 (by omega), List.drop_zero]
      simp [h]
    · rw [if_neg h]
      simp [h]
  | any =>
    dsimp only
    rw [List.isEmpty_map]
    cases tests.isEmpty with
    | true => rfl
    | false =>
      apply Evaluation.anyOf_ok _ items
      intro x _
      rw [Evaluation.anyOf_map]
      exact Evaluation.anyOf_ok _ tests fun test _ => rfl
  | subset =>
    dsimp only
    rw [evaluateMatching_eq]
    exact hif _ _
  | superset =>
    dsimp only
    rw [evaluateMatching_eq]
    exact hif _ _
  | startsWith =>
    dsimp only
    by_cases h : tests.length ≤ items.length
    · rw [if_pos h, evaluateRun_eq tests items 0 (by omega), List.drop_zero]
      simp [h]
    · rw [if_neg h]
      simp [h]
  | endsWith =>
    dsimp only
    by_cases h : tests.length ≤ items.length
    · rw [if_pos h, evaluateRun_eq tests items _ (by omega)]
      simp [h]
    · rw [if_neg h]
      simp [h]
  | containsSequence =>
    refine Evaluation.anyOf_ok _ _ fun start hstart => evaluateRun_eq tests items start ?_
    rw [List.mem_range] at hstart
    omega

end Quantifier

/-! ## Predicates -/

namespace Predicate

open Quantifier (decided)

theorem evaluations_eq {elements : List Predicate}
    (h : ∀ p ∈ elements, ∀ node, p.evaluate node = .ok (p.holds node)) :
    evaluations elements = (elements.map holds).map decided := by
  induction elements with
  | nil => rfl
  | cons p rest ih =>
    rw [evaluations, List.map_cons, List.map_cons, ih fun q hq => h q (List.mem_cons_of_mem p hq)]
    congr 1
    funext node
    exact h p List.mem_cons_self node

theorem evaluateFields_eq {fields : List (String × Predicate)}
    (h : ∀ f ∈ fields, ∀ node, f.2.evaluate node = .ok (f.2.holds node))
    (entries : List (String × Node)) :
    evaluateFields fields entries = .ok (fieldsHold fields entries) := by
  induction fields with
  | nil => rfl
  | cons f rest ih =>
    obtain ⟨name, p⟩ := f
    rw [evaluateFields, fieldsHold, ih fun g hg => h g (List.mem_cons_of_mem _ hg)]
    cases Table.find? name entries with
    | none => rfl
    | some node =>
      dsimp only
      rw [h (name, p) List.mem_cons_self node, Evaluation.andThen_ok]

theorem evaluateItems_eq {fields : List (Int × Predicate)}
    (h : ∀ f ∈ fields, ∀ node, f.2.evaluate node = .ok (f.2.holds node)) (items : List Node) :
    evaluateItems fields items = .ok (itemsHold fields items) := by
  induction fields with
  | nil => rfl
  | cons f rest ih =>
    obtain ⟨position, p⟩ := f
    rw [evaluateItems, itemsHold, ih fun g hg => h g (List.mem_cons_of_mem _ hg)]
    cases atPosition? items position with
    | none => rfl
    | some node =>
      dsimp only
      rw [h (position, p) List.mem_cons_self node, Evaluation.andThen_ok]

theorem evaluateNegated_eq {negated : List (Path × Predicate)}
    (h : ∀ f ∈ negated, ∀ node, f.2.evaluate node = .ok (f.2.holds node)) (node : Node) :
    evaluateNegated negated node = .ok (noneHolds negated node) := by
  induction negated with
  | nil => rfl
  | cons f rest ih =>
    obtain ⟨path, p⟩ := f
    rw [evaluateNegated, noneHolds, ih fun g hg => h g (List.mem_cons_of_mem _ hg)]
    cases node.resolve? path with
    | none => rfl
    | some target =>
      dsimp only
      rw [h (path, p) List.mem_cons_self target]
      exact Evaluation.andThen_ok _ _

/-- An evaluation comes to a decision, which is that of `Predicate.holds`. -/
theorem evaluate_eq (p : Predicate) (node : Node) : p.evaluate node = .ok (p.holds node) := by
  induction p generalizing node with
  | group fields negated ihf ihn =>
    cases node with
    | compound entries =>
      rw [evaluate, holds, evaluateFields_eq ihf, evaluateNegated_eq ihn, Evaluation.andThen_ok]
    | list items => simp only [evaluate, holds]
    | number quantity => simp only [evaluate, holds]
    | text value => simp only [evaluate, holds]
  | indexGroup fields ihf =>
    cases node with
    | list items => rw [evaluate, holds, evaluateItems_eq ihf]
    | compound entries => simp only [evaluate, holds]
    | number quantity => simp only [evaluate, holds]
    | text value => simp only [evaluate, holds]
  | number test =>
    cases node with
    | number quantity =>
      rw [evaluate, holds]
      exact evaluateNumber_eq test quantity
    | compound entries => simp only [evaluate, holds]
    | list items => simp only [evaluate, holds]
    | text value => simp only [evaluate, holds]
  | text value => cases node <;> simp only [evaluate, holds]
  | pattern p => cases node <;> simp only [evaluate, holds]
  | list quantifier elements ih =>
    cases node with
    | list items =>
      rw [evaluate, holds, evaluations_eq ih, tests_eq_map]
      exact Quantifier.evaluate_eq quantifier _ items
    | compound entries => simp only [evaluate, holds]
    | number quantity => simp only [evaluate, holds]
    | text value => simp only [evaluate, holds]

end Predicate

end TreePredicate
