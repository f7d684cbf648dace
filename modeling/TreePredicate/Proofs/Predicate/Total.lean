import TreePredicate.Proofs.Predicate.Evaluate

/-!
# Nothing fails while a predicate is evaluated

An evaluation has four steps that could fail, and each is only taken where it cannot:

* `Quantifier.starts` : where the runs of a positional quantifier start, which leaves room for all
  of the run (`add_le_of_mem_starts`);
* `Interval.held?_eq`, `Quantity.toDouble?_eq` : a bound is coerced only if there is room for it,
  and each number of a tree becomes a double;
* `Assignment.given?` : the costs that the solver is given, if it is called at all
  (`assign_eq_given`); those of a matching are finite and there are some (`given_spec`);
* `Predicate.evaluate_total` : so every evaluation comes to a decision.
-/

set_option autoImplicit false

namespace TreePredicate

/-! ## Runs -/

namespace Quantifier

variable {α : Type}

/-- Where a positional quantifier has its runs start, for so many tests and items. -/
def starts (quantifier : Quantifier) (count size : Nat) : List Nat :=
  match quantifier with
  | .exact => if size = count then [0] else []
  | .startsWith => if count ≤ size then [0] else []
  | .endsWith => if count ≤ size then [size - count] else []
  | .containsSequence => List.range (size + 1 - count)
  | _ => []

/-- A quantifier that says where its elements stand among the items. -/
def IsPositional : Quantifier → Prop
  | .any | .subset | .superset => False
  | _ => True

theorem anyOf_singleton {β : Type} (test : β → Evaluation) (x : β) :
    Evaluation.anyOf test [x] = test x := by
  unfold Evaluation.anyOf
  split
  · next h => exact h.symm
  · rfl

/-- A positional quantifier looks for a run at each of its starts. -/
theorem evaluate_eq_anyOf_starts {quantifier : Quantifier} (h : quantifier.IsPositional)
    (tests : List (α → Evaluation)) (items : List α) :
    quantifier.evaluate tests items = Evaluation.anyOf (evaluateRun items tests)
      (quantifier.starts tests.length items.length) := by
  have hone : ∀ (c : Prop) [Decidable c] (start : Nat),
      (if c then evaluateRun items tests start else .ok false) =
        Evaluation.anyOf (evaluateRun items tests) (if c then [start] else []) := by
    intro c _ start
    by_cases hc : c
    · rw [if_pos hc, if_pos hc, anyOf_singleton]
    · rw [if_neg hc, if_neg hc]
      rfl
  cases quantifier with
  | exact => exact hone _ 0
  | startsWith => exact hone _ 0
  | endsWith => exact hone _ _
  | containsSequence => rfl
  | _ => exact h.elim

/-- A run has room between its start and the end of the items. -/
theorem add_le_of_mem_starts {quantifier : Quantifier} {count size start : Nat}
    (h : start ∈ quantifier.starts count size) : start + count ≤ size := by
  unfold starts at h
  cases quantifier with
  | containsSequence =>
    have hlt := List.mem_range.mp h
    omega
  | any => cases h
  | subset => cases h
  | superset => cases h
  | _ =>
    dsimp only at h
    split at h
    · have hstart := List.mem_singleton.mp h
      omega
    · cases h

end Quantifier

/-! ## Costs -/

namespace Assignment

variable {rows columns : Nat}

/-- The costs that the solver is given for some costs: those, with a guard for the forbidden ones.
It is not called if all are forbidden. -/
def given? (cost : Grid rows columns Double) : Option (Grid rows columns Double) :=
  match ((Grid.places rows columns).map fun (i, j) => cost i j).filter (!isForbidden ·) with
  | [] => none
  | first :: others =>
    some fun i j => if isForbidden (cost i j) then guard (others.foldl greater first) else cost i j

/-- An assignment takes the allowed part of what the solver finds for the costs it is given. -/
theorem assign_eq_given (cost : Grid rows columns Double) :
    assign cost = match given? cost with
      | none => .ok []
      | some given =>
        (solveDoubles given).map fun pairs => pairs.filter fun (i, j) => !isForbidden (cost i j) := by
  unfold assign given?
  simp only [Matching.table_getD]
  generalize List.filter _ _ = allowed
  cases allowed with
  | nil => rfl
  | cons first others =>
    dsimp only
    rw [← map_eq_pure_bind]
    rfl

end Assignment

namespace Matching

open Assignment

variable {rows columns : Nat}

/-- The costs of a matching as the solver is given them: the guard is one. -/
theorem given?_cellCost (allowed : Grid rows columns Bool) :
    given? (fun i j => cellCost (allowed i j)) = none ∨
      (∃ i j, allowed i j = true) ∧
        given? (fun i j => cellCost (allowed i j)) = some fun i j => guarded (allowed i j) := by
  unfold given?
  split
  · exact .inl rfl
  · next first others hsome =>
    refine .inr ?_
    have hallowed : ∀ d ∈ first :: others, ∃ i j, allowed i j = true ∧ d = Double.zero false := by
      intro d hd
      rw [← hsome] at hd
      obtain ⟨hmem, hfree⟩ := List.mem_filter.mp hd
      obtain ⟨⟨i, j⟩, -, rfl⟩ := List.mem_map.mp hmem
      rw [isForbidden_cellCost, Bool.not_not] at hfree
      refine ⟨i, j, hfree, ?_⟩
      show cellCost (allowed i j) = Double.zero false
      rw [hfree, cellCost, if_pos rfl]
    obtain ⟨i, j, hcell, hfirst⟩ := hallowed first List.mem_cons_self
    refine ⟨⟨i, j, hcell⟩, ?_⟩
    have hothers : ∀ d ∈ others, d = Double.zero false := by
      intro d hd
      obtain ⟨-, -, -, hzero⟩ := hallowed d (List.mem_cons_of_mem first hd)
      exact hzero
    rw [hfirst, foldl_greater hothers, guard_zero]
    simp only [isForbidden_cellCost]
    rfl

/-- The solver is only called with finite costs, and not without any. -/
theorem given_spec {allowed : Grid rows columns Bool} {given : Grid rows columns Double}
    (h : given? (fun i j => cellCost (allowed i j)) = some given) :
    0 < rows ∧ 0 < columns ∧ ∀ i j, (given i j).isFinite = true := by
  rcases given?_cellCost allowed with hnone | ⟨⟨i, j, -⟩, hsome⟩
  · rw [h] at hnone
    cases hnone
  · rw [h, Option.some.injEq] at hsome
    subst hsome
    exact ⟨i.pos, j.pos, fun i j => isFinite_guarded (allowed i j)⟩

end Matching

/-! ## Predicates -/

namespace Predicate

/-- Every evaluation comes to a decision, and no step of one fails. Each run that a positional
quantifier looks for has room among the items; each bound has room in the width to which it is
coerced; each number of a tree becomes a double; and the solver is called for finite costs only, and
not for none. -/
theorem evaluate_total :
    (∀ (p : Predicate) (node : Node), ∃ decision, p.evaluate node = .ok decision) ∧
    (∀ {α : Type} (quantifier : Quantifier), quantifier.IsPositional →
      ∀ (tests : List (α → Evaluation)) (items : List α),
        quantifier.evaluate tests items = Evaluation.anyOf (Quantifier.evaluateRun items tests)
          (quantifier.starts tests.length items.length) ∧
        ∀ start ∈ quantifier.starts tests.length items.length,
          start + tests.length ≤ items.length) ∧
    (∀ (bound : Number) (width? : Option Width), ∃ held, Interval.held? bound width? = .ok held) ∧
    (∀ quantity : Quantity, ∃ d, quantity.value.toDouble? = .ok d) ∧
    ∀ {rows columns : Nat} (allowed : Grid rows columns Bool),
      match Assignment.given? fun i j => Matching.cellCost (allowed i j) with
      | none => Matching.largest? allowed = .ok []
      | some given =>
        0 < rows ∧ 0 < columns ∧ (∀ i j, (given i j).isFinite = true) ∧
          Matching.largest? allowed = (Assignment.solveDoubles given).map fun pairs =>
            pairs.filter fun (i, j) => allowed i j := by
  refine ⟨fun p node => ⟨_, evaluate_eq p node⟩, ?_, fun bound width? =>
    ⟨_, Interval.held?_eq bound width?⟩, fun quantity => quantity.toDouble?_eq, ?_⟩
  · intro α quantifier hpositional tests items
    exact ⟨Quantifier.evaluate_eq_anyOf_starts hpositional tests items,
      fun start hstart => Quantifier.add_le_of_mem_starts hstart⟩
  · intro rows columns allowed
    have hassign := Assignment.assign_eq_given fun i j => Matching.cellCost (allowed i j)
    simp only [Matching.isForbidden_cellCost, Bool.not_not] at hassign
    split
    · next hnone =>
      rw [hnone] at hassign
      exact hassign
    · next given hgiven =>
      rw [hgiven] at hassign
      obtain ⟨hrows, hcolumns, hfinite⟩ := Matching.given_spec hgiven
      exact ⟨hrows, hcolumns, hfinite, hassign⟩

/-- Tests with bounds that no single precision number holds: a large integer and not-a-number. -/
def unholdable : List Predicate :=
  [.number (.equals (.int (10 ^ 400)) (some .float)),
    .number (.range (some (.double .nan)) none true true (some .float))]

/-- More items than tests. -/
def threeTexts : List Node := [.text "a", .text "b", .text "c"]

theorem evaluate_total_unholdable :
    (∃ decision, (Predicate.list .endsWith unholdable).evaluate (.list threeTexts) =
      .ok decision) ∧
    (Quantifier.endsWith.evaluate (evaluations unholdable) threeTexts =
        Evaluation.anyOf (Quantifier.evaluateRun threeTexts (evaluations unholdable))
          (Quantifier.endsWith.starts 2 3) ∧
      1 + 2 ≤ 3) ∧
    ∃ held, Interval.held? (.int (10 ^ 400)) (some .float) = .ok held := by
  obtain ⟨hdecides, hruns, hbounds, -⟩ := evaluate_total
  obtain ⟨hevaluate, hroom⟩ :=
    hruns .endsWith trivial (evaluations unholdable) threeTexts
  exact ⟨hdecides _ _, ⟨hevaluate, hroom 1 (List.mem_singleton.mpr rfl)⟩, hbounds _ _⟩

end Predicate

end TreePredicate
