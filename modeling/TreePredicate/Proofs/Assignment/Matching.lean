import Mathlib.Algebra.Order.Group.Int
import Mathlib.Tactic.Ring
import TreePredicate.Matching
import TreePredicate.Proofs.Assignment.Optimal
import TreePredicate.Proofs.Number.Order

/-!
# Matchings through assignments

A largest matching is found as a cheapest assignment in which an allowed cell costs nothing and any
other one a guard of one.

* `Assignment.solveDoubles_of_finite` : finite costs have an assignment, and it is solved in units;
* `penalty` : these costs;
* `largest?_eq` : a largest matching is always found, and it is the allowed part of a cheapest
  assignment of the penalties;
* `allowedPairs`, `total_penalty` : an assignment costs one for each pair that is not allowed;
* `length_allowedPairs_eq` : whichever cheapest assignment is found, its allowed pairs are as many as
  a largest matching has;
* `size_eq_min` : where a full assignment of allowed cells exists, a largest matching is full;
* `size_le_rows`, `size_le_columns`, `size_mono` : a largest matching has a cell for each row, or for
  each column, at most, and it can only grow with the allowed cells.
-/

set_option autoImplicit false

namespace TreePredicate

/-! ## Finite costs -/

namespace Assignment

variable {rows columns : Nat}

/-- Finite costs in units. -/
def inUnits (cost : Grid rows columns Double) : Grid rows columns Int :=
  fun i j => (units? (cost i j)).getD 0

/-- Finite costs are solved in units. -/
theorem solveDoubles_of_finite {cost : Grid rows columns Double}
    (h : ∀ i j, (cost i j).isFinite = true) : solveDoubles cost = .ok (solve (inUnits cost)) := by
  have hcell : ∀ i j, ∃ negative m, cost i j = .finite negative m := by
    intro i j
    have hfinite := h i j
    unfold Double.isFinite at hfinite
    split at hfinite
    · next negative m heq => exact ⟨negative, m, heq⟩
    · cases hfinite
  unfold solveDoubles
  dsimp only
  rw [if_neg ?valid]
  case valid =>
    rw [List.any_eq_true]
    rintro ⟨d, hd, hinvalid⟩
    obtain ⟨⟨i, j⟩, -, rfl⟩ := List.mem_map.mp hd
    obtain ⟨negative, m, heq⟩ := hcell i j
    simp [heq] at hinvalid
  rw [if_neg ?free]
  case free =>
    rw [List.any_eq_true]
    rintro ⟨⟨i, j⟩, -, hforbidden⟩
    obtain ⟨negative, m, heq⟩ := hcell i j
    simp [heq, isForbidden] at hforbidden
  have hgrid : ∀ beyond, (fun i j => (units? (cost i j)).getD beyond) = inUnits cost := by
    intro beyond
    funext i j
    obtain ⟨negative, m, heq⟩ := hcell i j
    rw [inUnits, heq]
    rfl
  rw [hgrid]

end Assignment

namespace Matching

open Assignment

variable {rows columns : Nat}

/-- The cost of a cell in units: nothing if it is allowed, and otherwise one. -/
def penalty (allowed : Grid rows columns Bool) : Grid rows columns Int :=
  fun i j => if allowed i j then 0 else unitsPerOne

/-! ## The guard -/

theorem table_getD {α : Type} (grid : Grid rows columns α) (i : Fin rows) (j : Fin columns)
    (default : α) : (grid.table.getD i #[]).getD j default = grid i j := by
  simp [Grid.table]

/-- All that is ever evaluated of the costs of cells. -/
theorem evaluated_costs :
    (∀ allowed, isForbidden (cellCost allowed) = !allowed) ∧
      guard (Double.zero false) = Double.ofInt 1 ∧
      greater (Double.zero false) (Double.zero false) = Double.zero false := by decide +kernel

theorem isForbidden_cellCost (allowed : Bool) : isForbidden (cellCost allowed) = !allowed :=
  evaluated_costs.1 allowed

theorem guard_zero : guard (Double.zero false) = Double.ofInt 1 := evaluated_costs.2.1

theorem greater_zero : greater (Double.zero false) (Double.zero false) = Double.zero false :=
  evaluated_costs.2.2

theorem foldl_greater {costs : List Double} (h : ∀ d ∈ costs, d = Double.zero false) :
    costs.foldl greater (Double.zero false) = Double.zero false := by
  induction costs with
  | nil => rw [List.foldl_nil]
  | cons d rest ih =>
    rw [List.foldl_cons, h d List.mem_cons_self, greater_zero]
    exact ih fun e he => h e (List.mem_cons_of_mem _ he)

/-- The cost of a cell once the guard stands for the forbidden ones. -/
def guarded (allowed : Bool) : Double :=
  if !allowed then Double.ofInt 1 else cellCost allowed

/-- All that is ever evaluated of the costs that the guard leaves. -/
theorem evaluated_guarded :
    ∀ allowed, (guarded allowed).isFinite = true ∧
      (units? (guarded allowed)).getD 0 = if allowed then 0 else (unitsPerOne : Int) := by
  decide +kernel

theorem isFinite_guarded (allowed : Bool) : (guarded allowed).isFinite = true :=
  (evaluated_guarded allowed).1

theorem inUnits_guarded (allowed : Grid rows columns Bool) :
    inUnits (fun i j => guarded (allowed i j)) = penalty allowed := by
  funext i j
  exact (evaluated_guarded (allowed i j)).2

/-! ## Largest matchings -/

theorem solveDoubles_guarded (allowed : Grid rows columns Bool) :
    solveDoubles (fun i j => guarded (allowed i j)) = .ok (solve (penalty allowed)) := by
  rw [solveDoubles_of_finite fun i j => isFinite_guarded (allowed i j), inUnits_guarded]

/-- A largest matching is always found: the allowed part of a cheapest assignment. -/
theorem largest?_eq (allowed : Grid rows columns Bool) :
    largest? allowed = .ok ((solve (penalty allowed)).filter fun p => allowed p.1 p.2) := by
  unfold largest? assign
  simp only [table_getD, isForbidden_cellCost, Bool.not_not]
  split
  · next hnone =>
    have hfalse : ∀ i j, allowed i j = false := by
      intro i j
      have := List.filter_eq_nil_iff.mp hnone (cellCost (allowed i j))
        (List.mem_map.mpr ⟨(i, j), Grid.mem_places i j, rfl⟩)
      rw [isForbidden_cellCost] at this
      simpa using this
    simp [hfalse]
  · next first others hsome =>
    have hzero : ∀ d ∈ first :: others, d = Double.zero false := by
      intro d hd
      rw [← hsome] at hd
      obtain ⟨hmem, hallowed⟩ := List.mem_filter.mp hd
      obtain ⟨⟨i, j⟩, -, rfl⟩ := List.mem_map.mp hmem
      rw [isForbidden_cellCost, Bool.not_not] at hallowed
      rw [hallowed, cellCost, if_pos rfl]
    rw [hzero first List.mem_cons_self,
      foldl_greater fun d hd => hzero d (List.mem_cons_of_mem _ hd), guard_zero]
    show (do
      let pairs ← solveDoubles fun i j => guarded (allowed i j)
      return pairs.filter fun (i, j) => allowed i j) = _
    rw [solveDoubles_guarded]
    rfl

theorem size?_eq (allowed : Grid rows columns Bool) : size? allowed = .ok (size allowed) := by
  unfold size size?
  rw [largest?_eq]
  rfl

/-- The allowed pairs of an assignment. -/
def allowedPairs (allowed : Grid rows columns Bool) (pairs : Assignment rows columns) :
    Assignment rows columns :=
  pairs.filter fun p => allowed p.1 p.2

theorem size_eq (allowed : Grid rows columns Bool) :
    size allowed = (allowedPairs allowed (solve (penalty allowed))).length := by
  unfold size size?
  rw [largest?_eq]
  rfl

/-! ## Allowed pairs -/

variable {allowed : Grid rows columns Bool}

theorem allowedPairs_sublist (allowed : Grid rows columns Bool) (pairs : Assignment rows columns) :
    (allowedPairs allowed pairs).Sublist pairs := List.filter_sublist

theorem mem_allowedPairs {pairs : Assignment rows columns} {p : Fin rows × Fin columns} :
    p ∈ allowedPairs allowed pairs ↔ p ∈ pairs ∧ allowed p.1 p.2 = true := List.mem_filter

theorem allowedPairs_eq_self {pairs : Assignment rows columns}
    (h : ∀ p ∈ pairs, allowed p.1 p.2 = true) : allowedPairs allowed pairs = pairs :=
  List.filter_eq_self.mpr h

/-- An assignment costs one for each pair that is not allowed. -/
theorem total_penalty (allowed : Grid rows columns Bool) (pairs : Assignment rows columns) :
    total (penalty allowed) pairs =
      unitsPerOne * ((pairs.length : Int) - (allowedPairs allowed pairs).length) := by
  unfold allowedPairs
  induction pairs with
  | nil => rfl
  | cons p rest ih =>
    rw [total_cons, ih, penalty, List.length_cons, List.filter_cons]
    split
    · rw [List.length_cons]
      push_cast
      ring
    · push_cast
      ring

/-- No full assignment has more allowed pairs than a cheapest one. -/
theorem length_allowedPairs_le {pairs q : Assignment rows columns}
    (h : Cheapest (penalty allowed) pairs) (hq : Full q) :
    (allowedPairs allowed q).length ≤ (allowedPairs allowed pairs).length := by
  have hle := h.least q hq
  rw [total_penalty, total_penalty, h.full.length_eq, hq.length_eq] at hle
  have hunits : (0 : Int) < unitsPerOne := Int.natCast_pos.mpr unitsPerOne_pos
  have hcount := Int.le_of_mul_le_mul_left hle hunits
  omega

/-- Every cheapest assignment has as many allowed pairs as a largest matching. -/
theorem length_allowedPairs_eq {pairs : Assignment rows columns}
    (h : Cheapest (penalty allowed) pairs) : (allowedPairs allowed pairs).length = size allowed := by
  have hsolve := solve_cheapest (penalty allowed)
  rw [size_eq]
  exact le_antisymm (length_allowedPairs_le hsolve h.full) (length_allowedPairs_le h hsolve.full)

/-- A cheapest assignment is allowed as a whole if some full assignment is. -/
theorem length_allowedPairs_of_full {pairs q : Assignment rows columns}
    (h : Cheapest (penalty allowed) pairs) (hq : Full q) (hall : ∀ p ∈ q, allowed p.1 p.2 = true) :
    (allowedPairs allowed pairs).length = q.length := by
  have hleast := length_allowedPairs_le h hq
  have hmost := (allowedPairs_sublist allowed pairs).length_le
  rw [allowedPairs_eq_self hall] at hleast
  rw [h.full.length_eq, ← hq.length_eq] at hmost
  exact le_antisymm hmost hleast

/-- Where a full assignment of allowed cells exists, a largest matching is full. -/
theorem size_eq_min {q : Assignment rows columns} (hq : Full q)
    (hall : ∀ p ∈ q, allowed p.1 p.2 = true) : size allowed = min rows columns := by
  rw [size_eq, length_allowedPairs_of_full (solve_cheapest _) hq hall, hq.length_eq]

theorem size_le_min (allowed : Grid rows columns Bool) : size allowed ≤ min rows columns := by
  have hfull := (solve_cheapest (penalty allowed)).full
  rw [size_eq, ← hfull.length_eq]
  exact (allowedPairs_sublist allowed _).length_le

theorem size_le_rows (allowed : Grid rows columns Bool) : size allowed ≤ rows :=
  le_trans (size_le_min allowed) (Nat.min_le_left _ _)

theorem size_le_columns (allowed : Grid rows columns Bool) : size allowed ≤ columns :=
  le_trans (size_le_min allowed) (Nat.min_le_right _ _)

theorem length_allowedPairs_mono {allowed' : Grid rows columns Bool}
    (h : ∀ i j, allowed i j = true → allowed' i j = true) (pairs : Assignment rows columns) :
    (allowedPairs allowed pairs).length ≤ (allowedPairs allowed' pairs).length := by
  refine (List.monotone_filter_right pairs fun p : Fin rows × Fin columns => ?_).length_le
  exact Bool.le_iff_imp.mpr (h p.1 p.2)

/-- A largest matching can only grow with the allowed cells. -/
theorem size_mono {allowed' : Grid rows columns Bool}
    (h : ∀ i j, allowed i j = true → allowed' i j = true) : size allowed ≤ size allowed' := by
  have hsolve := solve_cheapest (penalty allowed)
  have hsolve' := solve_cheapest (penalty allowed')
  calc size allowed
      = (allowedPairs allowed (solve (penalty allowed))).length := size_eq allowed
    _ ≤ (allowedPairs allowed' (solve (penalty allowed))).length :=
        length_allowedPairs_mono h _
    _ ≤ (allowedPairs allowed' (solve (penalty allowed'))).length :=
        length_allowedPairs_le hsolve' hsolve.full
    _ = size allowed' := (size_eq allowed').symm

end Matching

end TreePredicate
