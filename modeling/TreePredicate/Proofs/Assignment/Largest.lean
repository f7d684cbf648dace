import Mathlib.Data.Finset.Card
import Mathlib.Order.Bounds.Basic
import TreePredicate.Proofs.Assignment.Pairing
import TreePredicate.Proofs.Predicate.Total

/-!
# What is found is a largest matching

A matching is a set of allowed cells no two of which share a row or a column. Each matching is part of
a full assignment, and among the full assignments a cheapest one keeps the most allowed pairs. So it
does not matter which cheapest assignment the solver finds, or how.

* `Assignment.exists_full` : pairs in distinct rows and distinct columns leave room to go on until the
  assignment is full;
* `Assignment.Solves`, `Assignment.assignWith` : all that is relied on of a solver, and what becomes
  of the assignments that it finds;
* `Matching.IsMatching`, `Matching.IsLargest` : matchings, and those that no other one exceeds;
* `IsMatching.card_le` : no matching has more cells than a cheapest assignment has allowed pairs;
* `Matching.isLargest_largestWith` : a largest matching is found, for grids of every shape.
-/

set_option autoImplicit false

namespace TreePredicate

/-! ## Completing an assignment -/

namespace Assignment

variable {rows columns : Nat}

/-- A list shorter than `n` lacks one of the numbers below `n`. -/
theorem exists_free {n : Nat} (xs : List (Fin n)) (h : xs.length < n) : ∃ x, x ∉ xs := by
  by_contra hall
  have hsubset : List.finRange n ⊆ xs := fun x _ => not_not.mp (not_exists.mp hall x)
  have hle := (List.nodup_finRange n).length_le_of_subset hsubset
  rw [List.length_finRange] at hle
  omega

theorem length_le_of_nodup {n : Nat} {xs : List (Fin n)} (h : xs.Nodup) : xs.length ≤ n := by
  have hle := h.length_le_of_subset fun x _ => List.mem_finRange x
  rwa [List.length_finRange] at hle

/-- Pairs in distinct rows and distinct columns are a part of a full assignment. -/
theorem exists_full (pairs : Assignment rows columns) (hrows : (pairs.map Prod.fst).Nodup)
    (hcolumns : (pairs.map Prod.snd).Nodup) : ∃ q, Full q ∧ pairs <:+ q := by
  have hlength : pairs.length ≤ min rows columns := by
    have hrowsLe := length_le_of_nodup hrows
    have hcolumnsLe := length_le_of_nodup hcolumns
    rw [List.length_map] at hrowsLe hcolumnsLe
    exact le_min hrowsLe hcolumnsLe
  -- by induction on the room that is left: while there is some, a row and a column are free
  induction hroom : min rows columns - pairs.length generalizing pairs with
  | zero => exact ⟨pairs, ⟨hrows, hcolumns, by omega⟩, List.suffix_rfl⟩
  | succ room ih =>
    obtain ⟨i, hi⟩ := exists_free (pairs.map Prod.fst) (by rw [List.length_map]; omega)
    obtain ⟨j, hj⟩ := exists_free (pairs.map Prod.snd) (by rw [List.length_map]; omega)
    obtain ⟨q, hq, hsuffix⟩ := ih ((i, j) :: pairs) (hrows.cons hi) (hcolumns.cons hj)
      (by rw [List.length_cons]; omega) (by rw [List.length_cons]; omega)
    exact ⟨q, hq, (List.suffix_cons _ _).trans hsuffix⟩

/-! ## Solvers -/

/-- What is relied on of a solver: finite costs have an assignment, and it finds a cheapest one. -/
def Solves (solver : Grid rows columns Double → Except Fault (Assignment rows columns)) : Prop :=
  ∀ cost, (∀ i j, (cost i j).isFinite = true) →
    ∃ pairs, solver cost = .ok pairs ∧ Cheapest (inUnits cost) pairs

theorem solves_solveDoubles :
    Solves (solveDoubles : Grid rows columns Double → Except Fault (Assignment rows columns)) :=
  fun _ hfinite => ⟨_, solveDoubles_of_finite hfinite, solve_cheapest _⟩

/-- An assignment in which infinite costs are forbidden, through a solver for the other ones. -/
def assignWith (solver : Grid rows columns Double → Except Fault (Assignment rows columns))
    (cost : Grid rows columns Double) : Except Fault (Assignment rows columns) :=
  match given? cost with
  | none => .ok []
  | some given => (solver given).map fun pairs => pairs.filter fun (i, j) => !isForbidden (cost i j)

theorem assign_eq_assignWith (cost : Grid rows columns Double) :
    assign cost = assignWith solveDoubles cost := assign_eq_given cost

/-- The solver is called unless all costs are forbidden. -/
theorem isForbidden_of_given?_eq_none {cost : Grid rows columns Double} (h : given? cost = none)
    (i : Fin rows) (j : Fin columns) : isForbidden (cost i j) = true := by
  unfold given? at h
  split at h
  · next hnil =>
    have hfree := List.filter_eq_nil_iff.mp hnil (cost i j)
      (List.mem_map.mpr ⟨(i, j), Grid.mem_places i j, rfl⟩)
    rwa [Bool.not_eq_true, Bool.not_eq_false'] at hfree
  · cases h

end Assignment

open Assignment

/-! ## Matchings -/

namespace Matching

variable {rows columns : Nat} {allowed : Grid rows columns Bool}

/-- Allowed cells no two of which share a row or a column. -/
structure IsMatching (allowed : Grid rows columns Bool) (cells : Finset (Fin rows × Fin columns)) :
    Prop where
  allowed : ∀ cell ∈ cells, allowed cell.1 cell.2 = true
  apart : ∀ cell ∈ cells, ∀ other ∈ cells, cell ≠ other → cell.1 ≠ other.1 ∧ cell.2 ≠ other.2

/-- Pairs that are a matching, and as many as any matching has. -/
structure IsLargest (allowed : Grid rows columns Bool) (pairs : Assignment rows columns) :
    Prop where
  nodup : pairs.Nodup
  isMatching : IsMatching allowed pairs.toFinset
  isGreatest : IsGreatest {n | ∃ cells, IsMatching allowed cells ∧ cells.card = n} pairs.length

theorem IsMatching.rows_nodup {cells : Finset (Fin rows × Fin columns)}
    (h : IsMatching allowed cells) : (cells.toList.map Prod.fst).Nodup := by
  refine List.Nodup.map_on (fun cell hcell other hother heq => ?_) cells.nodup_toList
  by_contra hne
  exact (h.apart cell (Finset.mem_toList.mp hcell) other (Finset.mem_toList.mp hother) hne).1 heq

theorem IsMatching.columns_nodup {cells : Finset (Fin rows × Fin columns)}
    (h : IsMatching allowed cells) : (cells.toList.map Prod.snd).Nodup := by
  refine List.Nodup.map_on (fun cell hcell other hother heq => ?_) cells.nodup_toList
  by_contra hne
  exact (h.apart cell (Finset.mem_toList.mp hcell) other (Finset.mem_toList.mp hother) hne).2 heq

/-- No matching has more cells than a cheapest assignment has allowed pairs. -/
theorem IsMatching.card_le {cells : Finset (Fin rows × Fin columns)}
    (hcells : IsMatching allowed cells) {pairs : Assignment rows columns}
    (h : Cheapest (penalty allowed) pairs) : cells.card ≤ (allowedPairs allowed pairs).length := by
  obtain ⟨q, hq, hsuffix⟩ := exists_full cells.toList hcells.rows_nodup hcells.columns_nodup
  have hall : ∀ cell ∈ cells.toList, allowed cell.1 cell.2 = true :=
    fun cell hcell => hcells.allowed cell (Finset.mem_toList.mp hcell)
  calc cells.card
      = (allowedPairs allowed cells.toList).length := by
        rw [allowedPairs_eq_self hall, Finset.length_toList]
    _ ≤ (allowedPairs allowed q).length := (hsuffix.sublist.filter _).length_le
    _ ≤ (allowedPairs allowed pairs).length := length_allowedPairs_le h hq

theorem isMatching_allowedPairs {pairs : Assignment rows columns} (h : Full pairs) :
    IsMatching allowed (allowedPairs allowed pairs).toFinset := by
  refine ⟨?_, ?_⟩
  · intro cell hcell
    exact (mem_allowedPairs.mp (List.mem_toFinset.mp hcell)).2
  · intro cell hcell other hother hne
    rw [List.mem_toFinset] at hcell hother
    refine ⟨fun heq => hne ?_, fun heq => hne ?_⟩
    · exact List.inj_on_of_nodup_map (rows_nodup_allowedPairs h) hcell hother heq
    · exact List.inj_on_of_nodup_map (columns_nodup_allowedPairs h) hcell hother heq

/-- The allowed pairs of a cheapest assignment are a largest matching. -/
theorem isLargest_allowedPairs {pairs : Assignment rows columns}
    (h : Cheapest (penalty allowed) pairs) : IsLargest allowed (allowedPairs allowed pairs) := by
  have hnodup : (allowedPairs allowed pairs).Nodup := (rows_nodup_allowedPairs h.full).of_map
  have hmatching : IsMatching allowed (allowedPairs allowed pairs).toFinset :=
    isMatching_allowedPairs h.full
  refine ⟨hnodup, hmatching, ⟨_, hmatching, List.toFinset_card_of_nodup hnodup⟩, ?_⟩
  rintro n ⟨cells, hcells, rfl⟩
  exact hcells.card_le h

/-! ## Matchings that are found -/

/-- A set of allowed cells in distinct rows and columns, through a solver. -/
def largestWith? (solver : Grid rows columns Double → Except Fault (Assignment rows columns))
    (allowed : Grid rows columns Bool) : Except Fault (Assignment rows columns) :=
  assignWith solver fun i j => cellCost (allowed i j)

/-- The number of its cells. -/
def sizeWith? (solver : Grid rows columns Double → Except Fault (Assignment rows columns))
    (allowed : Grid rows columns Bool) : Except Fault Nat :=
  (largestWith? solver allowed).map List.length

theorem largest?_eq_largestWith (allowed : Grid rows columns Bool) :
    largest? allowed = largestWith? solveDoubles allowed := assign_eq_assignWith _

theorem size?_eq_sizeWith (allowed : Grid rows columns Bool) :
    size? allowed = sizeWith? solveDoubles allowed := by
  rw [size?, sizeWith?, largest?_eq_largestWith]

/-- With any solver, the allowed pairs of a cheapest assignment are found. -/
theorem largestWith?_eq {solver : Grid rows columns Double → Except Fault (Assignment rows columns)}
    (hsolver : Solves solver) (allowed : Grid rows columns Bool) :
    ∃ pairs, Cheapest (penalty allowed) pairs ∧
      largestWith? solver allowed = .ok (allowedPairs allowed pairs) := by
  unfold largestWith? assignWith
  simp only [isForbidden_cellCost, Bool.not_not]
  rcases hgiven : given? fun i j => cellCost (allowed i j) with _ | given
  · have hforbidden : ∀ i j, allowed i j = false := by
      intro i j
      have hcell := isForbidden_of_given?_eq_none hgiven i j
      rwa [isForbidden_cellCost, Bool.not_eq_true'] at hcell
    refine ⟨_, solve_cheapest _, ?_⟩
    simp [allowedPairs, hforbidden]
  · have hguarded : given = fun i j => guarded (allowed i j) := by
      rcases given?_cellCost allowed with hnone | ⟨-, hsome⟩
      · rw [hgiven] at hnone
        cases hnone
      · exact Option.some.inj (hgiven.symm.trans hsome)
    obtain ⟨pairs, hpairs, hcheapest⟩ :=
      hsolver _ fun i j => isFinite_guarded (allowed i j)
    rw [inUnits_guarded] at hcheapest
    refine ⟨pairs, hcheapest, ?_⟩
    show (solver given).map _ = _
    rw [hguarded, hpairs]
    rfl

/-- For a grid of every shape, and with every solver that finds cheapest assignments of finite costs,
the pairs that are found are a largest matching, and the size is the largest one of a matching. The
solver that is used is such a one. -/
theorem isLargest_largestWith
    {solver : Grid rows columns Double → Except Fault (Assignment rows columns)}
    (hsolver : Solves solver) (allowed : Grid rows columns Bool) :
    (∃ pairs, largestWith? solver allowed = .ok pairs ∧
      sizeWith? solver allowed = .ok pairs.length ∧ IsLargest allowed pairs) ∧
    ∃ pairs, largest? allowed = .ok pairs ∧ size? allowed = .ok pairs.length ∧
      IsLargest allowed pairs := by
  have hfound : ∀ solver, Solves solver → ∃ pairs, largestWith? solver allowed = .ok pairs ∧
      sizeWith? solver allowed = .ok pairs.length ∧ IsLargest allowed pairs := by
    intro solver hsolver
    obtain ⟨pairs, hcheapest, hlargest⟩ := largestWith?_eq hsolver allowed
    refine ⟨_, hlargest, ?_, isLargest_allowedPairs hcheapest⟩
    rw [sizeWith?, hlargest]
    rfl
  rw [largest?_eq_largestWith, size?_eq_sizeWith]
  exact ⟨hfound solver hsolver, hfound solveDoubles solves_solveDoubles⟩

/-- A grid with more rows than columns, and with allowed cells in one of the columns only. -/
def narrow : Grid 3 2 Bool := fun i j => i.val != 1 && j.val == 0

theorem isLargest_largestWith_narrow :
    (∃ pairs, largestWith? solveDoubles narrow = .ok pairs ∧
      sizeWith? solveDoubles narrow = .ok pairs.length ∧ IsLargest narrow pairs) ∧
    ∃ pairs, largest? narrow = .ok pairs ∧ size? narrow = .ok pairs.length ∧
      IsLargest narrow pairs :=
  isLargest_largestWith solves_solveDoubles narrow

end Matching

end TreePredicate
